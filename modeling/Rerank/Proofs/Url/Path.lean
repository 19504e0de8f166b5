import Rerank.Proofs.Url.Encoding
import Rerank.Url.Path

/-!
# Paths of special urls

The path of a url with a special scheme is a list of segments without slashes or dots, encoded.
Such a path is read back from its text.
-/

namespace Rerank.Url

/-- Cutting a text is cutting a list. -/
theorem splitOn_eq_splitOnP (p : Char → Bool) (cs : List Char) :
    splitOn p cs = cs.splitOnP p := by
  induction cs with
  | nil => rw [splitOn, List.splitOnP_nil]
  | cons c rest ih =>
    rw [splitOn, List.splitOnP_cons_eq_if_modifyHead, ih]
    split
    · rfl
    · cases hpieces : rest.splitOnP p with
      | nil => exact absurd hpieces (List.splitOnP_ne_nil p rest)
      | cons piece pieces => rfl

theorem splitOn_ne_nil (p : Char → Bool) (cs : List Char) : splitOn p cs ≠ [] := by
  rw [splitOn_eq_splitOnP]
  exact List.splitOnP_ne_nil p cs

/-- Pieces do not hold what they are cut at. -/
theorem not_of_mem_splitOn {p : Char → Bool} {cs piece : List Char} (hpiece : piece ∈ splitOn p cs)
    {c : Char} (hc : c ∈ piece) : p c = false := by
  induction cs generalizing piece with
  | nil =>
    rw [splitOn, List.mem_singleton] at hpiece
    subst hpiece
    contradiction
  | cons d rest ih =>
    rw [splitOn] at hpiece
    split at hpiece
    · obtain rfl | hrest := List.mem_cons.1 hpiece
      · contradiction
      · exact ih hrest hc
    · next hd =>
      split at hpiece
      · next hnil => exact absurd hnil (splitOn_ne_nil p rest)
      · next first pieces hpieces =>
        rw [hpieces] at ih
        obtain rfl | hrest := List.mem_cons.1 hpiece
        · obtain rfl | htail := List.mem_cons.1 hc
          · exact Bool.eq_false_iff.2 hd
          · exact ih List.mem_cons_self htail
        · exact ih (List.mem_cons_of_mem first hrest) hc

namespace Path

/-- Segments as they stand in the path of a special url. -/
structure Plain (segment : List Char) : Prop where
  kept : ∀ c ∈ segment, Kept inPathSet c ∧ isSlash true c = false
  notSingle : isSingleDot segment = false
  notDouble : isDoubleDot segment = false

theorem plain_iff {segment : List Char} :
    Plain segment ↔
      (segment.all fun c => decide (Kept inPathSet c ∧ isSlash true c = false)) = true ∧
        isSingleDot segment = false ∧ isDoubleDot segment = false := by
  simp only [List.all_eq_true, decide_eq_true_eq]
  constructor
  · rintro ⟨hkept, hsingle, hdouble⟩
    exact ⟨hkept, hsingle, hdouble⟩
  · rintro ⟨hkept, hsingle, hdouble⟩
    exact ⟨hkept, hsingle, hdouble⟩

instance (segment : List Char) : Decidable (Plain segment) :=
  decidable_of_iff _ plain_iff.symm

theorem plain_nil : Plain [] :=
  ⟨nofun, rfl, rfl⟩

theorem isSlash_of_mem_escapeChars : ∀ c ∈ escapeChars, isSlash true c = false := by
  have hall : (escapeChars.all fun c => isSlash true c == false) = true := by decide
  simpa using hall

/-- A segment that is encoded to dots is one of dots. -/
theorem any_of_percentEncode {words : List String} {segment : List Char}
    (hwords : (words.all fun word => escapesDots word.toList) = true)
    (hencoded : (words.any fun word =>
      (percentEncode inPathSet segment).map Char.toLower == word.toList) = true) :
    (words.any fun word => segment.map Char.toLower == word.toList) = true := by
  obtain ⟨word, hmem, hword⟩ := List.any_eq_true.1 hencoded
  have hlower := eq_of_beq hword
  have hescapes : escapesDots word.toList = true := List.all_eq_true.1 hwords word hmem
  rw [← hlower] at hescapes
  rw [percentEncode_of_escapesDots rfl hescapes] at hencoded
  exact hencoded

/-- Encoding a segment makes no dots of it. -/
theorem plain_percentEncode {segment : List Char} (hslash : ∀ c ∈ segment, isSlash true c = false)
    (hsingle : isSingleDot segment = false) (hdouble : isDoubleDot segment = false) :
    Plain (percentEncode inPathSet segment) := by
  constructor
  case kept =>
    intro c hc
    refine ⟨kept_of_mem_percentEncode kept_inPathSet_of_mem_escapeChars hc, ?_⟩
    obtain hescape | ⟨hmem, -⟩ := mem_percentEncode hc
    · exact isSlash_of_mem_escapeChars c hescape
    · exact hslash c hmem
  case notSingle =>
    apply Bool.eq_false_iff.2
    intro hencoded
    have hdot : isSingleDot segment = true := any_of_percentEncode (by decide) hencoded
    rw [hsingle] at hdot
    contradiction
  case notDouble =>
    apply Bool.eq_false_iff.2
    intro hencoded
    have hdots : isDoubleDot segment = true := any_of_percentEncode (by decide) hencoded
    rw [hdouble] at hdots
    contradiction

/-- A segment other than dots is taken. -/
theorem Walk.step_of_not_dots {segment : List Char} (hsingle : isSingleDot segment = false)
    (hdouble : isDoubleDot segment = false) (walk : Walk) :
    walk.step false segment =
      { walk with segments := percentEncode inPathSet segment :: walk.segments } := by
  unfold Walk.step
  rw [if_neg (by simp [hdouble]), if_neg (by simp [hsingle])]
  rfl

/-- Plain segments are all taken as they are. -/
theorem foldl_step_of_plain {pieces : List (List Char)} (hpieces : ∀ piece ∈ pieces, Plain piece)
    (walk : Walk) :
    pieces.foldl (Walk.step false) walk =
      { walk with segments := pieces.reverse ++ walk.segments } := by
  induction pieces generalizing walk with
  | nil => rfl
  | cons piece rest ih =>
    have hpiece := hpieces piece List.mem_cons_self
    have hencode : percentEncode inPathSet piece = piece :=
      percentEncode_of_kept fun c hc => (hpiece.kept c hc).1
    rw [List.foldl_cons, Walk.step_of_not_dots hpiece.notSingle hpiece.notDouble, hencode,
      ih fun s hs => hpieces s (List.mem_cons_of_mem piece hs)]
    simp

theorem resolve_of_plain {pieces : List (List Char)} (hpieces : ∀ piece ∈ pieces, Plain piece) :
    resolve pieces = pieces.map String.ofList := by
  have hlast : Plain (pieces.getLastD []) := by
    cases pieces using List.reverseRecOn with
    | nil => exact plain_nil
    | append_singleton front last =>
      rw [List.getLastD_concat]
      exact hpieces last (by simp)
  rw [resolve, foldl_step_of_plain hpieces, Walk.finish, hlast.notSingle, hlast.notDouble]
  simp [Walk.toList]

/-- After any step the segments are still plain. -/
theorem plain_step {walk : Walk} {segment : List Char} (hwalk : ∀ s ∈ walk.segments, Plain s)
    (hslash : ∀ c ∈ segment, isSlash true c = false) :
    ∀ s ∈ (walk.step false segment).segments, Plain s := by
  cases hdouble : isDoubleDot segment with
  | true =>
    unfold Walk.step
    rw [if_pos hdouble]
    cases hsegments : walk.segments with
    | nil => simp [hsegments]
    | cons last rest =>
      dsimp only
      rw [hsegments] at hwalk
      split
      · rwa [hsegments]
      · exact fun s hs => hwalk s (List.mem_cons_of_mem last hs)
  | false =>
    cases hsingle : isSingleDot segment with
    | true =>
      unfold Walk.step
      rwa [if_neg (by simp [hdouble]), if_pos hsingle]
    | false =>
      rw [Walk.step_of_not_dots hsingle hdouble]
      exact List.forall_mem_cons.2 ⟨plain_percentEncode hslash hsingle hdouble, hwalk⟩

theorem plain_foldl_step {pieces : List (List Char)}
    (hslash : ∀ piece ∈ pieces, ∀ c ∈ piece, isSlash true c = false) {walk : Walk}
    (hwalk : ∀ s ∈ walk.segments, Plain s) :
    ∀ s ∈ (pieces.foldl (Walk.step false) walk).segments, Plain s := by
  induction pieces generalizing walk with
  | nil => exact hwalk
  | cons piece rest ih =>
    apply ih
    · exact fun s hs => hslash s (List.mem_cons_of_mem piece hs)
    · exact plain_step hwalk (hslash piece List.mem_cons_self)

theorem plain_toList {walk : Walk} (hwalk : ∀ s ∈ walk.segments, Plain s) :
    ∀ s ∈ walk.toList, Plain s.toList := by
  intro s hs
  obtain ⟨segment, hsegment, rfl⟩ := List.mem_map.1 hs
  rw [String.toList_ofList]
  exact hwalk segment (List.mem_reverse.1 hsegment)

/-- A path has segments, and all of them are plain. -/
theorem plain_resolve {pieces : List (List Char)} (hne : pieces ≠ [])
    (hslash : ∀ piece ∈ pieces, ∀ c ∈ piece, isSlash true c = false) :
    resolve pieces ≠ [] ∧ ∀ s ∈ resolve pieces, Plain s.toList := by
  have hwalk : ∀ s ∈ (pieces.foldl (Walk.step false) ⟨[], false⟩).segments, Plain s :=
    plain_foldl_step hslash nofun
  have hlast : pieces.getLastD [] = pieces.getLast hne := by
    rw [List.getLastD_eq_getLast?, List.getLast?_eq_some_getLast hne]
    rfl
  rw [resolve, Walk.finish, hlast]
  split
  · refine ⟨by simp [Walk.toList], plain_toList ?_⟩
    exact List.forall_mem_cons.2 ⟨plain_nil, hwalk⟩
  · next hdots =>
    refine ⟨?_, plain_toList hwalk⟩
    rw [Bool.or_eq_true, not_or, Bool.not_eq_true, Bool.not_eq_true] at hdots
    rw [Walk.toList, ← List.dropLast_append_getLast hne, List.foldl_append, List.foldl_cons,
      List.foldl_nil, Walk.step_of_not_dots hdots.2 hdots.1]
    simp

theorem plain_ofSpecial (cs : List Char) :
    ofSpecial cs ≠ [] ∧ ∀ s ∈ ofSpecial cs, Plain s.toList :=
  plain_resolve (splitOn_ne_nil _ _) fun _ hpiece _ hc => not_of_mem_splitOn hpiece hc

theorem toList_text_rooted (segments : List String) :
    (text (.rooted segments)).toList = segments.flatMap fun s => '/' :: s.toList := by
  rw [text, String.toList_join, List.flatMap_map]
  simp

/-- A path is cut into its segments. -/
theorem splitOn_segments {s : String} {segments : List String}
    (hplain : ∀ t ∈ s :: segments, Plain t.toList) :
    splitOn (isSlash true) (s.toList ++ segments.flatMap fun t => '/' :: t.toList) =
      (s :: segments).map String.toList := by
  have hs : ∀ c ∈ s.toList, isSlash true c = false :=
    fun c hc => ((hplain s List.mem_cons_self).kept c hc).2
  rw [splitOn_eq_splitOnP]
  induction segments generalizing s with
  | nil =>
    rw [List.flatMap_nil, List.append_nil, List.splitOnP_eq_singleton hs]
    rfl
  | cons t rest ih =>
    have hrest : ∀ u ∈ t :: rest, Plain u.toList := fun u hu => hplain u (List.mem_cons_of_mem s hu)
    have ht : ∀ c ∈ t.toList, isSlash true c = false :=
      fun c hc => ((hrest t List.mem_cons_self).kept c hc).2
    rw [List.flatMap_cons, List.cons_append, List.splitOnP_append_cons_of_forall_mem hs _ rfl,
      ih hrest ht]
    rfl

/-- The segments of a path are read back from its text. -/
theorem ofSpecial_text {segments : List String} (hne : segments ≠ [])
    (hplain : ∀ s ∈ segments, Plain s.toList) :
    ofSpecial (text (.rooted segments)).toList = segments := by
  obtain ⟨s, rest, rfl⟩ := List.exists_cons_of_ne_nil hne
  rw [toList_text_rooted, List.flatMap_cons, ofSpecial]
  change resolve (splitOn (isSlash true) (s.toList ++ _)) = _
  rw [splitOn_segments hplain, resolve_of_plain, List.map_map]
  · simp [Function.comp_def]
  · intro piece hpiece
    obtain ⟨t, ht, rfl⟩ := List.mem_map.1 hpiece
    exact hplain t ht

end Path

end Rerank.Url
