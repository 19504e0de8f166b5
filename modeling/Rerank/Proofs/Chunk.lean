import Rerank.Proofs.Keyed
import Rerank.Proofs.Ranking.Soundness
import Rerank.Proofs.Text.ByteOrder

/-!
# What is sent of a chunk

The text of a chunk goes out under one line for each key of its metadata.  The lines come in the
order of the bytes of the keys, whatever the order in which the metadata was given, so what is sent
depends on the last value of each key only.
-/

namespace Rerank.Chunk

/-- Entries with each key of a list of pairs once, in the order of the bytes of the keys, and with
the last value that the list gives it. -/
structure Collated (pairs entries : List (String × String)) : Prop where
  ordered : entries.Pairwise fun left right =>
    Text.Utf8.encode left.1 < Text.Utf8.encode right.1
  keys : ∀ key, key ∈ entries.map Prod.fst ↔ key ∈ pairs.map Prod.fst
  last : ∀ key value, (key, value) ∈ entries ↔ Keyed.LastGiven pairs key value

/-- Chunks of one text whose lists of metadata give the same keys the same last values. -/
inductive SameMatter : Chunk → Chunk → Prop where
  | intro (id id' text : String) {pairs pairs' : List (String × String)}
      (hlast : ∀ key value, Keyed.LastGiven pairs key value ↔ Keyed.LastGiven pairs' key value) :
      SameMatter ((new id text).withAll pairs) ((new id' text).withAll pairs')

/-- Metadata given pair by pair is the map built from the pairs. -/
theorem withAll_new (id text : String) (pairs : List (String × String)) :
    (new id text).withAll pairs = { id, text, metadata := Keyed.ofList pairs } := by
  induction pairs using List.reverseRecOn with
  | nil => rfl
  | append_singleton pairs pair ih =>
    rw [Keyed.ofList_concat, withAll, List.foldl_append]
    change ((new id text).withAll pairs).withMetadata pair.1 pair.2 = _
    rw [ih, withMetadata]

theorem collated_ofList (pairs : List (String × String)) : Collated pairs (Keyed.ofList pairs) where
  ordered := (Keyed.ordered_ofList pairs).imp Text.Utf8.encode_lt_encode_iff.2
  keys key := by
    constructor
    · intro hkey
      obtain ⟨entry, hentry, rfl⟩ := List.mem_map.1 hkey
      exact List.mem_map_of_mem (Keyed.mem_of_mem_ofList hentry)
    · intro hkey
      obtain ⟨value, hlast⟩ := Keyed.exists_lastGiven hkey
      exact List.mem_map_of_mem (Keyed.mem_ofList_iff.2 hlast)
  last _ _ := Keyed.mem_ofList_iff

/-- The lines of the keys and an empty line come before the text, unless there are no keys. -/
theorem content_withAll_new (id text : String) (pairs : List (String × String)) :
    ((new id text).withAll pairs).content =
      if pairs = [] then text
      else "\n".intercalate ((Keyed.ofList pairs).map fun entry => entry.1 ++ ": " ++ entry.2) ++
        "\n\n" ++ text := by
  have hplain : isPlain { id, text, metadata := Keyed.ofList pairs } = true ↔ pairs = [] := by
    rw [isPlain, Keyed.isEmpty_ofList, List.isEmpty_iff]
  rw [withAll_new, content]
  simp only [hplain]
  rfl

theorem SameMatter.content_eq {chunk chunk' : Chunk} (hsame : SameMatter chunk chunk') :
    chunk.content = chunk'.content := by
  obtain ⟨id, id', text, hlast⟩ := hsame
  rw [withAll_new, withAll_new, Keyed.ofList_eq_ofList_iff.2 hlast]
  rfl

theorem map_content_eq {passages passages' : List Chunk}
    (hsame : List.Forall₂ SameMatter passages passages') :
    passages.map Passage.content = passages'.map Passage.content := by
  induction hsame with
  | nil => rfl
  | cons hfirst _ ih => exact congrArg₂ List.cons hfirst.content_eq ih

/-- What is sent of a chunk is canonical: its text alone if no metadata was given, and else a line
for each key in the order of their bytes, with the last value of the key, then an empty line and the
text.  Chunks that differ in the order and the repetitions of their metadata have the same content,
and calls for them are seen to be the same, the payloads of their requests included. -/
theorem content_canonical [Url.Idna] :
    (∀ id text pairs, ∃ entries, Collated pairs entries ∧
      ((new id text).withAll pairs).content =
        if pairs = [] then text
        else "\n".intercalate (entries.map fun entry => entry.1 ++ ": " ++ entry.2) ++
          "\n\n" ++ text) ∧
    (∀ chunk chunk', SameMatter chunk chunk' → chunk.content = chunk'.content) ∧
    ∀ (σ : Type) (channel : Channel σ) (client : Reranker) (query : String) (state : σ)
      (passages passages' : List Chunk), List.Forall₂ SameMatter passages passages' →
        let run := (client.rerank channel query passages).run state
        let run' := (client.rerank channel query passages').run state
        run.trace = run'.trace ∧ run.state = run'.state := by
  refine ⟨?_, ?_, ?_⟩
  · intro id text pairs
    exact ⟨Keyed.ofList pairs, collated_ofList pairs, content_withAll_new id text pairs⟩
  · intro chunk chunk' hsame
    exact hsame.content_eq
  · intro σ channel client query state passages passages' hsame
    simp only [Reranker.run_rerank, map_content_eq hsame, and_self]

/-- A key that is given twice, and the same metadata in another order. -/
theorem content_canonical_repeatedKey :
    let chunk := (new "n1" "body").withAll [("title", "Draft"), ("author", "ops"), ("title", "Guide")]
    let chunk' := (new "n2" "body").withAll [("author", "ops"), ("title", "Guide")]
    SameMatter chunk chunk' ∧ chunk.content = chunk'.content ∧
      chunk.content = "author: ops\ntitle: Guide\n\nbody" ∧
      ((Reranker.hostedInPairs.rerank Channel.scripted "q" [chunk]).run pairReplies).trace =
        ((Reranker.hostedInPairs.rerank Channel.scripted "q" [chunk']).run pairReplies).trace := by
  have hlast : ∀ key value,
      Keyed.LastGiven [("title", "Draft"), ("author", "ops"), ("title", "Guide")] key value ↔
        Keyed.LastGiven [("author", "ops"), ("title", "Guide")] key value :=
    Keyed.ofList_eq_ofList_iff.1 (by decide)
  have hsame := SameMatter.intro "n1" "n2" "body" hlast
  exact ⟨hsame, content_canonical.2.1 _ _ hsame, by decide +kernel,
    (content_canonical.2.2 _ _ _ _ _ _ _ (.cons hsame .nil)).1⟩

end Rerank.Chunk
