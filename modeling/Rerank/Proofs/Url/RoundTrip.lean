import Rerank.Proofs.Reply
import Rerank.Proofs.Url.Authority

/-!
# Special urls are read back

A text that is read as a url with a special scheme gives a canonical one: each part of it is encoded
and can be told from the next.  A canonical url without query and fragment is what its text is read
as.
-/

namespace Rerank.Url

/-- The url with the given parts and nothing else. -/
def ofParts (scheme : String) (authority : Authority) (segments : List String) : Url where
  scheme
  authority := some authority
  path := .rooted segments
  query := none
  fragment := none

/-- Urls with a special scheme as they are read. -/
structure Canonical [Idna] (url : Url) (port : Nat) (authority : Authority)
    (segments : List String) : Prop where
  scheme : SchemeKind.of url.scheme = .special port
  authority_eq : url.authority = some authority
  authority : authority.Canonical (.special port)
  path_eq : url.path = .rooted segments
  segments_ne_nil : segments ≠ []
  plain : ∀ s ∈ segments, Path.Plain s.toList

section Scheme

/-- Schemes as they are read: in lower case, with a letter at the front. -/
structure IsScheme (scheme : String) : Prop where
  letter : ∃ c, scheme.toList.head? = some c ∧ c.isAlpha = true
  chars : ∀ c ∈ scheme.toList, isSchemeChar c = true ∧ c.toLower = c

theorem isSchemeChar_facts {c : Char} (hc : isSchemeChar c = true) :
    0x20 < c.toNat ∧ c ≠ ':' ∧ isSchemeChar c.toLower = true ∧
      (c.isAlpha = true → c.toLower.isAlpha = true) := by
  have hlow : c.toNat < 0x80 := by
    simp only [isSchemeChar, Char.isAlphanum, Char.isAlpha, Char.isUpper, Char.isLower,
      Char.isDigit, Bool.or_eq_true, Bool.and_eq_true, decide_eq_true_eq, beq_iff_eq,
      UInt32.le_iff_toNat_le] at hc
    obtain ((((hupper | hlower) | hdigit) | rfl) | rfl) | rfl := hc
    · exact Nat.lt_of_le_of_lt hupper.2 (by decide)
    · exact Nat.lt_of_le_of_lt hlower.2 (by decide)
    · exact Nat.lt_of_le_of_lt hdigit.2 (by decide)
    all_goals decide
  have hall := of_forall_ascii (fun c => !isSchemeChar c ||
    decide (0x20 < c.toNat) && c != ':' && isSchemeChar c.toLower &&
      (!c.isAlpha || c.toLower.isAlpha)) (by decide +kernel) hlow
  simpa [hc, and_assoc, Decidable.imp_iff_not_or] using hall

theorem isScheme_of_splitScheme? {cs rest : List Char} {scheme : String}
    (hsplit : splitScheme? cs = some (scheme, rest)) : IsScheme scheme := by
  rw [splitScheme?] at hsplit
  split at hsplit
  · next letter more _ hfront _ =>
    split at hsplit
    · next hletter =>
      cases hsplit
      have hchars : ∀ c ∈ letter :: more, isSchemeChar c = true := by
        intro c hc
        rw [← hfront] at hc
        exact List.mem_takeWhile_imp hc
      refine ⟨⟨letter.toLower, by simp, ?_⟩, ?_⟩
      · exact (isSchemeChar_facts (hchars letter List.mem_cons_self)).2.2.2 hletter
      · intro c hc
        rw [String.toList_ofList] at hc
        obtain ⟨d, hd, rfl⟩ := List.mem_map.1 hc
        exact ⟨(isSchemeChar_facts (hchars d hd)).2.2.1, Char.toLower_toLower_eq_toLower d⟩
    · contradiction
  · contradiction

theorem IsScheme.splitScheme?_append {scheme : String} (hscheme : IsScheme scheme)
    (rest : List Char) : splitScheme? (scheme.toList ++ ':' :: rest) = some (scheme, rest) := by
  obtain ⟨letter, hhead, hletter⟩ := hscheme.letter
  obtain ⟨more, hcons⟩ := List.head?_eq_some_iff.1 hhead
  have hchars : ∀ c ∈ scheme.toList, isSchemeChar c = true := fun c hc => (hscheme.chars c hc).1
  have hlower : scheme.toList.map Char.toLower = scheme.toList := by
    conv_rhs => rw [← List.map_id scheme.toList]
    exact List.map_congr_left fun c hc => (hscheme.chars c hc).2
  have hcolon : isSchemeChar ':' = false := by decide
  rw [splitScheme?, List.takeWhile_append_of_pos hchars, List.dropWhile_append_of_pos hchars,
    List.takeWhile_cons_of_neg (by simp [hcolon]), List.dropWhile_cons_of_neg (by simp [hcolon]),
    List.append_nil, hcons]
  simp only [hletter, if_true]
  rw [← hcons, hlower, String.ofList_toList]

theorem isScheme_of_isSpecial {scheme : String}
    (hscheme : (SchemeKind.of scheme).isSpecial = true) : IsScheme scheme := by
  have hknown (known : String)
      (hsplit : splitScheme? (known.toList ++ [':']) = some (known, [])) : IsScheme known :=
    isScheme_of_splitScheme? hsplit
  unfold SchemeKind.of at hscheme
  split at hscheme
  all_goals first | contradiction | exact hknown _ rfl

end Scheme

section Text

/-- Nothing is trimmed off a text with ends that are kept. -/
theorem trimBoth_of_ends {p : Char → Bool} {cs : List Char}
    (hfirst : ∀ c, cs.head? = some c → p c = false)
    (hlast : ∀ c, cs.getLast? = some c → p c = false) : Text.trimBoth p cs = cs := by
  have hdrop {l : List Char} (hl : ∀ c, l.head? = some c → p c = false) : l.dropWhile p = l := by
    cases l with
    | nil => rfl
    | cons c rest => rw [List.dropWhile_cons_of_neg (by simp [hl c rfl])]
  have hback : ∀ c, cs.reverse.head? = some c → p c = false := by
    intro c hc
    rw [List.head?_reverse] at hc
    exact hlast c hc
  rw [Text.trimBoth, hdrop hfirst, Text.trimEnd, hdrop hback, List.reverse_reverse]

/-- Visible text has no breaks to leave out. -/
theorem withoutBreaks_of_lt {cs : List Char} (hcs : ∀ c ∈ cs, 0x20 < c.toNat) :
    Path.withoutBreaks cs = cs := by
  apply List.filter_eq_self.2
  intro c hc
  have hlow := hcs c hc
  rw [Bool.not_eq_true', Bool.eq_false_iff]
  intro hbreak
  simp only [Path.isBreak, Bool.or_eq_true, beq_iff_eq] at hbreak
  obtain (rfl | rfl) | rfl := hbreak <;> contradiction

theorem toList_text_ofParts (scheme : String) (authority : Authority) (segments : List String) :
    (ofParts scheme authority segments).text.toList =
      scheme.toList ++ ':' :: '/' :: '/' :: (authority.text.toList ++
        (Path.rooted segments).text.toList) := by
  simp [text, ofParts]

/-- A path holds nothing that would end it or be left out of it. -/
theorem path_of_plain {segments : List String} (hplain : ∀ s ∈ segments, Path.Plain s.toList) :
    ∀ c ∈ (Path.rooted segments).text.toList, 0x20 < c.toNat ∧ isPathEnd c = false := by
  intro c hc
  rw [Path.toList_text_rooted] at hc
  obtain ⟨s, hs, hmem⟩ := List.mem_flatMap.1 hc
  obtain rfl | hsegment := List.mem_cons.1 hmem
  · decide
  · obtain ⟨hkept, hslash⟩ := (hplain s hs).kept c hsegment
    obtain ⟨hlow, -, hend⟩ := isInner_iff.1 (isInner_of_kept_inPathSet hkept hslash)
    exact ⟨hlow, hend⟩

end Text

section Parts

variable [Idna] {scheme : String} {port : Nat} {authority : Authority} {segments : List String}

theorem readSpecial_text (hauthority : authority.Canonical (.special port)) (hne : segments ≠ [])
    (hplain : ∀ s ∈ segments, Path.Plain s.toList) :
    readSpecial scheme (.special port)
        (authority.text.toList ++ (Path.rooted segments).text.toList) =
      .ok (ofParts scheme authority segments) := by
  have hend : ∀ c ∈ authority.text.toList,
      (!(Path.isSlash true c || isPathEnd c)) = true := by
    intro c hc
    obtain ⟨-, hslash, hend⟩ := isInner_iff.1 (hauthority.inner c hc)
    simp [hslash, hend]
  have hpath : ∀ c ∈ (Path.rooted segments).text.toList, (!isPathEnd c) = true := by
    intro c hc
    rw [(path_of_plain hplain c hc).2]
    rfl
  have hstart : (Path.rooted segments).text.toList.takeWhile
      (fun c => !(Path.isSlash true c || isPathEnd c)) = [] := by
    rw [Path.toList_text_rooted]
    cases segments with
    | nil => contradiction
    | cons s rest => rfl
  rw [readSpecial, List.takeWhile_append_of_pos hend, hstart, List.append_nil, List.drop_left,
    Authority.readAuthority_text hauthority, List.dropWhile_eq_nil_iff.2 hpath,
    List.takeWhile_eq_self_iff.2 hpath, Path.ofSpecial_text hne hplain]
  rfl

/-- A canonical url is read back from its text. -/
theorem parse_text_ofParts (hscheme : SchemeKind.of scheme = .special port)
    (hauthority : authority.Canonical (.special port)) (hne : segments ≠ [])
    (hplain : ∀ s ∈ segments, Path.Plain s.toList) :
    parse (ofParts scheme authority segments).text = .ok (ofParts scheme authority segments) := by
  have hread : IsScheme scheme := isScheme_of_isSpecial (by rw [hscheme]; rfl)
  have hvisible : ∀ c ∈ (ofParts scheme authority segments).text.toList, 0x20 < c.toNat := by
    simp only [toList_text_ofParts, List.forall_mem_append, List.forall_mem_cons]
    refine ⟨?_, by decide, by decide, by decide, ?_, ?_⟩
    · exact fun c hc => (isSchemeChar_facts (hread.chars c hc).1).1
    · exact fun c hc => (isInner_iff.1 (hauthority.inner c hc)).1
    · exact fun c hc => (path_of_plain hplain c hc).1
  have htrimmed : trimmed (ofParts scheme authority segments).text =
      (ofParts scheme authority segments).text.toList := by
    apply trimBoth_of_ends
    · intro c hc
      simpa using hvisible c (List.mem_of_head? hc)
    · intro c hc
      simpa using hvisible c (List.mem_of_getLast? hc)
  have hbreaks := withoutBreaks_of_lt hvisible
  rw [parse, htrimmed, hbreaks, toList_text_ofParts, hread.splitScheme?_append]
  dsimp only
  rw [hscheme, hauthority.dropWhile_slashes]
  exact readSpecial_text hauthority hne hplain

end Parts

section Reading

variable [Idna]

theorem scheme_of_readFile {cs : List Char} {url : Url} (hread : readFile cs = .ok url) :
    url.scheme = "file" := by
  rw [readFile] at hread
  split at hread
  case' h_2 => split at hread
  all_goals
    obtain ⟨_, -, hurl⟩ := except_bind_eq_ok_iff.1 hread
    cases hurl
    rfl

theorem scheme_of_readOther {scheme : String} {cs : List Char} {url : Url}
    (hread : readOther scheme cs = .ok url) : url.scheme = scheme := by
  unfold readOther at hread
  split at hread
  · obtain ⟨_, -, hrest⟩ := except_bind_eq_ok_iff.1 hread
    obtain ⟨_, -, hurl⟩ := except_bind_eq_ok_iff.1 hrest
    cases hurl
    rfl
  · obtain ⟨_, -, hurl⟩ := except_bind_eq_ok_iff.1 hread
    cases hurl
    rfl

theorem canonical_of_readSpecial {scheme : String} {port : Nat} {cs : List Char} {url : Url}
    (hscheme : SchemeKind.of scheme = .special port)
    (hread : readSpecial scheme (.special port) cs = .ok url) :
    ∃ authority segments, url.Canonical port authority segments := by
  obtain ⟨⟨authority, rest⟩, hauthority, hurl⟩ := except_bind_eq_ok_iff.1 hread
  cases hurl
  obtain ⟨hne, hplain⟩ := Path.plain_ofSpecial _
  exact ⟨authority, _, hscheme, rfl, Authority.canonical_of_readAuthority hauthority nofun, rfl,
    hne, hplain⟩

/-- Whatever is read as a special url is canonical. -/
theorem canonical_of_parse {s : String} {url : Url} {port : Nat} (hparse : parse s = .ok url)
    (hscheme : SchemeKind.of url.scheme = .special port) :
    ∃ authority segments, url.Canonical port authority segments := by
  rw [parse] at hparse
  split at hparse
  · contradiction
  next scheme rest _ =>
  split at hparse
  · rw [scheme_of_readFile hparse] at hscheme
    contradiction
  · next kindPort hkind =>
    obtain ⟨authority, segments, hurl⟩ := canonical_of_readSpecial hkind hparse
    obtain rfl : kindPort = port := SchemeKind.special.inj (hurl.scheme.symm.trans hscheme)
    exact ⟨authority, segments, hurl⟩
  · next hkind =>
    rw [scheme_of_readOther hparse, hkind] at hscheme
    contradiction

end Reading

end Rerank.Url
