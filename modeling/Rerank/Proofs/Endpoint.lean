import Rerank.Endpoint
import Rerank.Proofs.Url.Located

/-!
# Base urls and the urls below them

A base url with a special scheme keeps scheme and authority of the url that was configured.  The
urls that are derived from it keep them, too: they are read as the base url with one more segment.
With any other scheme there are such urls as well.
-/

namespace Rerank

namespace Text

/-- Text is what is left of it and the slashes that were at its end. -/
theorem exists_slashes (s : String) :
    ∃ n, s.toList = (trimEndSlashes s).toList ++ List.replicate n '/' := by
  have hslashes : s.toList.rtakeWhile (· == '/') =
      List.replicate (s.toList.rtakeWhile (· == '/')).length '/' := by
    apply List.eq_replicate_of_mem
    intro c hc
    have hslash := List.mem_rtakeWhile_imp hc
    exact eq_of_beq hslash
  refine ⟨(s.toList.rtakeWhile (· == '/')).length, ?_⟩
  rw [← hslashes, trimEndSlashes, String.toList_ofList]
  exact List.rdropWhile_append_rtakeWhile.symm

/-- Text that ends otherwise is left as it is. -/
theorem trimEndSlashes_of_concat {s : String} {front : List Char} {c : Char}
    (hs : s.toList = front ++ [c]) (hc : c ≠ '/') : trimEndSlashes s = s := by
  have htrim : trimEnd (· == '/') s.toList = s.toList := by
    rw [hs]
    exact List.rdropWhile_concat_neg _ front c (by simpa using hc)
  rw [trimEndSlashes, htrim, String.ofList_toList]

/-- Slashes after a text are trimmed off with those at its end. -/
theorem trimEndSlashes_of_slashes {s t : String} {n : Nat}
    (hs : s.toList = t.toList ++ List.replicate n '/') : trimEndSlashes s = trimEndSlashes t := by
  have htrim (n : Nat) : trimEnd (· == '/') (t.toList ++ List.replicate n '/') =
      trimEnd (· == '/') t.toList := by
    induction n with
    | zero => rw [List.replicate_zero, List.append_nil]
    | succ n ih =>
      rw [List.replicate_succ', ← List.append_assoc, ← ih]
      exact List.rdropWhile_concat_pos _ _ '/' rfl
  rw [trimEndSlashes, hs, htrim, trimEndSlashes]

/-- Slashes are trimmed off what follows a text with another end. -/
theorem toList_trimEndSlashes {s : String} {front rest : List Char} (hs : s.toList = front ++ rest)
    (hfront : ∀ c, front.getLast? = some c → c ≠ '/') :
    (trimEndSlashes s).toList = front ++ trimEnd (· == '/') rest := by
  have hstop : front.reverse.dropWhile (· == '/') = front.reverse := by
    cases hback : front.reverse with
    | nil => rfl
    | cons c more =>
      have hlast : front.getLast? = some c := by rw [← List.head?_reverse, hback]; rfl
      rw [List.dropWhile_cons_of_neg (by simp [hfront c hlast])]
  rw [trimEndSlashes, String.toList_ofList, hs, trimEnd, trimEnd, List.reverse_append,
    List.dropWhile_append]
  split
  · next hempty =>
    rw [hstop, List.reverse_reverse, List.isEmpty_iff.1 hempty]
    simp
  · rw [List.reverse_append, List.reverse_reverse]

end Text

namespace Endpoint

/-- A base path has segments as they are read, the last of which is the version. -/
theorem plain_versioned {segments : List String}
    (hplain : ∀ s ∈ segments, Url.Path.Plain s.toList) :
    (∀ s ∈ versioned segments, Url.Path.Plain s.toList) ∧
      (versioned segments).getLast? = some "v1" := by
  have hkept : ∀ s ∈ Text.trimEnd String.isEmpty segments, Url.Path.Plain s.toList := by
    intro s hs
    apply hplain
    exact (List.rdropWhile_prefix _ _).subset hs
  rw [versioned]
  split
  · next hlast => exact ⟨hkept, by simpa using hlast⟩
  · refine ⟨?_, by simp⟩
    rw [List.forall_mem_append]
    exact ⟨hkept, by simpa using (by decide : Url.Path.Plain "v1".toList)⟩

section Derived

variable {scheme : String} {port : Nat} {authority : Url.Authority} {segments : List String}
  {name : String}

theorem text_below (scheme : String) (authority : Url.Authority) (segments : List String)
    (name : String) :
    (Url.ofParts scheme authority (segments ++ [name])).text =
      (Url.ofParts scheme authority segments).text ++ "/" ++ name := by
  apply String.toList_inj.1
  simp [Url.toList_text_ofParts, Url.Path.toList_text_rooted]

theorem extended_ofParts (hlast : segments.getLast? = some "v1") :
    extended (Url.ofParts scheme authority segments) name =
      (Url.ofParts scheme authority (segments ++ [name])).text := by
  obtain ⟨front, rfl⟩ := List.getLast?_eq_some_iff.1 hlast
  have hend : (Url.ofParts scheme authority (front ++ ["v1"])).text.toList =
      ((Url.ofParts scheme authority front).text.toList ++ ['/', 'v']) ++ ['1'] := by
    rw [text_below]
    simp
  rw [extended, Text.trimEndSlashes_of_concat hend (by decide), ← text_below]

/-- A url that ends in the version is extended by a segment. -/
theorem parse_extended [Url.Idna] (hscheme : Url.SchemeKind.of scheme = .special port)
    (hauthority : authority.Canonical (.special port))
    (hplain : ∀ s ∈ segments, Url.Path.Plain s.toList) (hlast : segments.getLast? = some "v1")
    (hname : Url.Path.Plain name.toList) :
    Url.parse (extended (Url.ofParts scheme authority segments) name) =
      .ok (Url.ofParts scheme authority (segments ++ [name])) := by
  rw [extended_ofParts hlast]
  apply Url.parse_text_ofParts hscheme hauthority (by simp)
  rw [List.forall_mem_append]
  exact ⟨hplain, by simpa using hname⟩

end Derived

variable [Url.Idna]

theorem normalize_eq_ok {raw : String} {base : Url} {records : List LogRecord}
    (hnormal : normalize raw = .ok (base, records)) :
    ∃ url segments, Url.parse raw = .ok url ∧ url.path = .rooted segments ∧
      base = { url.withSegments (versioned segments) with query := none, fragment := none } := by
  rw [normalize] at hnormal
  split at hnormal
  · contradiction
  next url hparse =>
  split at hnormal
  · next segments _ hpath =>
    cases hnormal
    exact ⟨url, segments, hparse, hpath, rfl⟩
  · contradiction

/-- A base url is the url that was configured with another path. -/
theorem eq_ofParts_of_normalize {raw : String} {base url : Url} {records : List LogRecord}
    {port : Nat} (hnormal : normalize raw = .ok (base, records)) (hparse : Url.parse raw = .ok url)
    (hscheme : Url.SchemeKind.of url.scheme = .special port) :
    ∃ authority segments, url.authority = some authority ∧ authority.Canonical (.special port) ∧
      (∀ s ∈ segments, Url.Path.Plain s.toList) ∧ segments.getLast? = some "v1" ∧
      base = Url.ofParts url.scheme authority segments := by
  obtain ⟨parsed, given, hparsed, hpath, rfl⟩ := normalize_eq_ok hnormal
  obtain rfl : url = parsed := Except.ok.inj (hparse.symm.trans hparsed)
  obtain ⟨authority, segments, hurl⟩ := Url.canonical_of_parse hparse hscheme
  obtain rfl : given = segments := Url.Path.rooted.inj (hpath.symm.trans hurl.path_eq)
  obtain ⟨hplain, hlast⟩ := plain_versioned hurl.plain
  refine ⟨authority, versioned given, hurl.authority_eq, hurl.authority, hplain, hlast, ?_⟩
  rw [Url.withSegments, hscheme, Url.ofParts, ← hurl.authority_eq]

/-- The url at which an operation of the service under a base url is found. -/
def IsBelow (base : Url) (name : String) (url : Url) : Prop :=
  url.scheme = base.scheme ∧ url.authority = base.authority ∧ url.query = none ∧
    url.fragment = none ∧ url.text = base.text ++ "/" ++ name ∧
    ∃ segments, base.path = .rooted segments ∧ url.path = .rooted (segments ++ [name])

section Operations

variable {raw : String} {base url : Url} {records : List LogRecord} {port : Nat}
  (hnormal : normalize raw = .ok (base, records)) (hparse : Url.parse raw = .ok url)
  (hscheme : Url.SchemeKind.of url.scheme = .special port)

include hnormal hparse hscheme

theorem exists_parse_extended {name : String} (hname : Url.Path.Plain name.toList) :
    ∃ found, Url.parse (extended base name) = .ok found ∧ IsBelow base name found ∧
      found.scheme = url.scheme ∧ found.authority = url.authority := by
  obtain ⟨authority, segments, hauthority, hcanonical, hplain, hlast, rfl⟩ :=
    eq_ofParts_of_normalize hnormal hparse hscheme
  refine ⟨_, parse_extended hscheme hcanonical hplain hlast hname, ?_, rfl, hauthority.symm⟩
  exact ⟨rfl, rfl, rfl, rfl, text_below _ _ _ _, segments, rfl, rfl⟩

/-- The models are listed below the base url. -/
theorem exists_modelsUrl :
    ∃ found, modelsUrl base = .ok found ∧ IsBelow base "models" found ∧
      found.scheme = url.scheme ∧ found.authority = url.authority := by
  obtain ⟨found, hfound, hbelow⟩ :=
    exists_parse_extended hnormal hparse hscheme (by decide : Url.Path.Plain "models".toList)
  refine ⟨found, ?_, hbelow⟩
  rw [modelsUrl]
  exact except_mapError_eq_ok_iff.2 hfound

/-- Passages are scored below the base url. -/
theorem exists_rankingUrl :
    ∃ found, rankingUrl base = .ok found ∧ IsBelow base "ranking" found ∧
      found.scheme = url.scheme ∧ found.authority = url.authority := by
  obtain ⟨found, hfound, hbelow⟩ :=
    exists_parse_extended hnormal hparse hscheme (by decide : Url.Path.Plain "ranking".toList)
  refine ⟨found, ?_, hbelow⟩
  rw [rankingUrl]
  exact except_mapError_eq_ok_iff.2 hfound

end Operations

section AnyScheme

variable {raw : String} {base : Url} {records : List LogRecord}

/-- A base url has a host, a path with segments, and nothing else. -/
theorem located_of_normalize (hnormal : normalize raw = .ok (base, records)) :
    ∃ authority segments, base.Located authority ∧ base.path = .rooted segments ∧
      base.query = none ∧ base.fragment = none := by
  rw [normalize] at hnormal
  split at hnormal
  · contradiction
  next url hparse =>
  split at hnormal
  · next given hhost _ =>
    cases hnormal
    obtain ⟨authority, hurl⟩ := Url.located_of_parse hparse hhost
    have hkept : (url.withSegments (versioned given)).scheme = url.scheme ∧
        (url.withSegments (versioned given)).authority = url.authority ∧
        ∃ segments, (url.withSegments (versioned given)).path = .rooted segments := by
      rw [Url.withSegments]
      split <;> exact ⟨rfl, rfl, _, rfl⟩
    obtain ⟨hscheme, hauthority, segments, hpath⟩ := hkept
    refine ⟨authority, segments, ⟨?_, ?_, ?_, ?_⟩, hpath, rfl, rfl⟩
    · exact hscheme ▸ hurl.scheme
    · exact hauthority.trans hurl.authority_eq
    · exact hscheme ▸ hurl.canonical
    · exact hscheme ▸ hurl.bare
  · contradiction

omit [Url.Idna] in
/-- After a path without slashes at its end a slash is the first or follows the first one. -/
theorem exists_cons_of_trimEnd (segments : List String) (after : List Char) :
    ∃ rest, Text.trimEnd (· == '/') (Url.Path.rooted segments).text.toList ++ '/' :: after =
      '/' :: rest := by
  have hprefix : Text.trimEnd (· == '/') (Url.Path.rooted segments).text.toList <+:
      (Url.Path.rooted segments).text.toList := List.rdropWhile_prefix _ _
  cases hkept : Text.trimEnd (· == '/') (Url.Path.rooted segments).text.toList with
  | nil => exact ⟨_, rfl⟩
  | cons first more =>
    obtain ⟨tail, htail⟩ := hkept ▸ hprefix
    rw [Url.Path.toList_text_rooted] at htail
    cases segments with
    | nil => contradiction
    | cons segment later =>
      obtain rfl := (List.cons.inj htail).1
      exact ⟨_, rfl⟩

/-- A base url with a name after it is a url. -/
theorem exists_parse_of_normalize (hnormal : normalize raw = .ok (base, records)) {name : String}
    {c : Char} (hlast : name.toList.getLast? = some c) (hc : 0x20 < c.toNat) :
    ∃ found, Url.parse (extended base name) = .ok found := by
  obtain ⟨authority, segments, hurl, hpath, hquery, hfragment⟩ := located_of_normalize hnormal
  have htext : base.text.toList = ((base.scheme.toList ++ [':', '/', '/']) ++
      authority.text.toList) ++ (Url.Path.rooted segments).text.toList := by
    simp [Url.text, hurl.authority_eq, hpath, hquery, hfragment]
  obtain ⟨rest, hrest⟩ := exists_cons_of_trimEnd segments name.toList
  have hextended : (extended base name).toList = base.scheme.toList ++ ':' :: '/' :: '/' ::
      (authority.text.toList ++ '/' :: rest) := by
    rw [← hrest]
    simp [extended, Text.toList_trimEndSlashes htext fun c => hurl.canonical.ne_slash_of_getLast?]
  apply hurl.exists_parse hextended
  obtain ⟨front, hname⟩ := List.getLast?_eq_some_iff.1 hlast
  have hend : (extended base name).toList =
      ((Text.trimEndSlashes base.text).toList ++ '/' :: front) ++ [c] := by
    simp [extended, hname]
  intro d hd
  rw [hend, List.getLast?_concat] at hd
  exact Option.some.inj hd ▸ hc

/-- The url of the models can be built below every base url. -/
theorem exists_modelsUrl_of_normalize (hnormal : normalize raw = .ok (base, records)) :
    ∃ found, modelsUrl base = .ok found := by
  obtain ⟨found, hfound⟩ :=
    exists_parse_of_normalize hnormal (show "models".toList.getLast? = some 's' by decide)
      (by decide)
  refine ⟨found, ?_⟩
  rw [modelsUrl]
  exact except_mapError_eq_ok_iff.2 hfound

/-- So can the url at which passages are scored. -/
theorem exists_rankingUrl_of_normalize (hnormal : normalize raw = .ok (base, records)) :
    ∃ found, rankingUrl base = .ok found := by
  obtain ⟨found, hfound⟩ :=
    exists_parse_of_normalize hnormal (show "ranking".toList.getLast? = some 'g' by decide)
      (by decide)
  refine ⟨found, ?_⟩
  rw [rankingUrl]
  exact except_mapError_eq_ok_iff.2 hfound

end AnyScheme

end Endpoint

end Rerank
