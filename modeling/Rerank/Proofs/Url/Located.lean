import Rerank.Proofs.Url.RoundTrip

/-!
# Urls with a host

The text of a url with a host begins with its scheme and its authority, whatever the scheme is.  Any
text that begins so, goes on with a slash and does not end in white space is a url, whatever its
path is: no path, query or fragment keeps a text from being read.
-/

namespace Rerank.Url

/-- Urls with a host as they are read. -/
structure Located [Idna] (url : Url) (authority : Authority) : Prop where
  scheme : IsScheme url.scheme
  authority_eq : url.authority = some authority
  canonical : authority.Canonical (SchemeKind.of url.scheme)
  /-- Where a file is, its host says alone. -/
  bare : SchemeKind.of url.scheme = .file → authority.text = authority.host.text

section Reading

theorem takeWhile_append_cons {p : Char → Bool} {front : List Char} {c : Char}
    (hfront : ∀ d ∈ front, p d = true) (hc : p c = false) (rest : List Char) :
    (front ++ c :: rest).takeWhile p = front := by
  rw [List.takeWhile_append_of_pos hfront, List.takeWhile_cons_of_neg (by simp [hc]),
    List.append_nil]

variable [Idna] {authority : Authority} {host : Host} {scheme : String}

/-- The host of a file can be read if its text can. -/
theorem exists_readFileHost (hhost : host.ReadsBack .file) (rest : List Char) :
    ∃ found, readFileHost (host.text.toList ++ '/' :: rest) = .ok found := by
  have hinner (c : Char) (hc : c ∈ host.text.toList) := isInner_iff.1 (hhost.inner c hc).1
  have hfront : (host.text.toList ++ '/' :: rest).takeWhile
      (fun c => !(Path.isSlash true c || isPathEnd c)) = host.text.toList :=
    takeWhile_append_cons (fun c hc => by simp [(hinner c hc).2]) rfl rest
  have hread : Host.readSpecial host.text.toList = .ok host := hhost.read
  rw [readFileHost, hfront, withoutBreaks_of_lt fun c hc => (hinner c hc).1]
  dsimp only [bind, Except.bind, pure, Except.pure]
  rw [hread]
  -- The host may also be a drive letter, empty or the local host; none of them is refused.
  split
  · exact ⟨_, rfl⟩
  split
  · exact ⟨_, rfl⟩
  dsimp only
  split <;> exact ⟨_, rfl⟩

theorem exists_readFile (hhost : host.ReadsBack .file) (rest : List Char) :
    ∃ url, readFile ('/' :: '/' :: (host.text.toList ++ '/' :: rest)) = .ok url := by
  obtain ⟨found, hfound⟩ := exists_readFileHost hhost rest
  have hslash (cs : List Char) : afterSlash? ('/' :: cs) = some cs := rfl
  rw [readFile, hslash]
  dsimp only
  rw [hslash]
  dsimp only
  rw [hfound]
  exact ⟨_, rfl⟩

theorem exists_readSpecial {port : Nat} (hauthority : authority.Canonical (.special port))
    (rest : List Char) :
    ∃ url, readSpecial scheme (.special port) (authority.text.toList ++ '/' :: rest) =
      .ok url := by
  have hfront : (authority.text.toList ++ '/' :: rest).takeWhile
      (fun c => !(Path.isSlash true c || isPathEnd c)) = authority.text.toList :=
    takeWhile_append_cons
      (fun c hc => by simp [(isInner_iff.1 (hauthority.inner c hc)).2]) rfl rest
  rw [readSpecial, hfront, Authority.readAuthority_text hauthority]
  exact ⟨_, rfl⟩

theorem exists_readOther (hauthority : authority.Canonical .other) (rest : List Char) :
    ∃ url, readOther scheme ('/' :: '/' :: (authority.text.toList ++ '/' :: rest)) = .ok url := by
  have hfront : (authority.text.toList ++ '/' :: rest).takeWhile
      (fun c => !(c == '/' || isPathEnd c)) = authority.text.toList := by
    refine takeWhile_append_cons (fun c hc => ?_) rfl rest
    obtain ⟨-, hslash, hend⟩ := isInner_iff.1 (hauthority.inner c hc)
    simp only [Path.isSlash, Bool.or_eq_false_iff] at hslash
    simp [hslash.1, hend]
  rw [readOther]
  dsimp only
  rw [hfront, Authority.readAuthority_text hauthority]
  exact ⟨_, rfl⟩

/-- A text that begins with a scheme and an authority is a url. -/
theorem Located.exists_parse {url : Url} (hurl : url.Located authority) {s : String}
    {rest : List Char}
    (hs : s.toList = url.scheme.toList ++ ':' :: '/' :: '/' ::
      (authority.text.toList ++ '/' :: rest))
    (hlast : ∀ c, s.toList.getLast? = some c → 0x20 < c.toNat) : ∃ found, parse s = .ok found := by
  have hscheme (c : Char) (hc : c ∈ url.scheme.toList) :=
    isSchemeChar_facts (hurl.scheme.chars c hc).1
  have hauthority (c : Char) (hc : c ∈ authority.text.toList) :=
    isInner_iff.1 (hurl.canonical.inner c hc)
  have htrimmed : trimmed s = s.toList := by
    apply trimBoth_of_ends
    · intro c hc
      obtain ⟨letter, hletter, -⟩ := hurl.scheme.letter
      have hfirst : s.toList.head? = some letter := by rw [hs, List.head?_append, hletter]; rfl
      obtain rfl := Option.some.inj (hfirst.symm.trans hc)
      simpa using (hscheme _ (List.mem_of_head? hletter)).1
    · intro c hc
      simpa using hlast c hc
  have hbreaks : Path.withoutBreaks s.toList = url.scheme.toList ++ ':' :: '/' :: '/' ::
      (authority.text.toList ++ '/' :: Path.withoutBreaks rest) := by
    have hpart {first second : List Char} (hfirst : ∀ c ∈ first, 0x20 < c.toNat) :
        Path.withoutBreaks (first ++ second) = first ++ Path.withoutBreaks second := by
      conv_rhs => rw [← withoutBreaks_of_lt hfirst]
      exact List.filter_append first second
    rw [hs, hpart fun c hc => (hscheme c hc).1]
    change _ ++ ':' :: '/' :: '/' :: Path.withoutBreaks (authority.text.toList ++ _) = _
    rw [hpart fun c hc => (hauthority c hc).1]
    rfl
  rw [parse, htrimmed, hbreaks, hurl.scheme.splitScheme?_append]
  dsimp only
  -- Each kind of scheme has its own reader of what follows the colon.
  have hcanonical := hurl.canonical
  cases hkind : SchemeKind.of url.scheme with
  | file =>
    have hcolon : ∀ c ∈ url.scheme.toList, (c != ':') = true :=
      fun c hc => bne_iff_ne.2 (hscheme c hc).2.1
    rw [hkind] at hcanonical
    rw [hs, List.dropWhile_append_of_pos hcolon, List.dropWhile_cons_of_neg (by simp),
      hurl.bare hkind]
    exact exists_readFile hcanonical.host rest
  | special port =>
    rw [hkind] at hcanonical
    dsimp only
    rw [hcanonical.dropWhile_slashes]
    exact exists_readSpecial hcanonical _
  | other =>
    rw [hkind] at hcanonical
    exact exists_readOther hcanonical _

theorem canonical_of_readFileHost {cs rest : List Char}
    (hread : readFileHost cs = .ok (host, rest)) (hne : host.isEmpty = false) :
    host.Canonical := by
  rw [readFileHost] at hread
  dsimp only [bind, Except.bind, pure, Except.pure] at hread
  split at hread
  · cases hread
    contradiction
  split at hread
  · cases hread
    contradiction
  split at hread
  · contradiction
  next found hfound =>
  split at hread
  · cases hread
    contradiction
  · cases hread
    exact Host.canonical_of_readSpecial hfound

theorem authority_of_readFile {cs : List Char} {url : Url} (hread : readFile cs = .ok url) :
    ∃ host, url.authority = some { username := "", password := none, host, port := none } ∧
      (host.isEmpty = false → host.Canonical) := by
  have hdriven {host : Host} (hhost : host.isEmpty = false → host.Canonical) (drive : Bool)
      (hne : (if drive then Host.name "" else host).isEmpty = false) :
      (if drive then Host.name "" else host).Canonical := by
    cases drive with
    | true => contradiction
    | false => exact hhost hne
  rw [readFile] at hread
  split at hread
  case' h_2 => split at hread
  all_goals
    obtain ⟨⟨host, rest⟩, hhost, hurl⟩ := except_bind_eq_ok_iff.1 hread
    cases hurl
    refine ⟨_, rfl, hdriven ?_ _⟩
  · cases hhost
    exact fun hne => absurd hne (by decide)
  · exact canonical_of_readFileHost hhost
  · cases hhost
    exact fun hne => absurd hne (by decide)

theorem canonical_of_readOther {cs : List Char} {url : Url} (hread : readOther scheme cs = .ok url)
    (hurl : url.authority = some authority) (hne : authority.host.isEmpty = false) :
    authority.Canonical .other := by
  unfold readOther at hread
  split at hread
  · obtain ⟨⟨found, left⟩, hauthority, hrest⟩ := except_bind_eq_ok_iff.1 hread
    obtain ⟨parts, hparts, hfound⟩ := except_bind_eq_ok_iff.1 hrest
    cases hparts
    cases hfound
    cases hurl
    exact Authority.canonical_of_readAuthority hauthority fun _ => hne
  · obtain ⟨⟨found, rest⟩, hparts, hrest⟩ := except_bind_eq_ok_iff.1 hread
    cases hparts
    cases hrest
    contradiction

/-- Whatever is read as a url with a host is located by it. -/
theorem located_of_parse {s : String} {url : Url} (hparse : parse s = .ok url)
    (hhost : url.hasHost = true) : ∃ authority, url.Located authority := by
  rw [parse] at hparse
  split at hparse
  · contradiction
  next scheme rest hsplit =>
  have hscheme := isScheme_of_splitScheme? hsplit
  split at hparse
  · next hkind =>
    obtain ⟨host, hauthority, hcanonical⟩ := authority_of_readFile hparse
    have hfile := scheme_of_readFile hparse
    have hne : host.isEmpty = false := by simpa [hasHost, hauthority] using hhost
    refine ⟨_, ⟨?_, hauthority, ?_, fun _ => ?_⟩⟩
    · exact isScheme_of_isSpecial (by rw [hfile]; rfl)
    · rw [hfile]
      exact Authority.canonical_of_host ((hcanonical hne).readsBack rfl)
    · apply String.toList_inj.1
      simp [Authority.toList_text, Authority.credentials?, Authority.portText]
  · next port hkind =>
    obtain ⟨authority, segments, hurl⟩ := canonical_of_readSpecial hkind hparse
    refine ⟨authority, isScheme_of_isSpecial (by rw [hurl.scheme]; rfl), hurl.authority_eq, ?_,
      fun hfile => ?_⟩
    · rw [hurl.scheme]
      exact hurl.authority
    · rw [hurl.scheme] at hfile
      contradiction
  · next hkind =>
    have hother := scheme_of_readOther hparse
    rw [hasHost] at hhost
    split at hhost
    · next authority hauthority =>
      have hne : authority.host.isEmpty = false := by simpa using hhost
      refine ⟨authority, hother ▸ hscheme, hauthority, ?_, fun hfile => ?_⟩
      · rw [hother, hkind]
        exact canonical_of_readOther hparse hauthority hne
      · rw [hother, hkind] at hfile
        contradiction
    · contradiction

end Reading

end Rerank.Url
