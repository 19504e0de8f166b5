import Rerank.Proofs.Endpoint
import Rerank.Url.KnownNames

/-!
# Base urls are in normal form

Every text that is read as a url with a host gives a base url, and no other text does.  If requests
can be made with the scheme, the base url differs from the url that was given only in what its path
ends with and in having neither query nor fragment.  It is what its own text gives.
-/

namespace Rerank

namespace Url

section Rooted

variable [Idna]

theorem exists_rooted_of_readFile {cs : List Char} {url : Url} (hread : readFile cs = .ok url) :
    ∃ segments, url.path = .rooted segments := by
  rw [readFile] at hread
  split at hread
  case' h_2 => split at hread
  all_goals
    obtain ⟨_, -, hurl⟩ := except_bind_eq_ok_iff.1 hread
    cases hurl
    exact ⟨_, rfl⟩

/-- After an authority, even an empty one, a path consists of segments. -/
theorem exists_rooted_of_readOther {scheme : String} {cs : List Char} {url : Url}
    (hread : readOther scheme cs = .ok url) (hhost : url.hasHost = true) :
    ∃ segments, url.path = .rooted segments := by
  unfold readOther at hread
  split at hread
  · obtain ⟨_, -, hrest⟩ := except_bind_eq_ok_iff.1 hread
    obtain ⟨_, hparts, hurl⟩ := except_bind_eq_ok_iff.1 hrest
    cases hparts
    cases hurl
    exact ⟨_, rfl⟩
  · obtain ⟨_, hparts, hurl⟩ := except_bind_eq_ok_iff.1 hread
    cases hparts
    cases hurl
    contradiction

/-- A url with a host has a path that consists of segments. -/
theorem exists_rooted_of_parse {s : String} {url : Url} (hparse : parse s = .ok url)
    (hhost : url.hasHost = true) : ∃ segments, url.path = .rooted segments := by
  rw [parse] at hparse
  split at hparse
  · contradiction
  split at hparse
  · exact exists_rooted_of_readFile hparse
  · obtain ⟨_, -, hurl⟩ := except_bind_eq_ok_iff.1 hparse
    cases hurl
    exact ⟨_, rfl⟩
  · exact exists_rooted_of_readOther hparse hhost

end Rooted

namespace Path

theorem toList_text_concat (segments : List String) (s : String) :
    (text (.rooted (segments ++ [s]))).toList =
      (text (.rooted segments)).toList ++ '/' :: s.toList := by
  simp [toList_text_rooted]

theorem Plain.slash_not_mem {segment : List Char} (hplain : Plain segment) : '/' ∉ segment :=
  fun hmem => absurd (hplain.kept '/' hmem).2 (by decide)

section Slashless

variable {segments : List String} (hslash : ∀ s ∈ segments, '/' ∉ s.toList)

include hslash

/-- Slashes at the end of a path are empty segments. -/
theorem trimEndSlashes_text :
    Text.trimEndSlashes (text (.rooted segments)) =
      text (.rooted (Text.trimEnd String.isEmpty segments)) := by
  induction segments using List.reverseRecOn with
  | nil => rfl
  | append_singleton front s ih =>
    obtain ⟨hfront, hs⟩ := List.forall_mem_append.1 hslash
    -- An empty last segment is one more slash at the end, and any other one ends the text.
    obtain hnil | ⟨start, c, hend⟩ := List.eq_nil_or_concat' s.toList
    · have hempty : s.isEmpty = true := by simpa using hnil
      have hkept : Text.trimEnd String.isEmpty (front ++ [s]) =
          Text.trimEnd String.isEmpty front := List.rdropWhile_concat_pos _ front s hempty
      rw [hkept, ← ih hfront, Text.trimEndSlashes, Text.trimEndSlashes, toList_text_concat, hnil]
      exact congrArg String.ofList (List.rdropWhile_concat_pos _ _ '/' rfl)
    · have hempty : ¬ s.isEmpty = true := by
        rw [String.isEmpty_iff]
        rintro rfl
        simp at hend
      have hc : c ≠ '/' := by
        rintro rfl
        exact hs s (List.mem_singleton_self s) (by simp [hend])
      have hkept : Text.trimEnd String.isEmpty (front ++ [s]) = front ++ [s] :=
        List.rdropWhile_concat_neg _ front s hempty
      rw [hkept]
      apply Text.trimEndSlashes_of_concat (c := c) _ hc
      · exact (text (.rooted front)).toList ++ '/' :: start
      · rw [toList_text_concat, hend]
        simp

/-- A path ends in a slash and a name if the name is its last segment. -/
theorem suffix_text_iff {name : String} (hname : '/' ∉ name.toList) :
    '/' :: name.toList <:+ (text (.rooted segments)).toList ↔ segments.getLast? = some name := by
  have hback {s : String} (hs : '/' ∉ s.toList) (front : List Char) :
      (front ++ '/' :: s.toList).reverse.takeWhile (· != '/') = s.toList.reverse := by
    rw [List.reverse_append, List.reverse_cons, List.append_assoc]
    refine takeWhile_append_cons (fun c hc => ?_) (by simp) _
    rw [bne_iff_ne]
    rintro rfl
    exact hs (List.mem_reverse.1 hc)
  induction segments using List.reverseRecOn with
  | nil => simp [toList_text_rooted]
  | append_singleton front s _ =>
    have hs : '/' ∉ s.toList := hslash s (by simp)
    rw [toList_text_concat, List.getLast?_concat, Option.some.injEq]
    constructor
    · rintro ⟨start, htext⟩
      -- What stands behind the last slash is the same, however the text is cut.
      have hsame : name.toList.reverse = s.toList.reverse := by
        rw [← hback hname start, htext, hback hs]
      exact (String.toList_inj.1 (List.reverse_injective hsame)).symm
    · rintro rfl
      exact List.suffix_append _ _

end Slashless

end Path

end Url

namespace Endpoint

/-- A path ends in the version. -/
def IsVersioned (path : String) : Prop :=
  "/v1".toList <:+ path.toList

/-- What is known of the base url that a text gives, with its log records, if the text is read as
`url`.  Of the path of `url` the slashes at its end are left out. -/
structure NormalForm [Url.Idna] (raw : String) (url base : Url) (records : List LogRecord) :
    Prop where
  scheme_eq : base.scheme = url.scheme
  /-- The authority is user name, password, host and port. -/
  authority_eq : base.authority = url.authority
  query_eq : base.query = none
  fragment_eq : base.fragment = none
  of_versioned : IsVersioned (Text.trimEndSlashes url.path.text) →
    base.path.text = Text.trimEndSlashes url.path.text ∧ records = []
  of_unversioned : ¬ IsVersioned (Text.trimEndSlashes url.path.text) →
    base.path.text = Text.trimEndSlashes url.path.text ++ "/v1" ∧
      records = [.unversionedBaseUrl raw]
  normalize_text : normalize base.text = .ok (base, [])

section Acceptance

variable [Url.Idna]

/-- A base url can be made of exactly what is read as a url with a host. -/
theorem normalize_of_hasHost {raw : String} {url : Url} (hparse : Url.parse raw = .ok url)
    (hhost : url.hasHost = true) :
    ∃ segments, url.path = .rooted segments ∧ normalize raw =
      .ok ({ url.withSegments (versioned segments) with query := none, fragment := none },
        if lacksVersion segments then [.unversionedBaseUrl raw] else []) := by
  obtain ⟨segments, hpath⟩ := Url.exists_rooted_of_parse hparse hhost
  refine ⟨segments, hpath, ?_⟩
  rw [normalize, hparse]
  dsimp only
  rw [hhost, hpath]

theorem normalize_of_no_host {raw : String}
    (hnone : ∀ url, Url.parse raw = .ok url → url.hasHost = false) :
    normalize raw = .error (.config (.invalidBaseUrl raw)) := by
  rw [normalize]
  split
  · rfl
  · next url hparse =>
    rw [hnone url hparse]

/-- A base url can be made of exactly those texts that are read as urls with a host. -/
theorem exists_normalize_iff {raw : String} :
    (∃ base records, normalize raw = .ok (base, records)) ↔
      ∃ url, Url.parse raw = .ok url ∧ url.hasHost = true := by
  constructor
  · rintro ⟨base, records, hnormal⟩
    by_contra hnone
    rw [normalize_of_no_host fun url hparse => ?_] at hnormal
    · contradiction
    · exact Bool.eq_false_of_not_eq_true fun hhost => hnone ⟨url, hparse, hhost⟩
  · rintro ⟨url, hparse, hhost⟩
    obtain ⟨segments, -, hnormal⟩ := normalize_of_hasHost hparse hhost
    exact ⟨_, _, hnormal⟩

theorem eq_invalidBaseUrl_of_normalize {raw : String} {failure : Failure}
    (hnormal : normalize raw = .error failure) : failure = .config (.invalidBaseUrl raw) := by
  rw [normalize] at hnormal
  split at hnormal
  · exact (Except.error.inj hnormal).symm
  split at hnormal
  · contradiction
  · exact (Except.error.inj hnormal).symm

end Acceptance

theorem versioned_of_getLast? {segments : List String} (hlast : segments.getLast? = some "v1") :
    versioned segments = segments ∧ lacksVersion segments = false := by
  obtain ⟨front, rfl⟩ := List.getLast?_eq_some_iff.1 hlast
  have hkept : Text.trimEnd String.isEmpty (front ++ ["v1"]) = front ++ ["v1"] :=
    List.rdropWhile_concat_neg _ front "v1" (by decide)
  rw [versioned, lacksVersion, hkept]
  simp

section Versions

variable {segments : List String} (hslash : ∀ s ∈ segments, '/' ∉ s.toList)

include hslash

/-- The version is missing from the end of a path if the text of the path does not end in it. -/
theorem lacksVersion_iff :
    lacksVersion segments = true ↔
      ¬ IsVersioned (Text.trimEndSlashes (Url.Path.rooted segments).text) := by
  have hkept : ∀ s ∈ Text.trimEnd String.isEmpty segments, '/' ∉ s.toList :=
    fun s hs => hslash s ((List.rdropWhile_prefix _ _).subset hs)
  have hversion : IsVersioned (Url.Path.rooted (Text.trimEnd String.isEmpty segments)).text ↔
      (Text.trimEnd String.isEmpty segments).getLast? = some "v1" :=
    Url.Path.suffix_text_iff hkept (show '/' ∉ "v1".toList by decide)
  rw [Url.Path.trimEndSlashes_text hslash, hversion, lacksVersion, bne_iff_ne]

/-- The version is appended to the text of a path if it is missing. -/
theorem text_versioned :
    (Url.Path.rooted (versioned segments)).text =
      Text.trimEndSlashes (Url.Path.rooted segments).text ++
        if lacksVersion segments then "/v1" else "" := by
  rw [Url.Path.trimEndSlashes_text hslash, versioned, lacksVersion]
  by_cases hlast : (Text.trimEnd String.isEmpty segments).getLast? = some "v1"
  · simp [hlast]
  · simp only [bne, beq_eq_false_iff_ne.2 hlast, Bool.false_eq_true, Bool.not_false, if_false,
      if_true]
    apply String.toList_inj.1
    rw [Url.Path.toList_text_concat, String.toList_append]
    rfl

end Versions

section Special

variable [Url.Idna] {raw : String} {base url : Url} {records : List LogRecord} {port : Nat}
  (hparse : Url.parse raw = .ok url) (hscheme : Url.SchemeKind.of url.scheme = .special port)

include hparse hscheme

/-- A special scheme comes with a host. -/
theorem hasHost_of_special : url.hasHost = true := by
  obtain ⟨authority, segments, hurl⟩ := Url.canonical_of_parse hparse hscheme
  simp [Url.hasHost, hurl.authority_eq, hurl.authority.host.isEmpty_eq_false]

/-- A base url with a special scheme is what its own text gives. -/
theorem normalize_text_of_normalize (hnormal : normalize raw = .ok (base, records)) :
    normalize base.text = .ok (base, []) := by
  obtain ⟨authority, segments, -, hcanonical, hplain, hlast, rfl⟩ :=
    eq_ofParts_of_normalize hnormal hparse hscheme
  have hne : segments ≠ [] := by
    rintro rfl
    contradiction
  have hread := Url.parse_text_ofParts hscheme hcanonical hne hplain
  obtain ⟨given, hpath, hagain⟩ :=
    normalize_of_hasHost hread (hasHost_of_special hread hscheme)
  obtain rfl : segments = given := Url.Path.rooted.inj hpath
  obtain ⟨hversioned, hlacks⟩ := versioned_of_getLast? hlast
  rw [hagain, hversioned, hlacks, Url.withSegments]
  simp only [Url.ofParts, hscheme]
  rfl

theorem normalForm_of_normalize (hnormal : normalize raw = .ok (base, records)) :
    NormalForm raw url base records := by
  have hagain := normalize_text_of_normalize hparse hscheme hnormal
  obtain ⟨authority, given, hurl⟩ := Url.canonical_of_parse hparse hscheme
  obtain ⟨segments, hpath, hmade⟩ :=
    normalize_of_hasHost hparse (hasHost_of_special hparse hscheme)
  obtain rfl : given = segments := Url.Path.rooted.inj (hurl.path_eq.symm.trans hpath)
  have hslash : ∀ s ∈ given, '/' ∉ s.toList := fun s hs => (hurl.plain s hs).slash_not_mem
  have hlacks := lacksVersion_iff hslash
  have htext := text_versioned hslash
  rw [← hpath] at hlacks htext
  cases hmade.symm.trans hnormal
  rw [Url.withSegments, hscheme] at hagain ⊢
  refine ⟨rfl, rfl, rfl, rfl, ?_, ?_, hagain⟩
  · intro hversion
    have hkept : lacksVersion given = false := by simpa [hversion] using hlacks
    rw [hkept] at htext ⊢
    exact ⟨by simpa using htext, rfl⟩
  · intro hversion
    have hmissing := hlacks.2 hversion
    rw [hmissing] at htext ⊢
    exact ⟨htext, rfl⟩

end Special

/-- The schemes that requests can be made with are special. -/
theorem exists_special_of_http {scheme : String} (hhttp : scheme = "http" ∨ scheme = "https") :
    ∃ port, Url.SchemeKind.of scheme = .special port := by
  obtain rfl | rfl := hhttp
  · exact ⟨80, rfl⟩
  · exact ⟨443, rfl⟩

/-- A text gives a base url if it is read as a url with a host, and is refused otherwise.  With one
of the schemes that requests can be made with, it always gives one, in normal form. -/
theorem normalize_normalForm [Url.Idna] (raw : String) :
    ((∃ base records, normalize raw = .ok (base, records)) ↔
        ∃ url, Url.parse raw = .ok url ∧ url.hasHost = true) ∧
      (∀ failure, normalize raw = .error failure → failure = .config (.invalidBaseUrl raw)) ∧
      ∀ url, Url.parse raw = .ok url → url.scheme = "http" ∨ url.scheme = "https" →
        ∃ base records, normalize raw = .ok (base, records) ∧ NormalForm raw url base records := by
  refine ⟨exists_normalize_iff, fun _ => eq_invalidBaseUrl_of_normalize, ?_⟩
  intro url hparse hhttp
  obtain ⟨port, hscheme⟩ := exists_special_of_http hhttp
  obtain ⟨base, records, hnormal⟩ :=
    exists_normalize_iff.2 ⟨url, hparse, hasHost_of_special hparse hscheme⟩
  exact ⟨base, records, hnormal, normalForm_of_normalize hparse hscheme hnormal⟩

/-- A url with slashes at the end of its path, before a query that ends in the version. -/
def slashedUrl : Url where
  scheme := "http"
  authority := some
    { username := "user"
      password := none
      host := .name "xn--bcher-kva.example"
      port := some 8000 }
  path := .rooted ["custom", "", ""]
  query := some "at=/v1"
  fragment := none

theorem normalize_normalForm_slashedUrl :
    let raw := "http://user@bücher.example:8000/a/../custom//?at=/v1"
    let base := { slashedUrl with path := .rooted ["custom", "v1"], query := none }
    Url.parse raw = .ok slashedUrl ∧ normalize raw = .ok (base, [.unversionedBaseUrl raw]) ∧
      NormalForm raw slashedUrl base [.unversionedBaseUrl raw] ∧
      normalize base.text = .ok (base, []) := by
  intro raw base
  have hparse : Url.parse raw = .ok slashedUrl := by decide +kernel
  have hnormal : normalize raw = .ok (base, [.unversionedBaseUrl raw]) := by decide +kernel
  obtain ⟨-, -, hspecial⟩ := normalize_normalForm raw
  obtain ⟨found, records, hfound, hform⟩ := hspecial slashedUrl hparse (.inl rfl)
  cases hnormal.symm.trans hfound
  exact ⟨hparse, hnormal, hform, hform.normalize_text⟩

end Endpoint

end Rerank
