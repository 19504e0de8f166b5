import Rerank.Url.Host

/-!
# A few international names

Without tables of characters, the ASCII forms of names that need them can only be listed.  The
mapping here knows a list of names and their forms, and refuses all others that need tables.
Programs and examples run with it; what is proved of urls is proved for every mapping.
-/

namespace Rerank.Url

/-- International names with their ASCII forms. -/
def knownNames : List (String × String) :=
  [("bücher.example", "xn--bcher-kva.example"), ("☃.net", "xn--n3h.net")]

namespace KnownNames

/-- The ASCII form of a listed name, or of one that needs no tables. -/
def toAscii (bytes : List UInt8) : Option String :=
  match knownNames.find? fun names => Text.Utf8.encode names.1 == bytes with
  | some names => some names.2
  | none =>
    let domain := bytes.map fun b => (Char.ofNat b.toNat).toLower
    if knownNames.any fun names => names.2.toList == domain then some (String.ofList domain)
    else if domain.any Host.isForbiddenInDomain || hasEncodedLabel domain then none
    else some (String.ofList domain)

/-- Lower case is kept. -/
theorem toLower_toLower (c : Char) : c.toLower.toLower = c.toLower := by
  by_cases hupper : c.val ≥ 'A'.val ∧ c.val ≤ 'Z'.val
  · have hall : ∀ n : Fin 26, (Char.ofNat (n + 0x41)).toLower.toLower =
        (Char.ofNat (n + 0x41)).toLower := by decide
    have hlow : 0x41 ≤ c.toNat := UInt32.le_iff_toNat_le.1 hupper.1
    have hhigh : c.toNat ≤ 0x5A := UInt32.le_iff_toNat_le.1 hupper.2
    have hc := hall ⟨c.toNat - 0x41, by omega⟩
    rwa [Nat.sub_add_cancel hlow, Char.ofNat_toNat] at hc
  · have hkept : c.toLower = c := dif_neg hupper
    rw [hkept, hkept]

theorem find?_asciiBytes {cs : List Char} (hcs : ∀ c ∈ cs, c.toNat < 0x80) :
    (knownNames.find? fun names => Text.Utf8.encode names.1 == asciiBytes cs) = none := by
  have hhigh : ∀ names ∈ knownNames, ∃ b ∈ Text.Utf8.encode names.1, 0x80 ≤ b.toNat := by
    decide +kernel
  rw [List.find?_eq_none]
  intro names hnames hsame
  obtain ⟨b, hb, hle⟩ := hhigh names hnames
  rw [eq_of_beq hsame] at hb
  obtain ⟨c, hc, rfl⟩ := List.mem_map.1 hb
  have hlow := hcs c hc
  rw [UInt8.toNat_ofNat', Nat.mod_eq_of_lt (by omega)] at hle
  omega

theorem map_asciiBytes {cs : List Char} (hcs : ∀ c ∈ cs, c.toNat < 0x80) :
    (asciiBytes cs).map (fun b => (Char.ofNat b.toNat).toLower) = cs.map Char.toLower := by
  rw [asciiBytes, List.map_map]
  apply List.map_congr_left
  intro c hc
  have hlow := hcs c hc
  have hbyte : (UInt8.ofNat c.toNat).toNat = c.toNat := by
    rw [UInt8.toNat_ofNat', Nat.mod_eq_of_lt (by omega)]
  rw [Function.comp_apply, hbyte, Char.ofNat_toNat]

theorem toAscii_asciiBytes {cs : List Char} (hcs : ∀ c ∈ cs, c.toNat < 0x80) :
    toAscii (asciiBytes cs) =
      if knownNames.any fun names => names.2.toList == cs.map Char.toLower then
        some (String.ofList (cs.map Char.toLower))
      else if (cs.map Char.toLower).any Host.isForbiddenInDomain ||
          hasEncodedLabel (cs.map Char.toLower) then none
      else some (String.ofList (cs.map Char.toLower)) := by
  rw [toAscii, find?_asciiBytes hcs, map_asciiBytes hcs]

/-- What is an ASCII form is on the list or needs no tables. -/
theorem listed_or_plain {bytes : List UInt8} {name : String} (hname : toAscii bytes = some name) :
    (∃ names ∈ knownNames, names.2 = name) ∨
      ∃ cs : List Char, name = String.ofList (cs.map Char.toLower) ∧
        (cs.map Char.toLower).any Host.isForbiddenInDomain = false ∧
        hasEncodedLabel (cs.map Char.toLower) = false := by
  rw [toAscii] at hname
  split at hname
  · next names hfind =>
    exact .inl ⟨names, List.mem_of_find?_eq_some hfind, Option.some.inj hname⟩
  · dsimp only at hname
    split at hname
    · next hlisted =>
      obtain ⟨names, hnames, hsame⟩ := List.any_eq_true.1 hlisted
      refine .inl ⟨names, hnames, ?_⟩
      rw [← Option.some.inj hname, ← eq_of_beq hsame, String.ofList_toList]
    · split at hname
      · contradiction
      · next hplain =>
        rw [Bool.or_eq_true, not_or, Bool.not_eq_true, Bool.not_eq_true] at hplain
        refine .inr ⟨bytes.map fun b => Char.ofNat b.toNat, ?_⟩
        rw [List.map_map]
        exact ⟨(Option.some.inj hname).symm, hplain⟩

theorem toAscii_of_plain {cs : List Char} (hcs : ∀ c ∈ cs, c.toNat < 0x80)
    (hplain : hasEncodedLabel (cs.map Char.toLower) = false) :
    toAscii (asciiBytes cs) =
      if (cs.map Char.toLower).any Host.isForbiddenInDomain then none
      else some (String.ofList (cs.map Char.toLower)) := by
  have hencoded : ∀ names ∈ knownNames, hasEncodedLabel names.2.toList = true := by decide +kernel
  have hunlisted :
      (knownNames.any fun names => names.2.toList == cs.map Char.toLower) = false := by
    rw [List.any_eq_false]
    intro names hnames hsame
    rw [← eq_of_beq hsame, hencoded names hnames] at hplain
    contradiction
  rw [toAscii_asciiBytes hcs, hunlisted, hplain, Bool.or_false, if_neg Bool.false_ne_true]

theorem allowed_of_toAscii {bytes : List UInt8} {name : String} (hname : toAscii bytes = some name)
    {c : Char} (hc : c ∈ name.toList) : Host.isForbiddenInDomain c = false ∧ c.toLower = c := by
  obtain ⟨names, hnames, rfl⟩ | ⟨cs, rfl, hallowed, -⟩ := listed_or_plain hname
  · have hall : ∀ names ∈ knownNames, (names.2.toList.all fun c =>
        !Host.isForbiddenInDomain c && c.toLower == c) = true := by decide +kernel
    simpa using List.all_eq_true.1 (hall names hnames) c hc
  · rw [String.toList_ofList] at hc
    refine ⟨Bool.eq_false_iff.2 (List.any_eq_false.1 hallowed c hc), ?_⟩
    obtain ⟨d, -, rfl⟩ := List.mem_map.1 hc
    exact toLower_toLower d

theorem toAscii_of_toAscii {bytes : List UInt8} {name : String}
    (hname : toAscii bytes = some name) : toAscii (asciiBytes name.toList) = some name := by
  obtain ⟨names, hnames, rfl⟩ | ⟨cs, rfl, hallowed, hplain⟩ := listed_or_plain hname
  · have hall : ∀ names ∈ knownNames, toAscii (asciiBytes names.2.toList) = some names.2 := by
      decide +kernel
    exact hall names hnames
  · have hlower : (cs.map Char.toLower).map Char.toLower = cs.map Char.toLower := by
      rw [List.map_map]
      exact List.map_congr_left fun c _ => toLower_toLower c
    rw [String.toList_ofList, toAscii_asciiBytes, hlower, hallowed, hplain]
    · simp
    · intro c hc
      have hforbidden := List.any_eq_false.1 hallowed c hc
      simp only [Host.isForbiddenInDomain, Bool.or_eq_true, decide_eq_true_eq] at hforbidden
      omega

end KnownNames

/-- The mapping that is used where no other one is given. -/
instance : Idna where
  toAscii := KnownNames.toAscii
  toAscii_of_plain _ := KnownNames.toAscii_of_plain
  allowed_of_toAscii _ _ hname _ := KnownNames.allowed_of_toAscii hname
  toAscii_of_toAscii _ _ := KnownNames.toAscii_of_toAscii

end Rerank.Url
