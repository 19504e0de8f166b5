import Rerank.Proofs.Url.Address
import Rerank.Url.Parser

/-!
# Hosts

The host of a url with a special scheme is a domain name in its ASCII form, which no address looks
like, or an address.  With any other scheme it is an encoded text or an address.  Such a host is
told from what follows it and read back from its text.
-/

namespace Rerank.Url

/-- Whether a character is part of an authority or of a segment wherever it stands in them. -/
def isInner (c : Char) : Bool :=
  decide (0x20 < c.toNat) && !Path.isSlash true c && !isPathEnd c

theorem isInner_iff {c : Char} :
    isInner c = true ↔ 0x20 < c.toNat ∧ Path.isSlash true c = false ∧ isPathEnd c = false := by
  simp [isInner, and_assoc]

theorem isInner_of_kept_inPathSet {c : Char} (hc : Kept inPathSet c)
    (hslash : Path.isSlash true c = false) : isInner c = true := by
  have hinner := of_forall_ascii
    (fun c => inPathSet c || Path.isSlash true c || isInner c) (by decide +kernel) hc.1
  simpa [hc.2, hslash] using hinner

theorem inner_of_kept_inUserinfoSet {c : Char} (hc : Kept inUserinfoSet c) :
    isInner c = true ∧ c ≠ '@' ∧ c ≠ ':' := by
  have hinner := of_forall_ascii
    (fun c => inUserinfoSet c || isInner c && c != '@' && c != ':') (by decide +kernel) hc.1
  simpa [hc.2, and_assoc] using hinner

theorem inner_digitChar {d : Nat} (hd : d < 16) :
    isInner (Nat.digitChar d) = true ∧ Nat.digitChar d ≠ '@' ∧ Nat.digitChar d ≠ ']' := by
  have hall : ∀ m : Fin 16, isInner (Nat.digitChar m) = true ∧ Nat.digitChar m ≠ '@' ∧
      Nat.digitChar m ≠ ']' := by decide
  exact hall ⟨d, hd⟩

namespace Host

/-- Characters of domain names are not encoded and have no meaning in an authority. -/
theorem inner_of_not_isForbiddenInDomain {c : Char} (hc : isForbiddenInDomain c = false) :
    c.toNat < 0x80 ∧ c ≠ '%' ∧ isInner c = true ∧ c ≠ '@' ∧ c ≠ ':' ∧ c ≠ '[' := by
  have hlow : c.toNat < 0x80 := by
    by_contra hhigh
    have hforbidden : isForbiddenInDomain c = true := by
      simp [isForbiddenInDomain, show 0x7F ≤ c.toNat by omega]
    rw [hc] at hforbidden
    contradiction
  have hinner := of_forall_ascii
    (fun c => isForbiddenInDomain c || c != '%' && isInner c && c != '@' && c != ':' && c != '[')
    (by decide +kernel) hlow
  refine ⟨hlow, ?_⟩
  simpa [hc, and_assoc] using hinner

/-- Characters of addresses are those of domain names. -/
theorem domain_digitChar {d : Nat} (hd : d < 16) :
    isForbiddenInDomain (Nat.digitChar d) = false ∧
      (Nat.digitChar d).toLower = Nat.digitChar d := by
  have hall : ∀ m : Fin 16, isForbiddenInDomain (Nat.digitChar m) = false ∧
      (Nat.digitChar m).toLower = Nat.digitChar m := by decide
  exact hall ⟨d, hd⟩

theorem domain_of_ipv4 {address : Nat} :
    ∀ c ∈ Ipv4.text address, isForbiddenInDomain c = false ∧ c.toLower = c := by
  have hdigits (n : Nat) :
      ∀ c ∈ Nat.toDigits 10 n, isForbiddenInDomain c = false ∧ c.toLower = c := by
    intro c hc
    obtain ⟨d, hd, rfl⟩ := exists_digitChar_of_mem_toDigits (by omega) hc
    exact domain_digitChar (by omega)
  have hdot : isForbiddenInDomain '.' = false ∧ Char.toLower '.' = '.' := by decide
  simp only [Ipv4.text, List.forall_mem_append, List.forall_mem_cons]
  exact ⟨⟨⟨hdigits _, hdot, hdigits _⟩, hdot, hdigits _⟩, hdot, hdigits _⟩

theorem hasEncodedLabel_ipv4 (address : Nat) : hasEncodedLabel (Ipv4.text address) = false := by
  have hdigits (n : Nat) : ['x', 'n', '-', '-'].isPrefixOf (Nat.toDigits 10 n) = false := by
    cases hlabel : Nat.toDigits 10 n with
    | nil => rfl
    | cons c rest =>
      obtain ⟨d, hd, rfl⟩ :=
        exists_digitChar_of_mem_toDigits (by omega) (hlabel ▸ List.mem_cons_self)
      have hall : ∀ m : Fin 16, ('x' == Nat.digitChar m) = false := by decide
      simp [List.isPrefixOf, hall ⟨d, by omega⟩]
  simp [hasEncodedLabel, Ipv4.splitOn_text, Ipv4.labels, hdigits]

/-- Characters of IPv6 addresses. -/
theorem inner_of_mem_ipv6 {groups : List Nat} {c : Char} (hc : c ∈ Ipv6.text groups) :
    isInner c = true ∧ c ≠ '@' ∧ c ≠ ']' := by
  have hcolon : isInner ':' = true ∧ ':' ≠ '@' ∧ ':' ≠ ']' := by decide
  have hjoined (groups : List Nat) (hc : c ∈ Ipv6.joined groups) :
      isInner c = true ∧ c ≠ '@' ∧ c ≠ ']' := by
    induction groups with
    | nil => simp [Ipv6.joined] at hc
    | cons group more ih =>
      have hgroup (hdigit : c ∈ Nat.toDigits 16 group) : isInner c = true ∧ c ≠ '@' ∧ c ≠ ']' := by
        obtain ⟨d, hd, rfl⟩ := exists_digitChar_of_mem_toDigits (by omega) hdigit
        exact inner_digitChar hd
      cases more with
      | nil => exact hgroup (by simpa [Ipv6.joined] using hc)
      | cons next more =>
        rw [Ipv6.joined_cons_cons, List.mem_append, List.mem_cons] at hc
        obtain hdigit | rfl | hmore := hc
        · exact hgroup hdigit
        · exact hcolon
        · exact ih hmore
  rw [Ipv6.text] at hc
  dsimp only at hc
  split at hc
  · simp only [List.mem_append, List.mem_cons, List.not_mem_nil, or_false] at hc
    obtain (hfront | rfl | rfl) | hback := hc
    · exact hjoined _ hfront
    · exact hcolon
    · exact hcolon
    · exact hjoined _ hback
  · exact hjoined _ hc

section Splitting

variable {after : List Char}

/-- Between brackets a host goes on to the one that closes them. -/
theorem splitHost_of_bracketed {cs : List Char} (hcs : ']' ∉ cs)
    (hafter : after.head?.all (· == ':') = true) :
    splitHost true (cs ++ ']' :: after) = (cs ++ [']'], after) := by
  induction cs with
  | nil =>
    cases after with
    | nil => rfl
    | cons c rest =>
      obtain rfl : c = ':' := by simpa using hafter
      rfl
  | cons c rest ih =>
    rw [List.mem_cons, not_or] at hcs
    have hc : (c == '[' || true && c != ']') = true := by simp [Ne.symm hcs.1]
    rw [List.cons_append, splitHost, Bool.not_true, Bool.and_false, if_neg Bool.false_ne_true, hc,
      ih hcs.2]
    rfl

theorem splitHost_of_domain {cs : List Char} (hcs : ∀ c ∈ cs, c ≠ ':' ∧ c ≠ '[')
    (hafter : after.head?.all (· == ':') = true) : splitHost false (cs ++ after) = (cs, after) := by
  induction cs with
  | nil =>
    cases after with
    | nil => rfl
    | cons c rest =>
      obtain rfl : c = ':' := by simpa using hafter
      rfl
  | cons c rest ih =>
    obtain ⟨hcolon, hbracket⟩ := hcs c List.mem_cons_self
    have hnext : (c == '[' || false && c != ']') = false := by simp [hbracket]
    rw [List.cons_append, splitHost, if_neg (by simp [hcolon]), hnext,
      ih fun d hd => hcs d (List.mem_cons_of_mem c hd)]

end Splitting

theorem exists_ipv6_of_readBracketed {cs : List Char} {host : Host}
    (hread : readBracketed cs = .ok host) : ∃ groups, host = .ipv6 groups := by
  rw [readBracketed] at hread
  split at hread
  · exact ⟨_, (Except.ok.inj hread).symm⟩
  · contradiction

/-- Characters that hosts of other urls are made of have no meaning in an authority. -/
theorem inner_of_not_isForbidden {c : Char} (hkept : Kept isControl c)
    (hc : isForbidden c = false) : isInner c = true ∧ c ≠ '@' ∧ c ≠ ':' ∧ c ≠ '[' := by
  have hinner := of_forall_ascii
    (fun c => isControl c || isForbidden c || isInner c && c != '@' && c != ':' && c != '[')
    (by decide +kernel) hkept.1
  simpa [hkept.2, hc, and_assoc] using hinner

/-- Encoding writes nothing that a host may not hold. -/
theorem allowed_of_mem_percentEncode {cs : List Char} (hcs : cs.any isForbidden = false) {c : Char}
    (hc : c ∈ percentEncode isControl cs) : Kept isControl c ∧ isForbidden c = false := by
  obtain hescape | ⟨hmem, hkept⟩ := mem_percentEncode hc
  · have hall : (escapeChars.all fun c =>
        decide (Kept isControl c ∧ isForbidden c = false)) = true := by decide
    exact of_decide_eq_true (List.all_eq_true.1 hall c hescape)
  · rw [List.any_eq_false] at hcs
    exact ⟨hkept, Bool.eq_false_of_not_eq_true (hcs c hmem)⟩

variable [Idna]

/-- Hosts as they stand in special urls. -/
inductive Canonical : Host → Prop where
  | name {domain : String} (hne : domain ≠ "")
    (hform : Idna.toAscii (asciiBytes domain.toList) = some domain)
    (hnumber : Ipv4.endsInNumber (splitOn (· == '.') domain.toList) = false) :
    Canonical (.name domain)
  | ipv4 {address : Nat} (haddress : address < 2 ^ 32) : Canonical (.ipv4 address)
  | ipv6 {groups : List Nat} (hlength : groups.length = 8)
    (hgroups : ∀ group ∈ groups, group < 65536) : Canonical (.ipv6 groups)

theorem canonical_of_readBracketed {cs : List Char} {host : Host}
    (hread : readBracketed cs = .ok host) : host.Canonical := by
  rw [readBracketed] at hread
  split at hread
  · next groups _ hgroups =>
    cases hread
    obtain ⟨hlength, hlt⟩ := Ipv6.of_parse? hgroups
    exact .ipv6 hlength hlt
  · contradiction

theorem canonical_of_readDomain {bytes : List UInt8} {host : Host}
    (hread : readDomain bytes = .ok host) : host.Canonical := by
  rw [readDomain] at hread
  split at hread
  · contradiction
  next domain hdomain =>
  split at hread
  · contradiction
  next hne =>
  dsimp only at hread
  split at hread
  · split at hread
    · next address haddress =>
      cases hread
      obtain ⟨numbers, -, hnumbers⟩ := Option.bind_eq_some_iff.1 haddress
      exact .ipv4 (Ipv4.lt_of_ofNumbers? hnumbers)
    · contradiction
  · next hnumber =>
    cases hread
    apply Canonical.name
    · simpa using hne
    · exact Idna.toAscii_of_toAscii bytes domain hdomain
    · exact Bool.eq_false_iff.2 hnumber

theorem canonical_of_readSpecial {cs : List Char} {host : Host}
    (hread : readSpecial cs = .ok host) : host.Canonical := by
  rw [readSpecial.eq_def] at hread
  split at hread
  · exact canonical_of_readBracketed hread
  · exact canonical_of_readDomain hread

/-- A domain name in its ASCII form is read as it is. -/
theorem readSpecial_of_form {domain : String} (hne : domain ≠ "")
    (hform : Idna.toAscii (asciiBytes domain.toList) = some domain) :
    readSpecial domain.toList =
      if Ipv4.endsInNumber (splitOn (· == '.') domain.toList) then
        (Ipv4.parse? (splitOn (· == '.') domain.toList)).elim (.error .invalidIpv4) fun address =>
          .ok (.ipv4 address)
      else .ok (.name domain) := by
  have hallowed := Idna.allowed_of_toAscii _ domain hform
  have hdecoded : percentDecode domain.toList = asciiBytes domain.toList := by
    apply percentDecode_of_lt
    intro c hc
    obtain ⟨hlow, hpercent, -⟩ := inner_of_not_isForbiddenInDomain (hallowed c hc).1
    exact ⟨hlow, hpercent⟩
  have hread : readSpecial domain.toList = readDomain (asciiBytes domain.toList) := by
    rw [readSpecial.eq_def, ← hdecoded]
    split
    · next rest hcs =>
      obtain ⟨-, -, -, -, -, hbracket⟩ :=
        inner_of_not_isForbiddenInDomain (hallowed '[' (hcs ▸ List.mem_cons_self)).1
      contradiction
    · rfl
  rw [hread, readDomain, hform]
  dsimp only
  rw [if_neg (by simpa using hne)]
  split
  · cases Ipv4.parse? (splitOn (· == '.') domain.toList) <;> rfl
  · rfl

/-- A name in lower case that needs no tables is its own ASCII form. -/
theorem toAscii_of_plain {domain : String}
    (hchars : ∀ c ∈ domain.toList, isForbiddenInDomain c = false ∧ c.toLower = c)
    (hplain : hasEncodedLabel domain.toList = false) :
    Idna.toAscii (asciiBytes domain.toList) = some domain := by
  have hlower : domain.toList.map Char.toLower = domain.toList := by
    conv_rhs => rw [← List.map_id domain.toList]
    exact List.map_congr_left fun c hc => (hchars c hc).2
  have hallowed : domain.toList.any isForbiddenInDomain = false := by
    rw [List.any_eq_false]
    intro c hc
    rw [(hchars c hc).1]
    exact Bool.false_ne_true
  have hform := Idna.toAscii_of_plain domain.toList
    (fun c hc => (inner_of_not_isForbiddenInDomain (hchars c hc).1).1)
  rw [hlower, hallowed, if_neg Bool.false_ne_true, String.ofList_toList] at hform
  exact hform hplain

theorem readSpecial_text {host : Host} (hhost : host.Canonical) :
    readSpecial host.text.toList = .ok host := by
  cases hhost with
  | name hne hform hnumber =>
    rw [text, readSpecial_of_form hne hform, hnumber, if_neg Bool.false_ne_true]
  | @ipv4 address haddress =>
    have hform : Idna.toAscii (asciiBytes (String.ofList (Ipv4.text address)).toList) =
        some (String.ofList (Ipv4.text address)) := by
      apply toAscii_of_plain <;> rw [String.toList_ofList]
      · exact domain_of_ipv4
      · exact hasEncodedLabel_ipv4 address
    rw [text, readSpecial_of_form _ hform, String.toList_ofList, Ipv4.splitOn_text,
      Ipv4.endsInNumber_labels, Ipv4.parse?_labels haddress]
    · rfl
    · simp [Ipv4.text]
  | ipv6 hlength hgroups =>
    rw [text, String.toList_ofList, List.cons_append, readSpecial, readBracketed,
      List.getLast?_concat, List.dropLast_concat, Ipv6.parse?_text hlength hgroups]
    rfl

/-- A host holds nothing that would end it or the authority. -/
theorem Canonical.inner {host : Host} (hhost : host.Canonical) :
    ∀ c ∈ host.text.toList, isInner c = true ∧ c ≠ '@' := by
  have hdomain {cs : List Char}
      (hcs : ∀ c ∈ cs, isForbiddenInDomain c = false ∧ c.toLower = c) :
      ∀ c ∈ cs, isInner c = true ∧ c ≠ '@' := by
    intro c hc
    obtain ⟨-, -, hinner, hat, -⟩ := inner_of_not_isForbiddenInDomain (hcs c hc).1
    exact ⟨hinner, hat⟩
  cases hhost with
  | name _ hform _ => exact hdomain (Idna.allowed_of_toAscii _ _ hform)
  | ipv4 _ =>
    rw [text, String.toList_ofList]
    exact hdomain domain_of_ipv4
  | ipv6 _ _ =>
    rw [text, String.toList_ofList]
    intro c hc
    simp only [List.cons_append, List.mem_cons, List.mem_append, List.not_mem_nil, or_false] at hc
    obtain rfl | hinner | rfl := hc
    · decide
    · exact ⟨(inner_of_mem_ipv6 hinner).1, (inner_of_mem_ipv6 hinner).2.1⟩
    · decide

theorem Canonical.ne_nil {host : Host} (hhost : host.Canonical) : host.text.toList ≠ [] := by
  cases hhost with
  | name hne _ _ => simpa [text] using hne
  | ipv4 _ => simp [text, Ipv4.text]
  | ipv6 _ _ => simp [text]

/-- A host is split off from what follows it. -/
theorem Canonical.splitHost {host : Host} (hhost : host.Canonical) {after : List Char}
    (hafter : after.head?.all (· == ':') = true) :
    splitHost false (host.text.toList ++ after) = (host.text.toList, after) := by
  have hdomain {cs : List Char}
      (hcs : ∀ c ∈ cs, isForbiddenInDomain c = false ∧ c.toLower = c) :
      ∀ c ∈ cs, c ≠ ':' ∧ c ≠ '[' := by
    intro c hc
    obtain ⟨-, -, -, -, hcolon, hbracket⟩ := inner_of_not_isForbiddenInDomain (hcs c hc).1
    exact ⟨hcolon, hbracket⟩
  cases hhost with
  | name _ hform _ =>
    exact splitHost_of_domain (hdomain (Idna.allowed_of_toAscii _ _ hform)) hafter
  | ipv4 _ =>
    rw [text, String.toList_ofList]
    exact splitHost_of_domain (hdomain domain_of_ipv4) hafter
  | @ipv6 groups _ _ =>
    have hclosed : ']' ∉ Ipv6.text groups := fun h => (inner_of_mem_ipv6 h).2.2 rfl
    have hopen : ('[' == '[' || false && '[' != ']') = true := rfl
    rw [text, String.toList_ofList, List.append_assoc, List.cons_append, List.cons_append,
      List.nil_append, Url.splitHost, if_neg (by simp), hopen,
      splitHost_of_bracketed hclosed hafter]
    rfl

/-! ## Hosts of any kind of scheme -/

/-- Hosts that can be told from what follows them in a url of the kind, and are read as they are. -/
structure ReadsBack (kind : SchemeKind) (host : Host) : Prop where
  ne_nil : host.text.toList ≠ []
  inner : ∀ c ∈ host.text.toList, isInner c = true ∧ c ≠ '@'
  split : ∀ after : List Char, after.head?.all (· == ':') = true →
    splitHost false (host.text.toList ++ after) = (host.text.toList, after)
  read : (if kind.isSpecial then readSpecial host.text.toList else readOther host.text.toList) =
    .ok host

theorem ReadsBack.isEmpty_eq_false {kind : SchemeKind} {host : Host}
    (hhost : host.ReadsBack kind) : host.isEmpty = false := by
  rw [isEmpty, beq_eq_false_iff_ne]
  rintro rfl
  exact hhost.ne_nil rfl

theorem Canonical.readsBack {kind : SchemeKind} (hkind : kind.isSpecial = true) {host : Host}
    (hhost : host.Canonical) : host.ReadsBack kind where
  ne_nil := hhost.ne_nil
  inner := hhost.inner
  split _ hafter := hhost.splitHost hafter
  read := by rw [if_pos hkind, readSpecial_text hhost]

/-- An address is read alike with any scheme. -/
theorem readsBack_ipv6 {kind : SchemeKind} {groups : List Nat}
    (hgroups : (Host.ipv6 groups).Canonical) : (Host.ipv6 groups).ReadsBack kind where
  ne_nil := hgroups.ne_nil
  inner := hgroups.inner
  split _ hafter := hgroups.splitHost hafter
  read := by
    have hread := readSpecial_text hgroups
    rw [text, String.toList_ofList, List.cons_append, readSpecial] at hread
    rw [text, String.toList_ofList, List.cons_append, readSpecial, readOther, ite_self, hread]

/-- An encoded text is read as it is with any scheme that is not special. -/
theorem readsBack_name {kind : SchemeKind} (hkind : kind.isSpecial = false) {name : String}
    (hne : name ≠ "") (hname : ∀ c ∈ name.toList, Kept isControl c ∧ isForbidden c = false) :
    (Host.name name).ReadsBack kind := by
  have hinner (c : Char) (hc : c ∈ name.toList) :=
    inner_of_not_isForbidden (hname c hc).1 (hname c hc).2
  constructor
  case ne_nil => simpa [text] using hne
  case inner => exact fun c hc => ⟨(hinner c hc).1, (hinner c hc).2.1⟩
  case split => exact fun after => splitHost_of_domain fun c hc => (hinner c hc).2.2
  case read =>
    have hallowed : name.toList.any isForbidden = false := by
      rw [List.any_eq_false]
      intro c hc
      rw [(hname c hc).2]
      exact Bool.false_ne_true
    rw [hkind, if_neg Bool.false_ne_true, text, readOther.eq_def]
    split
    · next rest hopen =>
      exact absurd rfl (hinner '[' (hopen ▸ List.mem_cons_self)).2.2.2
    · rw [hallowed, if_neg Bool.false_ne_true, percentEncode_of_kept fun c hc => (hname c hc).1,
        String.ofList_toList]

/-- Whatever is read as a host is read back from its text, if it has any. -/
theorem readsBack_of_read {kind : SchemeKind} {cs : List Char} {host : Host}
    (hread : (if kind.isSpecial then readSpecial cs else readOther cs) = .ok host)
    (hhost : kind.isSpecial = false → host.isEmpty = false) : host.ReadsBack kind := by
  cases hkind : kind.isSpecial with
  | true =>
    rw [hkind, if_pos rfl] at hread
    exact (canonical_of_readSpecial hread).readsBack hkind
  | false =>
    have hne := hhost hkind
    rw [hkind, if_neg Bool.false_ne_true, readOther.eq_def] at hread
    split at hread
    · obtain ⟨groups, rfl⟩ := exists_ipv6_of_readBracketed hread
      exact readsBack_ipv6 (canonical_of_readBracketed hread)
    · split at hread
      · contradiction
      next hallowed =>
      cases hread
      apply readsBack_name hkind
      · rintro hempty
        rw [hempty] at hne
        contradiction
      · intro c hc
        rw [String.toList_ofList] at hc
        exact allowed_of_mem_percentEncode (Bool.eq_false_of_not_eq_true hallowed) hc

end Host

end Rerank.Url
