import Mathlib
import Rerank.Proofs.Reply

/-!
# The values that are read

An integer that is read fits into 64 bits, and the keys of an object that is read strictly increase.
The depth of a value is what its reader recurs on, so that the induction is on the depth; the loops
over elements and members take what the reader of the items yields as a hypothesis.
-/

namespace Rerank

/-- An integer is one of 64 bits, with or without a sign. -/
def JsonNumber.InRange : JsonNumber → Prop
  | integer n => -0x8000000000000000 ≤ n ∧ n < 0x10000000000000000
  | double _ => True

namespace Json

/-- The values that bytes can be the text of. -/
inductive WellFormed : Json → Prop
  | null : WellFormed null
  | bool (b : Bool) : WellFormed (bool b)
  | number {n : JsonNumber} (hrange : n.InRange) : WellFormed (number n)
  | string (s : String) : WellFormed (string s)
  | array {elements : List Json} (helements : ∀ element ∈ elements, WellFormed element) :
      WellFormed (array elements)
  | object {members : List (String × Json)} (hordered : Keyed.Ordered members)
      (hmembers : ∀ member ∈ members, WellFormed member.2) : WellFormed (object members)

theorem WellFormed.elements {elements : List Json} (harray : WellFormed (.array elements)) :
    ∀ element ∈ elements, WellFormed element := by
  cases harray with
  | array helements => exact helements

theorem WellFormed.get? {value member : Json} {key : String} (hvalue : value.WellFormed)
    (hmember : value.get? key = some member) : member.WellFormed := by
  cases hvalue with
  | object _ hmembers => exact hmembers _ (Keyed.mem_of_get? hmember)
  | null | bool _ | number _ | string _ | array _ => contradiction

/-- Whatever is read satisfies a predicate. -/
structure Yields {α : Type} (P : α → Prop) (read : Except Fault (α × Bytes)) : Prop where
  holds : ∀ a rest, read = .ok (a, rest) → P a

namespace Yields

variable {α β : Type} {P : α → Prop} {Q : β → Prop}

theorem any {read : Except Fault (α × Bytes)} : Yields (fun _ => True) read :=
  ⟨fun _ _ _ => trivial⟩

theorem ok {a : α} {rest : Bytes} (ha : P a) : Yields P (.ok (a, rest)) := by
  constructor
  intro b rest' heq
  obtain ⟨rfl, -⟩ := Prod.mk.inj (Except.ok.inj heq)
  exact ha

theorem error {fault : Fault} : Yields P (.error fault) :=
  ⟨fun _ _ heq => nomatch heq⟩

theorem faultAt {reason : Reason} {rest : Bytes} : Yields P (Json.faultAt reason rest) :=
  error

theorem faultOn {reason : Reason} {rest : Bytes} : Yields P (Json.faultOn reason rest) :=
  error

theorem bind {first : Except Fault (α × Bytes)} {next : α × Bytes → Except Fault (β × Bytes)}
    (hfirst : Yields P first) (hnext : ∀ a rest, P a → Yields Q (next (a, rest))) :
    Yields Q (first >>= next) := by
  cases first with
  | error fault => exact error
  | ok read => exact hnext read.1 read.2 (hfirst.holds _ _ rfl)

end Yields

/-! ## Numbers -/

theorem gather_lt {significand taken : Nat} {bytes : List UInt8}
    (hfits : significand < 0x10000000000000000) :
    (gather significand taken bytes).1 < 0x10000000000000000 := by
  induction bytes generalizing significand taken with
  | nil => exact hfits
  | cons b rest ih =>
    rw [gather]
    split
    · exact hfits
    · split
      · next hnext => exact ih hnext
      · exact hfits

theorem inRange_ofSignificand (negative : Bool) {significand : Nat}
    (hfits : significand < 0x10000000000000000) : (ofSignificand negative significand).InRange := by
  rw [ofSignificand]
  split
  · simp only [JsonNumber.InRange]
    omega
  · split
    · trivial
    · simp only [JsonNumber.InRange]
      omega

section Numerals

variable {negative : Bool} {significand : Nat} {exponent : Int} {bytes : Bytes}

theorem yields_finish :
    Yields JsonNumber.InRange (finish negative significand exponent bytes) := by
  rw [finish]
  split
  · exact .ok trivial
  · exact .faultAt

theorem yields_readExponentDigits {negativeExponent : Bool} {read : Nat} :
    Yields JsonNumber.InRange
      (readExponentDigits negative negativeExponent significand exponent read bytes) := by
  induction bytes generalizing read with
  | nil => exact yields_finish
  | cons b rest ih =>
    rw [readExponentDigits]
    split
    · exact yields_finish
    · split
      · exact ih
      · split
        · exact .faultAt
        · exact .ok trivial

theorem yields_readExponent :
    Yields JsonNumber.InRange (readExponent negative significand exponent bytes) := by
  simp only [readExponent]
  split
  · exact .faultAt
  · split
    · exact .faultAt
    · exact yields_readExponentDigits

theorem yields_readOptionalExponent :
    Yields JsonNumber.InRange (readOptionalExponent negative significand exponent bytes) := by
  rw [readOptionalExponent.eq_def]
  split
  · exact yields_readExponent
  · exact yields_readExponent
  · exact yields_finish

theorem yields_readFraction :
    Yields JsonNumber.InRange (readFraction negative significand exponent bytes) := by
  rw [readFraction.eq_def]
  split
  · exact .faultOn
  · split
    · exact yields_readOptionalExponent
    · exact .faultOn

/-- Only a numeral without point and exponent whose digits all fit is an integer. -/
theorem yields_readTail {dropped : Nat} (hfits : significand < 0x10000000000000000) :
    Yields JsonNumber.InRange (readTail negative significand dropped bytes) := by
  rw [readTail.eq_def]
  split
  · exact yields_readFraction
  · exact yields_readExponent
  · exact yields_readExponent
  · split
    · exact .ok (inRange_ofSignificand negative hfits)
    · exact yields_finish

theorem yields_readUnsigned :
    Yields JsonNumber.InRange (readUnsigned negative bytes) := by
  have hzero : 0 < 0x10000000000000000 := by decide
  rw [readUnsigned.eq_def]
  split
  · exact .faultAt
  · split
    · split
      · exact .faultOn
      · exact yields_readTail hzero
    · exact yields_readTail hzero
  · next b rest _ =>
    have hdigits : (gather 0 0 (b :: rest)).1 < 0x10000000000000000 := gather_lt hzero
    split
    · exact yields_readTail hdigits
    · exact .faultAt

end Numerals

/-! ## Values -/

theorem yields_readWord {word : List UInt8} {value : Json} {bytes : Bytes}
    (hvalue : value.WellFormed) : Yields WellFormed (readWord word value bytes) := by
  induction word generalizing bytes with
  | nil => exact .ok hvalue
  | cons w word ih =>
    cases bytes with
    | nil => exact .faultAt
    | cons b rest =>
      rw [readWord]
      split
      · exact ih
      · exact .faultAt

theorem yields_readNumber {negative : Bool} {bytes : Bytes} :
    Yields WellFormed (do
      let (n, rest) ← readUnsigned negative bytes
      .ok (number n, rest)) :=
  .bind yields_readUnsigned fun _ _ hrange => .ok (.number hrange)

theorem yields_readScalar {bytes : Bytes} : Yields WellFormed (readScalar bytes) := by
  cases bytes with
  | nil => exact .faultOn
  | cons b rest =>
    rw [readScalar]
    split_ifs
    · exact yields_readWord .null
    · exact yields_readWord (.bool true)
    · exact yields_readWord (.bool false)
    · exact Yields.any.bind fun s _ _ => .ok (.string s)
    · exact yields_readNumber
    · exact yields_readNumber
    · exact .faultOn

section Items

variable {item : Bytes → Except Fault (Json × Bytes)}

theorem yields_readElements (hitem : ∀ bytes, Yields WellFormed (item bytes)) (fuel : Nat)
    (bytes : Bytes) :
    Yields (fun elements => ∀ element ∈ elements, element.WellFormed)
      (readElements item fuel bytes) := by
  induction fuel generalizing bytes with
  | zero => exact .faultAt
  | succ fuel ih =>
    rw [readElements]
    apply (hitem bytes).bind
    intro element rest helement
    dsimp only
    split
    · exact .faultOn
    · exact .ok (List.forall_mem_singleton.2 helement)
    · split
      · exact .faultOn
      · exact .faultOn
      · exact (ih _).bind fun elements _ hrest => .ok (List.forall_mem_cons.2 ⟨helement, hrest⟩)
    · exact .faultOn

theorem yields_readArray (hitem : ∀ bytes, Yields WellFormed (item bytes)) (bytes : Bytes) :
    Yields (fun elements => ∀ element ∈ elements, element.WellFormed)
      (readArray item bytes) := by
  rw [readArray]
  split
  · exact .faultOn
  · exact .ok (List.forall_mem_nil _)
  · exact yields_readElements hitem _ _

theorem yields_readMember (hitem : ∀ bytes, Yields WellFormed (item bytes)) (bytes : Bytes) :
    Yields (fun member => member.2.WellFormed) (readMember item bytes) := by
  rw [readMember]
  apply Yields.any.bind
  intro key rest _
  dsimp only
  split
  · exact .faultOn
  · exact (hitem _).bind fun value _ hvalue => .ok hvalue
  · exact .faultOn

theorem yields_readMembers (hitem : ∀ bytes, Yields WellFormed (item bytes)) (fuel : Nat)
    (bytes : Bytes) :
    Yields (fun members => ∀ member ∈ members, member.2.WellFormed)
      (readMembers item fuel bytes) := by
  induction fuel generalizing bytes with
  | zero => exact .faultAt
  | succ fuel ih =>
    rw [readMembers]
    apply (yields_readMember hitem bytes).bind
    intro member rest hmember
    dsimp only
    split
    · exact .faultOn
    · exact .ok (List.forall_mem_singleton.2 hmember)
    · split
      · exact .faultOn
      · exact (ih _).bind fun members _ hrest => .ok (List.forall_mem_cons.2 ⟨hmember, hrest⟩)
      · exact .faultOn
      · exact .faultOn
    · exact .faultOn

/-- Whatever order the members of an object are written in, they are kept in key order. -/
theorem yields_readObject (hitem : ∀ bytes, Yields WellFormed (item bytes)) (bytes : Bytes) :
    Yields WellFormed (readObject item bytes) := by
  rw [readObject]
  split
  · exact .faultOn
  · exact .ok (.object List.Pairwise.nil (List.forall_mem_nil _))
  · apply (yields_readMembers hitem _ _).bind
    intro members rest hmembers
    have hkept : ∀ member ∈ Keyed.ofList members, member.2.WellFormed :=
      fun member hmember => hmembers member (Keyed.mem_of_mem_ofList hmember)
    exact .ok (.object (Keyed.ordered_ofList members) hkept)
  · exact .faultOn

end Items

theorem yields_readValue (depth : Nat) (bytes : Bytes) :
    Yields WellFormed (readValue depth bytes) := by
  induction depth generalizing bytes with
  | zero =>
    rw [readValue]
    split
    · exact .faultOn
    · exact .faultOn
    · exact yields_readScalar
  | succ depth ih =>
    rw [readValue]
    split
    · exact (yields_readArray ih _).bind fun elements _ helements => .ok (.array helements)
    · exact yields_readObject ih _
    · exact yields_readScalar

/-- Bytes are the text of well-formed values only. -/
theorem wellFormed_of_parse {bytes : List UInt8} {value : Json}
    (hparse : parse bytes = .ok value) : value.WellFormed := by
  rw [parse, except_mapError_eq_ok_iff, except_bind_eq_ok_iff] at hparse
  obtain ⟨⟨read, rest⟩, hread, hend⟩ := hparse
  have hvalue := (yields_readValue 127 bytes).holds read rest hread
  dsimp only at hend
  split at hend
  · exact Except.ok.inj hend ▸ hvalue
  · contradiction

end Json

end Rerank
