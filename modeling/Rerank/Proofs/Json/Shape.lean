import Mathlib
import Rerank.Proofs.Json.WellFormed
import Rerank.Proofs.Score

/-!
# What the readers of a shape accept

Each reader accepts the values of one form.  The form is said apart from the reader, and a value
is accepted exactly if it is of the form.
-/

namespace Rerank

/-- A list is read if each of its elements is. -/
theorem except_mapM_eq_ok_iff {ε α β : Type} {f : α → Except ε β} {list : List α}
    {results : List β} :
    list.mapM f = .ok results ↔ List.Forall₂ (fun a b => f a = .ok b) list results := by
  induction list generalizing results with
  | nil => cases results <;> simp [pure, Except.pure]
  | cons a rest ih =>
    simp only [List.mapM_cons, except_bind_eq_ok_iff, ih, List.forall₂_cons_left_iff]
    constructor
    · intro ⟨b, hb, more, hmore, hresults⟩
      exact ⟨b, more, hb, hmore, (Except.ok.inj hresults).symm⟩
    · intro ⟨b, more, hb, hmore, hresults⟩
      exact ⟨b, hb, more, hmore, congrArg Except.ok hresults.symm⟩

namespace Json

theorem get?_eq_some_iff {value member : Json} {key : String} :
    value.get? key = some member ↔
      ∃ members, value = .object members ∧ Keyed.get? members key = some member := by
  cases value <;> simp [get?]

theorem get?_eq_none_iff {value : Json} {key : String} :
    value.get? key = none ↔ ∀ members, value = .object members → Keyed.get? members key = none := by
  cases value <;> simp [get?]

/-- An array of values of one form, each of which stands for an element of the list. -/
def Listed {α : Type} (Form : Json → α → Prop) (value : Json) (list : List α) : Prop :=
  ∃ elements, value = .array elements ∧ List.Forall₂ Form elements list

/-- A value that may be absent or null, and is of one form otherwise. -/
inductive Optional {α : Type} (Form : Json → α → Prop) : Option Json → Option α → Prop
  | absent : Optional Form none none
  | null : Optional Form (some .null) none
  | present {value : Json} {a : α} (hvalue : value ≠ .null) (hform : Form value a) :
      Optional Form (some value) (some a)

theorem optional_none_iff {α : Type} {Form : Json → α → Prop} {result : Option α} :
    Optional Form none result ↔ result = none := by
  constructor
  · intro hform
    cases hform
    rfl
  · rintro rfl
    exact .absent

section Readers

variable {α : Type} {value : Json}

theorem asElements_eq_ok_iff {elements : List Json} :
    asElements value = .ok elements ↔ value = .array elements := by
  cases value <;> simp [asElements, unexpected]

theorem asString_eq_ok_iff {s : String} : asString value = .ok s ↔ value = .string s := by
  cases value <;> simp [asString, unexpected]

theorem asIndex_eq_ok_iff {n : Nat} :
    asIndex value = .ok n ↔ value = .number (.integer n) := by
  cases value with
  | number number =>
    cases number with
    | integer m => cases m <;> simp [asIndex]
    | double x => simp [asIndex, unexpected]
  | null | bool _ | string _ | array _ | object _ => simp [asIndex, unexpected]

theorem asScore_eq_ok_iff {score : Score} :
    asScore value = .ok score ↔ ∃ number, value = .number number ∧ number.Nearest score := by
  cases value with
  | number number =>
    cases number <;> simp [asScore, JsonNumber.nearest_integer_iff, JsonNumber.nearest_double_iff]
  | null | bool _ | string _ | array _ | object _ => simp [asScore, unexpected]

theorem noMore_eq_ok_iff {length : Nat} {rest : List Json} {result a : α} :
    noMore length rest result = .ok a ↔ rest = [] ∧ result = a := by
  cases rest <;> simp [noMore]

theorem require_eq_ok_iff {key : String} {field : Option α} {a : α} :
    require key field = .ok a ↔ field = some a := by
  cases field <;> simp [require]

variable {read : Json → Except Mismatch α} {Form : Json → α → Prop}

theorem member?_eq_ok_some_iff {key : String} {a : α} :
    member? read value key = .ok (some a) ↔
      ∃ member, value.get? key = some member ∧ read member = .ok a := by
  rw [member?]
  cases value.get? key with
  | none => simp [pure, Except.pure]
  | some member =>
    cases hread : read member <;> simp [hread, Functor.map, Except.map]

theorem asOptional_eq_ok_iff (hread : ∀ value a, read value = .ok a ↔ Form value a)
    {result : Option α} :
    asOptional read value = .ok result ↔ Optional Form (some value) result := by
  by_cases hnull : value = .null
  · subst hnull
    constructor
    · intro hok
      obtain rfl := Except.ok.inj hok
      exact .null
    · intro hform
      cases hform with
      | null => rfl
      | present hvalue _ => contradiction
  · have hsome : asOptional read value = some <$> read value := by
      cases value <;> first | contradiction | rfl
    have hmap : asOptional read value = .ok result ↔
        ∃ a, read value = .ok a ∧ some a = result := by
      rw [hsome]
      exact except_map_eq_ok_iff
    rw [hmap]
    constructor
    · intro ⟨a, ha, hresult⟩
      rw [← hresult]
      exact .present hnull ((hread value a).1 ha)
    · intro hform
      cases hform with
      | null => contradiction
      | present _ hform => exact ⟨_, (hread value _).2 hform, rfl⟩

theorem optionalMember_eq_ok_iff (hread : ∀ value a, read value = .ok a ↔ Form value a)
    {key : String} {result : Option α} :
    optionalMember read value key = .ok result ↔ Optional Form (value.get? key) result := by
  rw [optionalMember]
  cases value.get? key with
  | some member => exact asOptional_eq_ok_iff hread
  | none =>
    rw [optional_none_iff, Except.ok.injEq, eq_comm]

/-- The elements of a well-formed array are well-formed, so that it is enough to know which of
these the reader accepts. -/
theorem listed_iff
    (hread : ∀ element a, element.WellFormed → (read element = .ok a ↔ Form element a))
    (hvalue : value.WellFormed) {list : List α} :
    (asElements value >>= List.mapM read) = .ok list ↔ Listed Form value list := by
  simp only [except_bind_eq_ok_iff, asElements_eq_ok_iff, except_mapM_eq_ok_iff, Listed]
  apply exists_congr
  intro elements
  apply and_congr_right
  rintro rfl
  have hiff (element : Json) (a : α) :
      (element.WellFormed ∧ read element = .ok a) ↔ (element.WellFormed ∧ Form element a) :=
    and_congr_right (hread element a)
  calc List.Forall₂ (fun element a => read element = .ok a) elements list
    _ ↔ (∀ element ∈ elements, element.WellFormed) ∧
          List.Forall₂ (fun element a => read element = .ok a) elements list :=
        (and_iff_right hvalue.elements).symm
    _ ↔ List.Forall₂ (fun element a => element.WellFormed ∧ read element = .ok a) elements list :=
        (List.forall₂_and_left elements list).symm
    _ ↔ List.Forall₂ (fun element a => element.WellFormed ∧ Form element a) elements list := by
        simp only [hiff]
    _ ↔ (∀ element ∈ elements, element.WellFormed) ∧ List.Forall₂ Form elements list :=
        List.forall₂_and_left elements list
    _ ↔ List.Forall₂ Form elements list := and_iff_right hvalue.elements

end Readers

end Json

end Rerank
