import Mathlib
import Rerank.Proofs.Json.Shape

/-!
# Which bodies are accepted

What is wanted of a reply is one member of an object.  A body is accepted if it has that member in
the wanted form.  Every other body fails in one of three ways, and which of them it is depends on
the body alone.
-/

namespace Rerank

/-- How a result is read off the member `key` of a body, which is to be of a form.  A member of
another form is reported by `wrong`. -/
structure ReadsMember {α : Type} (key : String) (wrong : Json.Mismatch → ReplyFault)
    (Form : Json → α → Prop) (body : List UInt8) (result : Except Failure α) : Prop where
  ok_iff : ∀ a, result = .ok a ↔
    ∃ members member, Json.parse body = .ok (.object members) ∧
      Keyed.get? members key = some member ∧ Form member a
  malformed_iff : ∀ fault, result = .error (.malformed fault) ↔ Json.parse body = .error fault
  /-- What is no object lacks the member, also if it is an array. -/
  missing_iff : result = .error (.reply (.missingMember key)) ↔
    ∃ value, Json.parse body = .ok value ∧
      ∀ members, value = .object members → Keyed.get? members key = none
  wrong_iff : (∃ mismatch, result = .error (.reply (wrong mismatch))) ↔
    ∃ members member, Json.parse body = .ok (.object members) ∧
      Keyed.get? members key = some member ∧ ∀ a, ¬ Form member a
  failed : ∀ failure, result = .error failure → failure.category = .remote ∧
    ((∃ fault, failure = .malformed fault) ∨ failure = .reply (.missingMember key) ∨
      ∃ mismatch, failure = .reply (wrong mismatch))

section Forms

variable {α : Type} {key : String} {wrong : Json.Mismatch → ReplyFault}
  {Form : Json → α → Prop} {read : Json → Except Json.Mismatch α} {body : List UInt8}

/-- A value that has a member with a property is an object that has it. -/
theorem Json.exists_parse_get?_iff {P : Json → Prop} :
    (∃ value member, parse body = .ok value ∧ value.get? key = some member ∧ P member) ↔
      ∃ members member, parse body = .ok (.object members) ∧
        Keyed.get? members key = some member ∧ P member := by
  simp only [get?_eq_some_iff]
  constructor
  · rintro ⟨_, member, hparse, ⟨members, rfl, hmember⟩, hproperty⟩
    exact ⟨members, member, hparse, hmember, hproperty⟩
  · rintro ⟨members, member, hparse, hmember, hproperty⟩
    exact ⟨_, member, hparse, ⟨members, rfl, hmember⟩, hproperty⟩

/-- The reader of the member decides, as it accepts what is of the form. -/
theorem readsMember_of_form
    (hread : ∀ member a, member.WellFormed → (read member = .ok a ↔ Form member a))
    (hwrong : ∀ mismatch, wrong mismatch ≠ .missingMember key) :
    ReadsMember key wrong Form body
      (replyMember key body >>= fun member =>
        (read member).mapError fun mismatch => .reply (wrong mismatch)) := by
  have hform {value member : Json} (hparse : Json.parse body = .ok value)
      (hmember : value.get? key = some member) (a : α) : read member = .ok a ↔ Form member a :=
    hread member a ((Json.wellFormed_of_parse hparse).get? hmember)
  constructor
  case ok_iff =>
    intro a
    rw [replyMember_bind_eq_ok_iff, ← Json.exists_parse_get?_iff]
    apply exists_congr
    intro value
    apply exists_congr
    intro member
    apply and_congr_right
    intro hparse
    apply and_congr_right
    intro hmember
    exact hform hparse hmember a
  case malformed_iff =>
    intro fault
    rw [replyMember_bind_eq_error_iff]
    simp [eq_comm]
  case missing_iff =>
    simp [replyMember_bind_eq_error_iff, ← Json.get?_eq_none_iff, Ne.symm (hwrong _)]
  case wrong_iff =>
    rw [← Json.exists_parse_get?_iff]
    constructor
    · intro ⟨mismatch, hfailure⟩
      obtain ⟨_, -, hfault⟩ | ⟨value, hparse, ⟨-, hfault⟩ | ⟨member, other, hmember, hother, -⟩⟩ :=
        replyMember_bind_eq_error_iff.1 hfailure
      · contradiction
      · exact absurd (Failure.reply.inj hfault) (hwrong mismatch)
      · refine ⟨value, member, hparse, hmember, fun a ha => ?_⟩
        rw [(hform hparse hmember a).2 ha] at hother
        contradiction
    · intro ⟨value, member, hparse, hmember, hnone⟩
      cases hresult : read member with
      | ok a => exact absurd ((hform hparse hmember a).1 hresult) (hnone a)
      | error mismatch =>
        exact ⟨mismatch, replyMember_bind_eq_error_iff.2
          (.inr ⟨value, hparse, .inr ⟨member, mismatch, hmember, hresult, rfl⟩⟩)⟩
  case failed =>
    intro failure hfailure
    obtain ⟨fault, -, rfl⟩ | ⟨value, -, ⟨-, rfl⟩ | ⟨member, mismatch, -, -, rfl⟩⟩ :=
      replyMember_bind_eq_error_iff.1 hfailure
    · exact ⟨rfl, .inl ⟨fault, rfl⟩⟩
    · exact ⟨rfl, .inr (.inl rfl)⟩
    · exact ⟨rfl, .inr (.inr ⟨mismatch, rfl⟩)⟩

end Forms

end Rerank
