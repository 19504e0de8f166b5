import Mathlib
import Rerank.Reply.Reading
import Rerank.Request

/-!
# Steps of reading a reply

A reply is read in steps, and the first step that fails decides the failure: the status has to be a
success, the body has to be JSON, its value has to have the member that was asked for, and that
member has to be of the right shape.
-/

namespace Rerank

section Except

variable {ε α β : Type} {first : Except ε α} {next : α → Except ε β}

theorem except_bind_eq_ok_iff {b : β} :
    (first >>= next) = .ok b ↔ ∃ a, first = .ok a ∧ next a = .ok b := by
  cases first <;> simp [bind, Except.bind]

theorem except_bind_eq_error_iff {e : ε} :
    (first >>= next) = .error e ↔
      first = .error e ∨ ∃ a, first = .ok a ∧ next a = .error e := by
  cases first <;> simp [bind, Except.bind]

theorem except_map_eq_ok_iff {f : α → β} {b : β} :
    first.map f = .ok b ↔ ∃ a, first = .ok a ∧ f a = b := by
  cases first <;> simp [Except.map]

theorem except_map_eq_error_iff {f : α → β} {e : ε} :
    first.map f = .error e ↔ first = .error e := by
  cases first <;> simp [Except.map]

theorem except_mapError_eq_ok_iff {δ : Type} {f : ε → δ} {a : α} :
    first.mapError f = .ok a ↔ first = .ok a := by
  cases first <;> simp [Except.mapError]

theorem except_mapError_eq_error_iff {δ : Type} {f : ε → δ} {d : δ} :
    first.mapError f = .error d ↔ ∃ e, first = .error e ∧ f e = d := by
  cases first <;> simp [Except.mapError]

end Except

namespace Response

variable {reply : Response}

theorem successful_eq_ok_iff {success : Response} :
    reply.successful = .ok success ↔
      success = reply ∧ 200 ≤ reply.status ∧ reply.status < 300 := by
  by_cases hstatus : 200 ≤ reply.status ∧ reply.status < 300
  · simp [successful, isSuccess, hstatus, eq_comm]
  · have hfailed : reply.isSuccess = false := by simpa [isSuccess] using hstatus
    simp [successful, hfailed, hstatus]

theorem successful_eq_error_iff {failure : Failure} :
    reply.successful = .error failure ↔
      ¬ (200 ≤ reply.status ∧ reply.status < 300) ∧
        failure = .status reply.status (Text.Utf8.decodeLossy reply.body) := by
  by_cases hstatus : 200 ≤ reply.status ∧ reply.status < 300
  · simp [successful, isSuccess, hstatus]
  · have hfailed : reply.isSuccess = false := by simpa [isSuccess] using hstatus
    simp [successful, hfailed, hstatus, eq_comm]

end Response

section Member

variable {α : Type} {key : String} {body : List UInt8} {read : Json → Except Json.Mismatch α}
  {wrong : Json.Mismatch → ReplyFault}

/-- What is read off a member of a reply. -/
theorem replyMember_bind_eq_ok_iff {a : α} :
    (replyMember key body >>= fun member =>
      (read member).mapError fun mismatch => .reply (wrong mismatch)) = .ok a ↔
      ∃ value member, Json.parse body = .ok value ∧ value.get? key = some member ∧
        read member = .ok a := by
  rw [replyMember]
  cases Json.parse body with
  | error fault => simp [bind, Except.bind]
  | ok value =>
    cases hmember : value.get? key with
    | none => simp [bind, Except.bind, hmember]
    | some member => simp [bind, Except.bind, hmember, except_mapError_eq_ok_iff]

/-- A member cannot be read off a body that is not JSON, or off JSON of another shape. -/
theorem replyMember_bind_eq_error_iff {failure : Failure} :
    (replyMember key body >>= fun member =>
      (read member).mapError fun mismatch => .reply (wrong mismatch)) = .error failure ↔
      (∃ fault, Json.parse body = .error fault ∧ failure = .malformed fault) ∨
        ∃ value, Json.parse body = .ok value ∧
          ((value.get? key = none ∧ failure = .reply (.missingMember key)) ∨
            ∃ member mismatch, value.get? key = some member ∧ read member = .error mismatch ∧
              failure = .reply (wrong mismatch)) := by
  rw [replyMember]
  cases Json.parse body with
  | error fault => simp [bind, Except.bind, eq_comm]
  | ok value =>
    cases hmember : value.get? key with
    | none => simp [bind, Except.bind, hmember, eq_comm]
    | some member =>
      cases hread : read member <;>
        simp [bind, Except.bind, Except.mapError, hmember, hread, eq_comm]

end Member

/-- Rankings cannot be read from a body that is not JSON, or from JSON of another shape. -/
theorem parseRankings_eq_error_iff {body : List UInt8} {failure : Failure} :
    parseRankings body = .error failure ↔
      (∃ fault, Json.parse body = .error fault ∧ failure = .malformed fault) ∨
        ∃ value, Json.parse body = .ok value ∧
          ((value.get? "rankings" = none ∧ failure = .reply (.missingMember "rankings")) ∨
            ∃ member mismatch, value.get? "rankings" = some member ∧
              Ranking.listOfJson member = .error mismatch ∧
              failure = .reply (.notRankings mismatch)) :=
  replyMember_bind_eq_error_iff

end Rerank
