import Mathlib
import Rerank.Proofs.Reply.Acceptance

/-!
# Bodies with rankings

A ranking is written as an object or as the array of its two fields.  The index is an integer that
is not negative, and every number stands for the score that is nearest to it.
-/

namespace Rerank

open Json

namespace Ranking

/-- How a ranking is written.  An object may have further members, but an array has no further
elements. -/
inductive Written : Json → Ranking → Prop
  | object {members : List (String × Json)} {index : Nat} {logit : JsonNumber} {score : Score}
      (hfits : index < 0x10000000000000000)
      (hindex : Keyed.get? members "index" = some (.number (.integer index)))
      (hlogit : Keyed.get? members "logit" = some (.number logit)) (hscore : logit.Nearest score) :
      Written (.object members) ⟨index, score⟩
  | array {index : Nat} {logit : JsonNumber} {score : Score} (hfits : index < 0x10000000000000000)
      (hscore : logit.Nearest score) :
      Written (.array [.number (.integer index), .number logit]) ⟨index, score⟩

theorem ofJson_object_eq_ok_iff {members : List (String × Json)} {ranking : Ranking} :
    ofJson (.object members) = .ok ranking ↔
      ∃ logit, Keyed.get? members "index" = some (.number (.integer ranking.index)) ∧
        Keyed.get? members "logit" = some (.number logit) ∧ logit.Nearest ranking.score := by
  simp only [ofJson, except_bind_eq_ok_iff, require_eq_ok_iff]
  constructor
  · rintro ⟨_, hindex, _, hscore, index, rfl, score, rfl, hranking⟩
    obtain rfl := Except.ok.inj hranking
    obtain ⟨first, hfirst, hreadFirst⟩ := member?_eq_ok_some_iff.1 hindex
    obtain ⟨second, hsecond, hreadSecond⟩ := member?_eq_ok_some_iff.1 hscore
    obtain rfl := asIndex_eq_ok_iff.1 hreadFirst
    obtain ⟨logit, rfl, hlogit⟩ := asScore_eq_ok_iff.1 hreadSecond
    exact ⟨logit, hfirst, hsecond, hlogit⟩
  · intro ⟨logit, hfirst, hsecond, hlogit⟩
    have hindex := asIndex_eq_ok_iff.2 (Eq.refl (Json.number (.integer ranking.index)))
    have hscore := asScore_eq_ok_iff.2 ⟨logit, rfl, hlogit⟩
    exact ⟨_, member?_eq_ok_some_iff.2 ⟨_, hfirst, hindex⟩, _,
      member?_eq_ok_some_iff.2 ⟨_, hsecond, hscore⟩, _, rfl, _, rfl, rfl⟩

theorem ofJson_array_eq_ok_iff {elements : List Json} {ranking : Ranking} :
    ofJson (.array elements) = .ok ranking ↔
      ∃ logit, elements = [.number (.integer ranking.index), .number logit] ∧
        logit.Nearest ranking.score := by
  match elements with
  | [] => simp [ofJson]
  | [first] => simp [ofJson, except_bind_eq_ok_iff]
  | first :: second :: rest =>
    simp only [ofJson, except_bind_eq_ok_iff, noMore_eq_ok_iff]
    constructor
    · rintro ⟨index, hindex, score, hscore, rfl, rfl⟩
      obtain rfl := asIndex_eq_ok_iff.1 hindex
      obtain ⟨logit, rfl, hlogit⟩ := asScore_eq_ok_iff.1 hscore
      exact ⟨logit, rfl, hlogit⟩
    · rintro ⟨logit, helements, hlogit⟩
      simp only [List.cons.injEq] at helements
      obtain ⟨rfl, rfl, rfl⟩ := helements
      exact ⟨_, asIndex_eq_ok_iff.2 rfl, _, asScore_eq_ok_iff.2 ⟨logit, rfl, hlogit⟩, rfl, rfl⟩

/-- The integers of a well-formed value are those of 64 bits. -/
theorem fits_of_wellFormed {index : Nat}
    (hnumber : (Json.number (.integer index)).WellFormed) : index < 0x10000000000000000 := by
  cases hnumber with
  | number hrange => exact Int.ofNat_lt.1 hrange.2

theorem ofJson_eq_ok_iff {value : Json} {ranking : Ranking} (hvalue : value.WellFormed) :
    ofJson value = .ok ranking ↔ Written value ranking := by
  constructor
  · intro hread
    cases value with
    | object members =>
      obtain ⟨logit, hindex, hlogit, hscore⟩ := ofJson_object_eq_ok_iff.1 hread
      exact .object (fits_of_wellFormed (hvalue.get? hindex)) hindex hlogit hscore
    | array elements =>
      obtain ⟨logit, rfl, hscore⟩ := ofJson_array_eq_ok_iff.1 hread
      exact .array (fits_of_wellFormed (hvalue.elements _ List.mem_cons_self)) hscore
    | null | bool _ | number _ | string _ => contradiction
  · intro hwritten
    cases hwritten with
    | object _ hindex hlogit hscore =>
      exact ofJson_object_eq_ok_iff.2 ⟨_, hindex, hlogit, hscore⟩
    | array _ hscore => exact ofJson_array_eq_ok_iff.2 ⟨_, rfl, hscore⟩

end Ranking

/-- Rankings are read off a body exactly if it is an object whose member `rankings` is an array of
written rankings, and then they are those, in their order. -/
theorem rankings_of_body (body : List UInt8) :
    ReadsMember "rankings" .notRankings (Listed Ranking.Written) body (parseRankings body) := by
  apply readsMember_of_form
  · intro member rankings hmember
    exact listed_iff (fun element ranking helement => Ranking.ofJson_eq_ok_iff helement) hmember
  · intro mismatch
    exact ReplyFault.noConfusion

/-- An array at the top is no object, although a ranking may be an array. -/
example : parseRankings "[[[0, 1]]]".toUTF8.toList =
    .error (.reply (.missingMember "rankings")) := by
  decide +kernel

end Rerank
