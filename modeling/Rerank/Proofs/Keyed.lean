import Mathlib
import Rerank.Keyed

/-!
# Maps built from lists

A map built from a list holds for each key the last value that the list gives it, and nothing else.
As its keys are in order, it is told by what it holds: lists that give the same keys the same last
values build one map.
-/

namespace Rerank.Keyed

variable {α : Type}

/-- The list gives the key the value and, after that, no other one. -/
def LastGiven (pairs : List (String × α)) (key : String) (value : α) : Prop :=
  ∃ before after, pairs = before ++ (key, value) :: after ∧ ∀ pair ∈ after, pair.1 ≠ key

/-- What the last pair says of its key is all that counts for it. -/
theorem lastGiven_concat {pairs : List (String × α)} {pair : String × α} {key : String}
    {value : α} :
    LastGiven (pairs ++ [pair]) key value ↔
      if key = pair.1 then value = pair.2 else LastGiven pairs key value := by
  constructor
  · rintro ⟨before, after, hsplit, hlast⟩
    induction after using List.reverseRecOn with
    | nil =>
      obtain ⟨-, hpair⟩ := List.append_inj' hsplit rfl
      obtain rfl : pair = (key, value) := List.singleton_inj.1 hpair
      rw [if_pos rfl]
    | append_singleton after last =>
      rw [← List.cons_append, ← List.append_assoc] at hsplit
      obtain ⟨hpairs, hpair⟩ := List.append_inj' hsplit rfl
      obtain rfl : pair = last := List.singleton_inj.1 hpair
      have hother : pair.1 ≠ key := hlast pair (by simp)
      rw [if_neg hother.symm]
      exact ⟨before, after, hpairs, fun entry hentry => hlast entry (by simp [hentry])⟩
  · split
    · rintro rfl
      next hkey => exact ⟨pairs, [], by rw [hkey], by simp⟩
    · rintro ⟨before, after, rfl, hlast⟩
      next hkey =>
        refine ⟨before, after ++ [pair], by simp, ?_⟩
        intro entry hentry
        obtain hafter | hentry := List.mem_append.1 hentry
        · exact hlast entry hafter
        · rw [List.mem_singleton.1 hentry]
          exact Ne.symm hkey

/-- Each key that the list has is given a last value. -/
theorem exists_lastGiven {pairs : List (String × α)} {key : String}
    (hkey : key ∈ pairs.map Prod.fst) : ∃ value, LastGiven pairs key value := by
  induction pairs using List.reverseRecOn with
  | nil => contradiction
  | append_singleton pairs pair ih =>
    by_cases hsame : key = pair.1
    · exact ⟨pair.2, lastGiven_concat.2 (by rw [if_pos hsame])⟩
    · have hbefore : key ∈ pairs.map Prod.fst := by simpa [hsame] using hkey
      obtain ⟨value, hlast⟩ := ih hbefore
      exact ⟨value, lastGiven_concat.2 (by rwa [if_neg hsame])⟩

theorem ofList_concat (pairs : List (String × α)) (pair : String × α) :
    ofList (pairs ++ [pair]) = (ofList pairs).insert pair.1 pair.2 := by
  rw [ofList, List.foldl_append]
  rfl

/-- The value that a map has for a key is the last one that its list gives the key. -/
theorem get?_ofList_eq_some_iff {pairs : List (String × α)} {key : String} {value : α} :
    (ofList pairs).get? key = some value ↔ LastGiven pairs key value := by
  induction pairs using List.reverseRecOn with
  | nil =>
    constructor
    · intro hget
      contradiction
    · rintro ⟨before, after, hnil, -⟩
      simp at hnil
  | append_singleton pairs pair ih =>
    rw [ofList_concat, get?_insert, lastGiven_concat]
    split
    · rw [Option.some.injEq, eq_comm]
    · exact ih

/-- A map with its keys in order has the value of each of its pairs. -/
theorem Ordered.get?_eq_some_iff {map : Keyed α} (hordered : Ordered map) {key : String}
    {value : α} : map.get? key = some value ↔ (key, value) ∈ map := by
  refine ⟨mem_of_get?, fun hmem => ?_⟩
  induction map with
  | nil => contradiction
  | cons pair rest ih =>
    obtain ⟨hfirst, hrest⟩ := List.pairwise_cons.1 hordered
    obtain rfl | hlater := List.mem_cons.1 hmem
    · simp [get?]
    · have hne : (key == pair.1) = false := beq_false_of_ne (hfirst _ hlater).ne'
      rw [get?, List.lookup_cons, hne]
      exact ih hrest hlater

/-- A map holds what its list gives last. -/
theorem mem_ofList_iff {pairs : List (String × α)} {key : String} {value : α} :
    (key, value) ∈ ofList pairs ↔ LastGiven pairs key value := by
  rw [← (ordered_ofList pairs).get?_eq_some_iff, get?_ofList_eq_some_iff]

/-- Maps with their keys in order are told by their pairs. -/
theorem Ordered.eq_of_mem_iff {left right : Keyed α} (hleft : Ordered left)
    (hright : Ordered right) (hmem : ∀ entry, entry ∈ left ↔ entry ∈ right) : left = right := by
  have hnodup {map : Keyed α} (hordered : Ordered map) : map.Nodup :=
    hordered.imp fun hlt heq => hlt.ne (congrArg Prod.fst heq)
  have hperm := (List.perm_ext_iff_of_nodup (hnodup hleft) (hnodup hright)).2 hmem
  exact hperm.eq_of_pairwise (fun _ _ _ _ hlt hgt => absurd hgt hlt.not_gt) hleft hright

/-- Lists build one map exactly if they give the same keys the same last values. -/
theorem ofList_eq_ofList_iff {left right : List (String × α)} :
    ofList left = ofList right ↔
      ∀ key value, LastGiven left key value ↔ LastGiven right key value := by
  simp only [← mem_ofList_iff]
  constructor
  · intro hmaps key value
    rw [hmaps]
  · intro hgiven
    exact (ordered_ofList left).eq_of_mem_iff (ordered_ofList right) fun _ => hgiven _ _

@[simp]
theorem isEmpty_ofList (pairs : List (String × α)) : (ofList pairs).isEmpty = pairs.isEmpty := by
  cases pairs using List.reverseRecOn with
  | nil => rfl
  | append_singleton pairs pair =>
    have hlast : (pair.1, pair.2) ∈ ofList (pairs ++ [pair]) :=
      mem_ofList_iff.2 (lastGiven_concat.2 (by rw [if_pos rfl]))
    rw [List.isEmpty_eq_false_iff.2 (List.ne_nil_of_mem hlast)]
    simp

end Rerank.Keyed
