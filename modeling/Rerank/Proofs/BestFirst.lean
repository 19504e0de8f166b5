import Mathlib
import Rerank.Batch

/-!
# The best items first

Sorting items by score is told apart from the algorithm that does it: the result descends, and the
items of each score stay in the order that they had.  There is only one such list.  The merge of two
of them is the one of both inputs together, and the front of a merge is made of the fronts, which is
why items may be dropped before lists are merged.
-/

namespace Rerank

namespace Score

theorem le_refl (s : Score) : s ≤ s :=
  Int.le_refl s.place

theorem le_trans {s t u : Score} (hst : s ≤ t) (htu : t ≤ u) : s ≤ u :=
  Int.le_trans hst htu

theorem le_total (s t : Score) : s ≤ t ∨ t ≤ s :=
  Int.le_total s.place t.place

theorem le_antisymm {s t : Score} (hst : s ≤ t) (hts : t ≤ s) : s = t :=
  place_injective (Int.le_antisymm hst hts)

theorem lt_irrefl (s : Score) : ¬ s < s :=
  Int.lt_irrefl s.place

theorem le_of_lt {s t : Score} (hlt : s < t) : s ≤ t :=
  Int.le_of_lt hlt

theorem lt_or_eq_of_le {s t : Score} (hle : s ≤ t) : s < t ∨ s = t :=
  (Int.lt_or_eq_of_le hle).imp_right fun hplace => place_injective hplace

end Score

/-- The items descend by score. -/
def Descending (items : List Item) : Prop :=
  items.Pairwise fun a b => b.score ≤ a.score

/-- `sorted` has the items with the best ones first, and those of equal score in the order in which
they were. -/
structure IsBestFirst (items sorted : List Item) : Prop where
  descending : Descending sorted
  stable : ∀ score, sorted.filter (·.score = score) = items.filter (·.score = score)

namespace IsBestFirst

variable {items sorted other : List Item}

/-- Nothing is lost and nothing is added. -/
theorem perm (hsorted : IsBestFirst items sorted) : sorted.Perm items := by
  rw [List.perm_iff_count]
  intro item
  have hclass (l : List Item) : (l.filter (·.score = item.score)).count item = l.count item :=
    List.count_filter (by simp)
  rw [← hclass sorted, ← hclass items, hsorted.stable]

theorem head_le_of_mem {first : Item} {rest : List Item} {item : Item}
    (hdescending : Descending (first :: rest)) (hitem : item ∈ first :: rest) :
    item.score ≤ first.score := by
  rcases List.mem_cons.1 hitem with rfl | hrest
  · exact Score.le_refl _
  · exact List.rel_of_pairwise_cons hdescending hrest

/-- Two descending lists with the same items of each score are one. -/
theorem eq_of_filter_eq (hsorted : Descending sorted) (hother : Descending other)
    (hclasses : ∀ score, sorted.filter (·.score = score) = other.filter (·.score = score)) :
    sorted = other := by
  induction sorted generalizing other with
  | nil =>
    cases other with
    | nil => rfl
    | cons b other => simpa using hclasses b.score
  | cons a sorted ih =>
    cases other with
    | nil => simpa using (hclasses a.score).symm
    | cons b other =>
      -- Each head occurs in the other list, so neither is better than the other one.
      have hab : a ∈ b :: other := by
        have hmem : a ∈ (b :: other).filter (·.score = a.score) := by
          rw [← hclasses]
          simp
        exact (List.mem_filter.1 hmem).1
      have hba : b ∈ a :: sorted := by
        have hmem : b ∈ (a :: sorted).filter (·.score = b.score) := by
          rw [hclasses]
          simp
        exact (List.mem_filter.1 hmem).1
      have hscore : a.score = b.score :=
        Score.le_antisymm (head_le_of_mem hother hab) (head_le_of_mem hsorted hba)
      have hhead : a = b := by
        have hclass := hclasses a.score
        simp only [List.filter_cons, hscore, decide_true, if_true] at hclass
        exact (List.cons.inj hclass).1
      subst hhead
      congr 1
      refine ih hsorted.of_cons hother.of_cons fun score => ?_
      have hclass := hclasses score
      simp only [List.filter_cons] at hclass
      split at hclass
      · exact (List.cons.inj hclass).2
      · exact hclass

theorem unique (hsorted : IsBestFirst items sorted) (hother : IsBestFirst items other) :
    sorted = other :=
  eq_of_filter_eq hsorted.descending hother.descending fun score => by
    rw [hsorted.stable, hother.stable]

/-- Of two items the better one comes first, and of two equally good ones the one that came before
the other. -/
theorem pairwise {before : Item → Item → Prop} (hsorted : IsBestFirst items sorted)
    (hitems : items.Pairwise before) :
    sorted.Pairwise fun a b => b.score < a.score ∨ a.score = b.score ∧ before a b := by
  rw [List.pairwise_iff_forall_sublist]
  intro a b hpair
  have hle : b.score ≤ a.score := List.pairwise_iff_forall_sublist.1 hsorted.descending hpair
  obtain hlt | heq := Score.lt_or_eq_of_le hle
  · exact Or.inl hlt
  · -- The items of one score are the same in both lists, so the pair is one of the first list, too.
    have hclass : [a, b].Sublist (sorted.filter (·.score = a.score)) := by
      have hkept := hpair.filter (·.score = a.score)
      simpa [heq] using hkept
    rw [hsorted.stable] at hclass
    have hboth : [a, b].Sublist items := hclass.trans List.filter_sublist
    exact Or.inr ⟨heq.symm, List.pairwise_iff_forall_sublist.1 hitems hboth⟩

end IsBestFirst

/-- Whether an item is at least as good as another: what items are sorted by. -/
def Item.atLeast (a b : Item) : Bool :=
  decide (b.score ≤ a.score)

@[simp]
theorem Item.atLeast_eq_true {a b : Item} : a.atLeast b = true ↔ b.score ≤ a.score :=
  decide_eq_true_iff

theorem Item.atLeast_trans (a b c : Item) (hab : a.atLeast b = true) (hbc : b.atLeast c = true) :
    a.atLeast c = true := by
  simp only [atLeast_eq_true] at hab hbc ⊢
  exact Score.le_trans hbc hab

theorem Item.atLeast_total (a b : Item) : (a.atLeast b || b.atLeast a) = true := by
  simpa using Score.le_total b.score a.score

theorem descending_iff_atLeast {items : List Item} :
    Descending items ↔ items.Pairwise fun a b => a.atLeast b = true := by
  simp only [Descending, Item.atLeast_eq_true]

/-- Sorting puts the best items first. -/
theorem isBestFirst_bestFirst (items : List Item) : IsBestFirst items (bestFirst items) where
  descending :=
    descending_iff_atLeast.2 (List.pairwise_mergeSort Item.atLeast_trans Item.atLeast_total items)
  stable score := by
    -- The items of one score descend, so the sort keeps them as a sublist; counting does the rest.
    have hclass : Descending (items.filter (·.score = score)) := by
      refine List.pairwise_of_forall_mem_list fun a ha b hb => ?_
      simp only [List.mem_filter, decide_eq_true_eq] at ha hb
      rw [ha.2, hb.2]
      exact Score.le_refl _
    have hsublist : (items.filter (·.score = score)).Sublist
        ((bestFirst items).filter (·.score = score)) := by
      have hkept := (List.sublist_mergeSort Item.atLeast_trans Item.atLeast_total
        (descending_iff_atLeast.1 hclass) List.filter_sublist).filter (·.score = score)
      simp only [List.filter_filter, Bool.and_self] at hkept
      exact hkept
    have hperm : ((bestFirst items).filter (·.score = score)).Perm
        (items.filter (·.score = score)) :=
      (List.mergeSort_perm items _).filter _
    exact (hsublist.eq_of_length hperm.length_eq.symm).symm

theorem bestFirst_perm (items : List Item) : (bestFirst items).Perm items :=
  (isBestFirst_bestFirst items).perm

theorem length_bestFirst (items : List Item) : (bestFirst items).length = items.length :=
  (bestFirst_perm items).length_eq

/-- Items that descend are left as they are. -/
theorem bestFirst_of_descending {items : List Item} (hdescending : Descending items) :
    bestFirst items = items :=
  (isBestFirst_bestFirst items).unique ⟨hdescending, fun _ => rfl⟩

/-! ## Merging -/

/-- The items of two lists in one; of equally good ones those of the first list come first. -/
def mergeItems (left right : List Item) : List Item :=
  left.merge right Item.atLeast

@[simp]
theorem mergeItems_nil (right : List Item) : mergeItems [] right = right :=
  List.nil_merge right

@[simp]
theorem mergeItems_nil_right (left : List Item) : mergeItems left [] = left :=
  List.merge_right left

theorem mergeItems_cons_cons (a b : Item) (left right : List Item) :
    mergeItems (a :: left) (b :: right) =
      if b.score ≤ a.score then a :: mergeItems left (b :: right)
      else b :: mergeItems (a :: left) right := by
  simp only [mergeItems, List.cons_merge_cons, Item.atLeast_eq_true]

/-- The front of a merge is made of the fronts of both lists. -/
theorem take_mergeItems_take {n m p : Nat} (hleft : n ≤ m) (hright : n ≤ p)
    (left right : List Item) :
    (mergeItems (left.take m) (right.take p)).take n = (mergeItems left right).take n := by
  induction left generalizing n m p right with
  | nil => simp [List.take_take, Nat.min_eq_left hright]
  | cons a left ihleft =>
    induction right generalizing n m p with
    | nil => simp [List.take_take, Nat.min_eq_left hleft]
    | cons b right ihright =>
      cases n with
      | zero => simp
      | succ n =>
        obtain ⟨m, rfl⟩ := Nat.exists_eq_add_of_le' (Nat.le_trans (Nat.le_add_left 1 n) hleft)
        obtain ⟨p, rfl⟩ := Nat.exists_eq_add_of_le' (Nat.le_trans (Nat.le_add_left 1 n) hright)
        have hm : n ≤ m := Nat.le_of_succ_le_succ hleft
        have hp : n ≤ p := Nat.le_of_succ_le_succ hright
        simp only [List.take_succ_cons, mergeItems_cons_cons]
        split
        · have hrest := ihleft hm (Nat.le_succ_of_le hp) (b :: right)
          simpa using hrest
        · have hrest := ihright (Nat.le_succ_of_le hm) hp
          simpa using hrest

/-- Each score keeps its items in order, those of the first list before those of the second. -/
theorem filter_mergeItems {left right : List Item} (hleft : Descending left) (score : Score) :
    (mergeItems left right).filter (·.score = score) =
      left.filter (·.score = score) ++ right.filter (·.score = score) := by
  induction left generalizing right with
  | nil => simp
  | cons a left ihleft =>
    induction right with
    | nil => simp
    | cons b right ihright =>
      rw [mergeItems_cons_cons]
      split
      · rw [List.filter_cons, ihleft hleft.of_cons, List.filter_cons (x := a)]
        split <;> simp
      · next hbetter =>
        rw [List.filter_cons, ihright]
        by_cases hscore : b.score = score
        · -- All items of the first list are worse than `b`, so none of them has its score.
          have hnone : (a :: left).filter (·.score = score) = [] := by
            refine List.filter_eq_nil_iff.2 fun item hitem => ?_
            have hle := IsBestFirst.head_le_of_mem hleft hitem
            simp only [decide_eq_true_eq]
            rintro rfl
            exact hbetter (hscore ▸ hle)
          simp [hnone, hscore]
        · simp [List.filter_cons, hscore]

theorem descending_mergeItems {left right : List Item} (hleft : Descending left)
    (hright : Descending right) : Descending (mergeItems left right) := by
  rw [descending_iff_atLeast] at hleft hright ⊢
  exact List.pairwise_merge Item.atLeast_trans Item.atLeast_total left right hleft hright

/-- Sorting a list is sorting its parts and merging them. -/
theorem bestFirst_append (left right : List Item) :
    bestFirst (left ++ right) = mergeItems (bestFirst left) (bestFirst right) := by
  have hleft := isBestFirst_bestFirst left
  have hright := isBestFirst_bestFirst right
  refine (isBestFirst_bestFirst _).unique
    ⟨descending_mergeItems hleft.descending hright.descending, fun score => ?_⟩
  rw [filter_mergeItems hleft.descending, hleft.stable, hright.stable, List.filter_append]

/-- The best `n` of several descending lists are among the first `n` of each. -/
theorem take_bestFirst_flatten {lists : List (List Item)} (n : Nat)
    (hlists : ∀ items ∈ lists, Descending items) :
    (bestFirst (lists.map (List.take n)).flatten).take n = (bestFirst lists.flatten).take n := by
  induction lists with
  | nil => rfl
  | cons items lists ih =>
    have hitems : Descending items := hlists items List.mem_cons_self
    have hrest := ih fun other hother => hlists other (List.mem_cons_of_mem _ hother)
    have hfront : Descending (items.take n) := hitems.sublist (List.take_sublist n items)
    calc
      (bestFirst ((items :: lists).map (List.take n)).flatten).take n =
          (mergeItems (items.take n) (bestFirst (lists.map (List.take n)).flatten)).take n := by
        rw [List.map_cons, List.flatten_cons, bestFirst_append, bestFirst_of_descending hfront]
      _ = (mergeItems (items.take n)
            ((bestFirst (lists.map (List.take n)).flatten).take n)).take n := by
        conv_lhs => rw [← take_mergeItems_take (le_refl n) (le_refl n)]
        rw [List.take_take, Nat.min_self]
      _ = (mergeItems (items.take n) ((bestFirst lists.flatten).take n)).take n := by
        rw [hrest]
      _ = (bestFirst (items :: lists).flatten).take n := by
        rw [take_mergeItems_take (le_refl n) (le_refl n), List.flatten_cons, bestFirst_append,
          bestFirst_of_descending hitems]

/-- A single descending list need not be sorted. -/
theorem take_flatten_of_length_le_one {lists : List (List Item)} (n : Nat)
    (hlists : ∀ items ∈ lists, Descending items) (hone : lists.length ≤ 1) :
    (lists.map (List.take n)).flatten.take n = (bestFirst lists.flatten).take n := by
  cases lists with
  | nil => rw [List.map_nil, List.flatten_nil, bestFirst_of_descending List.Pairwise.nil]
  | cons items rest =>
    obtain rfl : rest = [] := by simpa using hone
    have hitems : Descending items := hlists items List.mem_cons_self
    simp [bestFirst_of_descending hitems, List.take_take]

/-! ## Place by place -/

theorem Descending.score_le {items : List Item} (hdescending : Descending items) {j k : Nat}
    (hjk : j ≤ k) {a b : Item} (ha : items[j]? = some a) (hb : items[k]? = some b) :
    b.score ≤ a.score := by
  obtain ⟨hj, rfl⟩ := List.getElem?_eq_some_iff.1 ha
  obtain ⟨hk, rfl⟩ := List.getElem?_eq_some_iff.1 hb
  obtain rfl | hlt := Nat.eq_or_lt_of_le hjk
  · exact Score.le_refl _
  · exact List.pairwise_iff_getElem.1 hdescending j k hj hk hlt

/-- Items that are fewer, in descending order, are no better at any place. -/
theorem score_le_of_subperm {fewer items : List Item} (hfewer : Descending fewer)
    (hitems : Descending items) (hsubperm : fewer.Subperm items) {k : Nat} {a : Item}
    (ha : fewer[k]? = some a) : ∃ b, items[k]? = some b ∧ a.score ≤ b.score := by
  have hscores : (fewer.map Item.score).Sublist (items.map Item.score) := by
    have hantisymm : Std.Antisymm fun s t : Score => t ≤ s :=
      ⟨fun _ _ hts hst => Score.le_antisymm hst hts⟩
    have hordered {l : List Item} (hl : Descending l) :
        (l.map Item.score).Pairwise fun s t => t ≤ s :=
      List.pairwise_map.2 hl
    obtain ⟨kept, hperm, hsublist⟩ := hsubperm
    exact List.sublist_of_subperm_of_pairwise
      ⟨kept.map Item.score, hperm.map Item.score, hsublist.map Item.score⟩
      (hordered hfewer) (hordered hitems)
  -- The score at a place of the one list is found at a place of the other that is not before it.
  obtain ⟨place, hplace⟩ := List.sublist_iff_exists_orderEmbedding_getElem?_eq.1 hscores
  have hlater : k ≤ place k := place.strictMono.le_apply
  have hfound := hplace k
  rw [List.getElem?_map, ha, List.getElem?_map] at hfound
  obtain ⟨b, hb, hscore⟩ := Option.map_eq_some_iff.1 hfound.symm
  have hk : k < items.length :=
    Nat.lt_of_le_of_lt hlater (List.getElem?_eq_some_iff.1 hb).1
  refine ⟨items[k], List.getElem?_eq_getElem hk, ?_⟩
  rw [← hscore]
  exact hitems.score_le hlater (List.getElem?_eq_getElem hk) hb

/-! ## The result of a call -/

/-- The result is made of the items of the batches. -/
theorem merge_subperm (passages batchSize topN : Nat) (items : List Item) :
    (merge passages batchSize topN items).Subperm items := by
  rw [merge]
  split
  · exact (List.take_sublist topN _).subperm.trans (bestFirst_perm items).subperm
  · exact (List.take_sublist topN items).subperm

theorem length_merge (passages batchSize topN : Nat) (items : List Item) :
    (merge passages batchSize topN items).length = min topN items.length := by
  rw [merge, List.length_take]
  split
  · rw [length_bestFirst]
  · rfl

end Rerank
