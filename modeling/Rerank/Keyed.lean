/-!
# Values in key order

A finite map from texts is kept as a list of pairs whose keys strictly increase.  Texts are compared
by code point, which for UTF-8 is the order of their bytes.
-/

namespace Rerank

/-- Pairs of a key and a value. -/
abbrev Keyed (α : Type) := List (String × α)

namespace Keyed

variable {α : Type}

/-- The keys strictly increase. -/
def Ordered (pairs : Keyed α) : Prop :=
  pairs.Pairwise fun left right => left.1 < right.1

/-- Gives `key` the value `value`, replacing the one it had. -/
def insert (key : String) (value : α) : Keyed α → Keyed α
  | [] => [(key, value)]
  | (other, held) :: rest =>
    if key = other then (key, value) :: rest
    else if key < other then (key, value) :: (other, held) :: rest
    else (other, held) :: insert key value rest

/-- The map in which each key has the last value that the list gives it. -/
def ofList (pairs : List (String × α)) : Keyed α :=
  pairs.foldl (fun map pair => map.insert pair.1 pair.2) []

/-- The value of a key. -/
def get? (pairs : Keyed α) (key : String) : Option α :=
  List.lookup key pairs

/-- The value of the inserted key is the new one, and the others keep theirs. -/
theorem get?_insert (key other : String) (value : α) (pairs : Keyed α) :
    (insert key value pairs).get? other = if other = key then some value else pairs.get? other := by
  have hlookup : ∀ (k : String) (v : α) (rest : Keyed α), List.lookup other ((k, v) :: rest) =
      if other = k then some v else List.lookup other rest := by
    intro k v rest
    by_cases h : other = k
    · simp [h]
    · have hne : (other == k) = false := by simpa using h
      simp [List.lookup_cons, hne, h]
  induction pairs with
  | nil => exact hlookup key value []
  | cons pair rest ih =>
    obtain ⟨first, held⟩ := pair
    simp only [insert, get?] at ih ⊢
    split
    · next hsame => simp only [hlookup, hsame]; split <;> rfl
    · next hdiff =>
      split
      · simp only [hlookup]
      · simp only [hlookup, ih]
        split
        · next h => rw [if_neg (fun hkey => hdiff (hkey.symm.trans h))]
        · rfl

/-- A value that a key has stands in the map. -/
theorem mem_of_get? {pairs : Keyed α} {key : String} {value : α}
    (hget : pairs.get? key = some value) : (key, value) ∈ pairs := by
  induction pairs with
  | nil => contradiction
  | cons pair rest ih =>
    rw [get?, List.lookup_cons] at hget
    split at hget
    · next hkey =>
      rw [eq_of_beq hkey, ← Option.some.inj hget]
      exact List.mem_cons_self
    · exact List.mem_cons_of_mem _ (ih hget)

/-- A pair of the map after an insertion is the new one or was there before. -/
theorem mem_insert {key : String} {value : α} {pairs : Keyed α} {entry : String × α}
    (hentry : entry ∈ Keyed.insert key value pairs) : entry = (key, value) ∨ entry ∈ pairs := by
  induction pairs with
  | nil => exact Or.inl (List.mem_singleton.1 hentry)
  | cons pair rest ih =>
    simp only [Keyed.insert] at hentry
    split at hentry
    · rcases List.mem_cons.1 hentry with heq | hrest
      · exact Or.inl heq
      · exact Or.inr (List.mem_cons_of_mem _ hrest)
    · split at hentry
      · exact List.mem_cons.1 hentry
      · rcases List.mem_cons.1 hentry with heq | hrest
        · exact Or.inr (List.mem_cons.2 (Or.inl heq))
        · exact (ih hrest).imp id (List.mem_cons_of_mem _)

/-- A map built from a list has only pairs of the list. -/
theorem mem_of_mem_ofList {pairs : List (String × α)} {entry : String × α}
    (hentry : entry ∈ ofList pairs) : entry ∈ pairs := by
  have hfold (rest : List (String × α)) (map : Keyed α)
      (hmem : entry ∈ rest.foldl (fun map pair => map.insert pair.1 pair.2) map) :
      entry ∈ map ∨ entry ∈ rest := by
    induction rest generalizing map with
    | nil => exact .inl hmem
    | cons pair rest ih =>
      obtain hinserted | hrest := ih _ hmem
      · obtain rfl | hmap := mem_insert hinserted
        · exact .inr List.mem_cons_self
        · exact .inl hmap
      · exact .inr (List.mem_cons_of_mem _ hrest)
  simpa using hfold pairs [] hentry

/-- Inserting keeps the keys in order. -/
theorem Ordered.insert {pairs : Keyed α} (hordered : Ordered pairs) (key : String) (value : α) :
    Ordered (Keyed.insert key value pairs) := by
  induction pairs with
  | nil => exact List.pairwise_singleton _ _
  | cons pair rest ih =>
    obtain ⟨hfirst, hrest⟩ := List.pairwise_cons.1 hordered
    simp only [Keyed.insert]
    split
    · next hsame => exact List.pairwise_cons.2 ⟨by simpa [hsame] using hfirst, hrest⟩
    · next hne =>
      split
      · next hbefore =>
        refine List.pairwise_cons.2 ⟨?_, hordered⟩
        intro entry hentry
        rcases List.mem_cons.1 hentry with rfl | hlater
        · exact hbefore
        · exact String.lt_trans hbefore (hfirst entry hlater)
      · next hnot =>
        refine List.pairwise_cons.2 ⟨?_, ih hrest⟩
        have hafter : pair.1 < key :=
          Decidable.byContradiction fun hle =>
            hne (String.le_antisymm (String.not_lt.1 hle) (String.not_lt.1 hnot))
        intro entry hentry
        rcases mem_insert hentry with heq | hlater
        · rw [heq]
          exact hafter
        · exact hfirst entry hlater

/-- The keys of a map built from a list are in order. -/
theorem ordered_ofList (pairs : List (String × α)) : Ordered (ofList pairs) := by
  have hfold : ∀ (l : List (String × α)) (map : Keyed α), Ordered map →
      Ordered (l.foldl (fun map pair => map.insert pair.1 pair.2) map) := by
    intro l
    induction l with
    | nil => exact fun _ hmap => hmap
    | cons pair rest ih => exact fun map hmap => ih _ (hmap.insert pair.1 pair.2)
  exact hfold pairs [] List.Pairwise.nil

end Keyed

end Rerank
