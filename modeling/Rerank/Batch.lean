import Rerank.Observation
import Rerank.Reply.Rankings

/-!
# Batches

Passages are scored in batches of limited size.  The rankings of a batch refer to its passages by
their position in it; they are shifted to positions among all passages, and the rankings of several
batches are merged by score.
-/

namespace Rerank

/-- Consecutive passages that are scored together. -/
structure Batch where
  number : Nat
  /-- How many passages come before the batch. -/
  offset : Nat
  texts : List String
deriving DecidableEq, Repr

namespace Batch

/-- The list cut into pieces of `size` elements, the last of which may be shorter. -/
def pieces {α : Type} (size : Nat) : List α → List (List α)
  | [] => []
  | a :: rest => (a :: rest.take (size - 1)) :: pieces size (rest.drop (size - 1))
termination_by l => l.length
decreasing_by
  simp only [List.length_cons, List.length_drop]
  omega

@[simp]
theorem pieces_nil {α : Type} (size : Nat) : pieces size ([] : List α) = [] := by
  rw [pieces]

theorem pieces_cons {α : Type} (size : Nat) (a : α) (rest : List α) :
    pieces size (a :: rest) =
      (a :: rest.take (size - 1)) :: pieces size (rest.drop (size - 1)) := by
  rw [pieces]

/-- Cutting loses nothing and keeps the order. -/
theorem flatten_pieces {α : Type} (size : Nat) (l : List α) : (pieces size l).flatten = l := by
  induction hlength : l.length using Nat.strongRecOn generalizing l with
  | _ n ih =>
    cases l with
    | nil => rw [pieces_nil, List.flatten_nil]
    | cons a rest =>
      have hshorter : (rest.drop (size - 1)).length < n := by
        rw [← hlength, List.length_cons, List.length_drop]
        omega
      rw [pieces_cons, List.flatten_cons, ih _ hshorter _ rfl, List.cons_append,
        List.take_append_drop]

/-- The batches that passages are scored in. -/
def split (size : Nat) (texts : List String) : List Batch :=
  (pieces size texts).zipIdx.map fun (texts, number) => { number, offset := number * size, texts }

/-- What is wrong with the indices of rankings for a batch of `size` passages: the first index that
no passage has or that an earlier ranking had. -/
def indexFault? (size : Nat) (seen : List Nat) : List Ranking → Option ReplyFault
  | [] => none
  | ranking :: rest =>
    if size ≤ ranking.index then some (.indexOutOfBatch ranking.index size)
    else if ranking.index ∈ seen then some (.repeatedIndex ranking.index)
    else indexFault? size (ranking.index :: seen) rest

/-- The rankings, if there is nothing wrong with their indices. -/
def checked (batch : Batch) (rankings : List Ranking) : Except Failure (List Ranking) :=
  match indexFault? batch.texts.length [] rankings with
  | some fault => .error (.reply fault)
  | none => .ok rankings

def item (batch : Batch) (ranking : Ranking) : Item where
  index := batch.offset + ranking.index
  score := ranking.score

end Batch

/-- The items with the best ones first; of equal ones the earlier one comes first. -/
def bestFirst (items : List Item) : List Item :=
  items.mergeSort fun a b => decide (b.score ≤ a.score)

/-- The result of a call from the items of its batches.  The items of a single batch are left in
the order in which the service gave them. -/
def merge (passages batchSize topN : Nat) (items : List Item) : List Item :=
  (if batchSize < passages then bestFirst items else items).take topN

end Rerank
