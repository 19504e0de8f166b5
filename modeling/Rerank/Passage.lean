import Rerank.Keyed

/-!
# Passages

What is ranked is anything with a text: a plain text, or a chunk of a document with metadata.
-/

namespace Rerank

/-- Types whose values can be ranked by their text. -/
class Passage (α : Type) where
  /-- The text that the service reads. -/
  content : α → String

instance : Passage String where
  content text := text

/-- A retrieved part of a document. -/
structure Chunk where
  id : String
  text : String
  /-- What is known of the part, in the order of the keys. -/
  metadata : Keyed String
deriving DecidableEq, Repr

namespace Chunk

/-- A part without metadata. -/
def new (id text : String) : Chunk where
  id
  text
  metadata := []

/-- The part with a value for a key, which replaces an earlier one. -/
def withMetadata (chunk : Chunk) (key value : String) : Chunk :=
  { chunk with metadata := chunk.metadata.insert key value }

/-- The part with a value for each key of a list, given in order. -/
def withAll (chunk : Chunk) (pairs : List (String × String)) : Chunk :=
  pairs.foldl (fun chunk pair => chunk.withMetadata pair.1 pair.2) chunk

/-- The line of one key. -/
def line (pair : String × String) : String :=
  pair.1 ++ ": " ++ pair.2

/-- Whether the text of the part stands alone. -/
def isPlain (chunk : Chunk) : Bool :=
  chunk.metadata.isEmpty

/-- The text of the part, after one line for each key and an empty line if there is metadata. -/
def content (chunk : Chunk) : String :=
  if chunk.isPlain then chunk.text
  else "\n".intercalate (chunk.metadata.map line) ++ "\n\n" ++ chunk.text

instance : Passage Chunk where
  content := Chunk.content

end Chunk

end Rerank
