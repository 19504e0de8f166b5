import Rerank.Url.Basic

/-!
# Reading the path of a url

The text of a path is cut at its slashes.  A segment `.` is left out, and a segment `..` takes the
one before it away; either of them at the end leaves an empty segment.  A drive letter is never
taken away, and at the front of the path of a file it is written with a colon.

Tabs and line breaks are left out of a url.  In the path of a file they are seen once more before:
there they end a drive letter.
-/

namespace Rerank.Url.Path

/-- Whether a segment, percent-encoded dots included, is a single dot. -/
def isSingleDot (segment : List Char) : Bool :=
  ["." , "%2e"].any fun dot => segment.map Char.toLower == dot.toList

/-- Whether a segment, percent-encoded dots included, is a pair of dots. -/
def isDoubleDot (segment : List Char) : Bool :=
  ["..", ".%2e", "%2e.", "%2e%2e"].any fun dots => segment.map Char.toLower == dots.toList

/-- Whether a text is a letter with a colon or a bar. -/
def isDriveLetter (segment : List Char) : Bool :=
  match segment with
  | [letter, mark] => letter.isAlpha && (mark == ':' || mark == '|')
  | _ => false

/-- Whether a segment begins like a drive, with nothing or a backslash after the letter and its
mark.  Such a segment is not taken away. -/
def isDrive (segment : List Char) : Bool :=
  isDriveLetter (segment.take 2) && (segment.drop 2).head?.all (· == '\\')

/-- Whether the character is left out of urls. -/
def isBreak (c : Char) : Bool :=
  c == '\t' || c == '\n' || c == '\r'

/-- The text without tabs and line breaks. -/
def withoutBreaks (cs : List Char) : List Char :=
  cs.filter (!isBreak ·)

/-- Splits a segment into a drive letter with its colon and a rest, if a tab or line break stands
between them. -/
def splitDrive? (segment : List Char) : Option (List Char × List Char) :=
  match withoutBreaks (segment.takeWhile (· != ':')), segment.dropWhile (· != ':') with
  | [letter], ':' :: c :: rest =>
    let rest := withoutBreaks rest
    if letter.isAlpha && isBreak c && !rest.isEmpty then some ([letter, ':'], rest) else none
  | _, _ => none

/-- What has been read of a path. -/
structure Walk where
  /-- The segments, the last one first. -/
  segments : List (List Char)
  /-- Whether the path of a file begins with a drive letter. -/
  drive : Bool

/-- One segment further. -/
def Walk.step (file : Bool) (walk : Walk) (segment : List Char) : Walk :=
  if isDoubleDot segment then
    match walk.segments with
    | last :: rest => if isDrive last then walk else { walk with segments := rest }
    | [] => walk
  else if isSingleDot segment then walk
  else
    match file && walk.segments.isEmpty && isDriveLetter segment, segment with
    | true, letter :: _ => { segments := [[letter, ':']], drive := true }
    | _, _ => { walk with segments := percentEncode inPathSet segment :: walk.segments }

/-- One segment of the path of a file further, with its tabs and line breaks.  What they separate
from a drive letter at the front is taken as it is, even if it is a pair of dots. -/
def Walk.stepFile (walk : Walk) (segment : List Char) : Walk :=
  match walk.segments, splitDrive? segment with
  | [], some (letter, rest) => { walk with segments := [percentEncode inPathSet rest, letter] }
  | _, _ => walk.step true (withoutBreaks segment)

/-- The end of the path after its last segment: dots there leave an empty segment. -/
def Walk.finish (walk : Walk) (last : List Char) : Walk :=
  if isDoubleDot last || isSingleDot last then { walk with segments := [] :: walk.segments }
  else walk

/-- The segments in their order, as texts. -/
def Walk.toList (walk : Walk) : List String :=
  walk.segments.reverse.map String.ofList

/-- The segments of a path from the texts between its slashes. -/
def resolve (pieces : List (List Char)) : List String :=
  ((pieces.foldl (Walk.step false) ⟨[], false⟩).finish (pieces.getLastD [])).toList

/-- The segments of the path of a file from the texts between its slashes, without empty ones at
the front, and whether the path begins with a drive letter. -/
def resolveFile (pieces : List (List Char)) : List String × Bool :=
  let walk := (pieces.foldl Walk.stepFile ⟨[], false⟩).finish (withoutBreaks (pieces.getLastD []))
  match walk.toList.dropWhile String.isEmpty with
  | [] => ([""], walk.drive)
  | segments => (segments, walk.drive)

/-- Slashes, and backslashes where the scheme is special. -/
def isSlash (special : Bool) (c : Char) : Bool :=
  c == '/' || (special && c == '\\')

/-- A text without a slash at its front. -/
def dropSlash (special : Bool) (cs : List Char) : List Char :=
  match cs with
  | c :: rest => if isSlash special c then rest else c :: rest
  | [] => []

/-- The segments of the path of a url with a special scheme, of which there is at least one. -/
def ofSpecial (cs : List Char) : List String :=
  resolve (splitOn (isSlash true) (dropSlash true cs))

/-- The segments of the path of a file after its first slash, and whether it begins with a drive
letter. -/
def ofFile (cs : List Char) : List String × Bool :=
  resolveFile (splitOn (isSlash true) cs)

/-- The segments of the path of a url with any other scheme. -/
def ofOther (cs : List Char) : List String :=
  if cs.isEmpty then []
  else resolve (splitOn (isSlash false) (dropSlash false cs))

end Rerank.Url.Path
