import Rerank.Text.GraphemeExtend
import Rerank.Text.Unprintable

/-!
# Quoted text

A text between quotation marks on one line, with every character that would not show as itself
written as an escape.
-/

namespace Rerank.Text

/-- The number in lower-case hexadecimal digits, without leading zeros. -/
def hexDigits (n : Nat) : List Char :=
  Nat.toDigits 16 n

/-- How one character stands between quotation marks: quotation marks, backslashes and the common
control characters have short escapes, and what extends a preceding character or has no
visible form is given by its code point. -/
def quoteChar (c : Char) : List Char :=
  match c with
  | '\x00' => ['\\', '0']
  | '\t' => ['\\', 't']
  | '\r' => ['\\', 'r']
  | '\n' => ['\\', 'n']
  | '"' => ['\\', '"']
  | '\\' => ['\\', '\\']
  | _ =>
    if extendsGrapheme c || isUnprintable c then
      ['\\', 'u', '\x7b'] ++ hexDigits c.toNat ++ ['\x7d']
    else [c]

def quote (s : String) : String :=
  String.ofList ('"' :: s.toList.flatMap quoteChar ++ ['"'])

end Rerank.Text
