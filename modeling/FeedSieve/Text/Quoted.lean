import FeedSieve.Unicode.Extending
import FeedSieve.Unicode.Unprintable

/-! Texts quoted for a reader: between double quotes, with short escapes for the usual controls, and
the code point of every character that could not be seen or would cling to its neighbour. -/

namespace FeedSieve.Text

open Unicode

/-- The code point of a character in lower-case hexadecimal digits between braces. -/
def codePointEscape (c : Char) : List Char := ['\\', 'u', '{'] ++ Nat.toDigits 16 c.toNat ++ ['}']

/-- How a character is written inside a quoted text. -/
def quotedChar (c : Char) : List Char :=
  match c with
  | '\x00' => ['\\', '0']
  | '\t' => ['\\', 't']
  | '\r' => ['\\', 'r']
  | '\n' => ['\\', 'n']
  | '"' => ['\\', '"']
  | '\\' => ['\\', '\\']
  | c => if isExtending c || isUnprintable c then codePointEscape c else [c]

/-- A text quoted for a reader. -/
def quoted (s : String) : String := String.ofList ('"' :: s.toList.flatMap quotedChar ++ ['"'])

example : quoted "a\"b\n" = "\"a\\\"b\\n\"" := by decide +kernel

end FeedSieve.Text
