import FeedSieve.Json.Value

/-! The compact written form of a document: no blanks between its parts, members in their order, and
in strings only quotes, backslashes and controls escaped. -/

namespace FeedSieve.Json

/-- How a character is written inside a string. -/
def escapeChar (c : Char) : List Char :=
  if c = '"' then ['\\', '"']
  else if c = '\\' then ['\\', '\\']
  else if c = '\x08' then ['\\', 'b']
  else if c = '\x0c' then ['\\', 'f']
  else if c = '\n' then ['\\', 'n']
  else if c = '\r' then ['\\', 'r']
  else if c = '\t' then ['\\', 't']
  else if c.toNat < 0x20 then
    ['\\', 'u', '0', '0', Nat.digitChar (c.toNat / 16), Nat.digitChar (c.toNat % 16)]
  else [c]

def renderString (s : String) : List Char := '"' :: s.toList.flatMap escapeChar ++ ['"']

mutual

/-- The compact written form of a document. -/
def render : Json → List Char
  | .null => ['n', 'u', 'l', 'l']
  | .bool true => ['t', 'r', 'u', 'e']
  | .bool false => ['f', 'a', 'l', 's', 'e']
  | .number n => n.render
  | .string s => renderString s
  | .array [] => ['[', ']']
  | .array (j :: js) => '[' :: render j ++ renderItems js
  | .object [] => ['{', '}']
  | .object ((n, v) :: ms) => '{' :: renderString n ++ ':' :: render v ++ renderMembers ms

/-- The items after the first one, and the end of their list. -/
def renderItems : List Json → List Char
  | [] => [']']
  | j :: js => ',' :: render j ++ renderItems js

/-- The members after the first one, and the end of their object. -/
def renderMembers : List (String × Json) → List Char
  | [] => ['}']
  | (n, v) :: ms => ',' :: renderString n ++ ':' :: render v ++ renderMembers ms

end

/-- The compact written form of a document as a string. -/
def text (j : Json) : String := String.ofList j.render

end FeedSieve.Json
