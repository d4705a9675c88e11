import FeedSieve.Rule.Catalogue

/-! Declarations as data: the name of a rule and an argument, and their written forms. Inline, a
declaration is a name, an equals sign and keywords between commas. -/

namespace FeedSieve

structure Declaration where
  name : String
  argument : Json := .null

namespace Declaration

def rule (d : Declaration) : Except RuleError Rule :=
  match Form.ofName? d.name with
  | some form => form.rule d.argument
  | none => .error (.unknownDeclaration d.name)

/-- The declaration as a document; no argument is written for null. -/
def toJson (d : Declaration) : Json :=
  .object <| ("name", .string d.name) ::
    match d.argument with
    | .null => []
    | j => [("args", j)]

/-! ### Inline declarations -/

/-- The pieces of a text between the given character, which are one more than there are of it. -/
def splitAt (sep : Char) : List Char → List (List Char)
  | [] => [[]]
  | c :: cs =>
    if c = sep then [] :: splitAt sep cs
    else match splitAt sep cs with
      | [] => [[c]]
      | piece :: pieces => (c :: piece) :: pieces

/-- The pieces of an inline argument: what stands between its commas, trimmed, if it is not blank. -/
def pieces (cs : List Char) : List (List Char) :=
  ((splitAt ',' cs).map Text.trim).filter (· ≠ [])

/-- The word that a piece writes: digits, after a plus perhaps, of a value within 64 bits. -/
def wordOf? (cs : List Char) : Option UInt64 := Decimal.wordOfDigits? (HashtagCount.dropPlus cs)

def pieceArgument (cs : List Char) : Json :=
  match wordOf? cs with
  | some n => .number (.ofWord n)
  | none => .string (String.ofList cs)

def inlineArgument (cs : List Char) : Json :=
  match pieces cs with
  | [] => .null
  | [piece] => pieceArgument piece
  | ps => .array (ps.map fun p => .string (String.ofList p))

/-- Reads an inline declaration. Everything after the first equals sign is its argument. -/
def ofInline (s : String) : Except RuleError Declaration :=
  let name := Text.trim (s.toList.takeWhile (· ≠ '='))
  if name = [] then .error (.invalidArgument s .noName)
  else .ok ⟨String.ofList name, inlineArgument ((s.toList.dropWhile (· ≠ '=')).drop 1)⟩

end Declaration

end FeedSieve
