import FeedSieve.Json.Tree
import FeedSieve.Rule.Declaration

/-! Configs: lists of declarations as documents. A config is an object with a member `filters` that
holds the list, or the bare list. As every record, an object may be given as the list of its fields
in their order, so a list with one item that is a list is a config too. -/

namespace FeedSieve

structure Config where
  declarations : List Declaration := []

namespace Config

def valuesOf (name : String) (members : List (String × Json)) : List Json :=
  (members.filter (·.1 == name)).map (·.2)

/-- The declaration that a document holds. A name is given once, an argument at most once. -/
def declaration? : Json → Option Declaration
  | .object members =>
    match valuesOf "name" members, valuesOf "args" members with
    | [.string name], [] => some ⟨name, .null⟩
    | [.string name], [argument] => some ⟨name, argument.normal⟩
    | _, _ => none
  | .array [.string name] => some ⟨name, .null⟩
  | .array [.string name, argument] => some ⟨name, argument.normal⟩
  | _ => none

def bare? : Json → Option Config
  | .array items => (items.mapM declaration?).map fun ds => ⟨ds⟩
  | _ => none

/-- The declarations that a document holds under the name `filters`. -/
def wrapped? : Json → Option Config
  | .object members =>
    match valuesOf "filters" members with
    | [list] => bare? list
    | _ => none
  | .array [list] => bare? list
  | _ => none

def ofJson? (j : Json) : Option Config := (wrapped? j).orElse fun _ => bare? j

def mismatch : Json.ReadError := .mismatch (.noVariant "ConfigShape")

/-- Reads a config. What follows the document is looked at only if the document is a config. -/
def parse (text : String) : Except RuleError Config := do
  let read : Except Json.ReadError Config := do
    let (j, rest) ← Json.readTree Json.depthLimit text.toList
    match ofJson? j with
    | none => throw mismatch
    | some c => do
      Json.expectEnd rest
      return c
  read.mapError .notConfig

def textOf (bytes : Option ByteArray) : Except RuleError String :=
  match bytes with
  | none => .error (.unreadable .missing)
  | some bytes =>
    match String.fromUTF8? bytes with
    | some text => .ok text
    | none => .error (.unreadable .notText)

def ofFile (bytes : Option ByteArray) : Except RuleError Config := textOf bytes >>= parse

def toJson (c : Config) : Json := .object [("filters", .array (c.declarations.map Declaration.toJson))]

end Config

end FeedSieve
