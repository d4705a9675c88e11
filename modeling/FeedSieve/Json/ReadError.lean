import FeedSieve.Json.Printer
import FeedSieve.Text.Quoted

/-! Why a text could not be read. A text is malformed if it is no document, or one that is nested too deep
or holds too large a number, and truncated where it ends too early; a document can still mismatch what is
expected of it. -/

namespace FeedSieve.Json

def Found.describe : Found → String
  | .null => "null"
  | .bool b => "boolean `" ++ (if b then "true" else "false") ++ "`"
  | .number (.integer n _) => "integer `" ++ String.ofList (Number.renderInt n) ++ "`"
  | .number (.real x) => "floating point `" ++ String.ofList (Number.real x).render ++ "`"
  | .string s => "string " ++ Text.quoted s
  | .array => "sequence"
  | .object => "map"

inductive Expectation where
  /-- An unsigned integer of the given number of bits. -/
  | word (bits : Nat)
  | real
  | text
  | flag
  | list
  | record (name : String)
deriving DecidableEq

def Expectation.describe : Expectation → String
  | .word bits => "u" ++ bits.repr
  | .real => "f64"
  | .text => "a string"
  | .flag => "a boolean"
  | .list => "a sequence"
  | .record name => "struct " ++ name

inductive Mismatch where
  | invalidType (found : Found) (expected : Expectation)
  | invalidValue (found : Found) (expected : Expectation)
  | duplicateField (name : String)
  | noVariant (choice : String)
deriving DecidableEq

def Mismatch.message : Mismatch → String
  | .invalidType f e => "invalid type: " ++ f.describe ++ ", expected " ++ e.describe
  | .invalidValue f e => "invalid value: " ++ f.describe ++ ", expected " ++ e.describe
  | .duplicateField n => "duplicate field `" ++ n ++ "`"
  | .noVariant c => "data did not match any variant of untagged enum " ++ c

inductive Fault where
  /-- A token is written wrongly or stands in a wrong place. -/
  | token
  /-- Lists and objects lie too deep one inside another. -/
  | tooDeep
  /-- Something stands where a list, or the whole text, should have ended. -/
  | surplus
  /-- A number is too large for a double. -/
  | tooLarge
deriving DecidableEq

def Fault.message : Fault → String
  | .token => "malformed document"
  | .tooDeep => "recursion limit exceeded"
  | .surplus => "trailing characters"
  | .tooLarge => "number out of range"

/-- Why a text could not be read. -/
inductive ReadError where
  | malformed (fault : Fault)
  | truncated
  | mismatch (m : Mismatch)
deriving DecidableEq

def ReadError.message : ReadError → String
  | .malformed fault => fault.message
  | .truncated => "truncated document"
  | .mismatch m => m.message

/-- A reader of values at the beginning of a text; it gives the rest of the text too. -/
abbrev Reader (α : Type) := List Char → Except ReadError (α × List Char)

end FeedSieve.Json
