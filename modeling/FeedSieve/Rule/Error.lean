import FeedSieve.Json.ReadError

/-! Why rules could not be declared or loaded. Judging a record never fails. -/

namespace FeedSieve

inductive ArgumentFault where
  /-- A declaration without a name. -/
  | noName
  /-- An item of a list of keywords that is no string. -/
  | notKeyword (found : Json)
  /-- Neither a keyword nor a list of keywords. -/
  | notKeywords (found : Json)
  | unknownPath (text : String)

def ArgumentFault.message : ArgumentFault → String
  | .noName => "missing declaration name"
  | .notKeyword j => "expected a string keyword, found " ++ j.text
  | .notKeywords j => "expected a keyword or a list of keywords, found " ++ j.text
  | .unknownPath s => "unknown field path '" ++ s ++ "'"

/-- Why the text of a file or a line could not be had. -/
inductive Unreadable where
  | missing
  | notText
deriving DecidableEq

def Unreadable.message : Unreadable → String
  | .missing => "No such file or directory (os error 2)"
  | .notText => "stream did not contain valid UTF-8"

inductive RuleError where
  /-- Something was to be added under this name to a sieve that is sealed. -/
  | alreadySealed (name : String)
  /-- No declaration is published under this name. -/
  | unknownDeclaration (name : String)
  | invalidArgument (declaration : String) (fault : ArgumentFault)
  | unreadable (cause : Unreadable)
  /-- A text is not a config. -/
  | notConfig (cause : Json.ReadError)

/-- The text of an error, with the given words for a text that could not be read. -/
def RuleError.message (words : Json.ReadError → String) : RuleError → String
  | .alreadySealed n => "Cannot register '" ++ n ++ "': the predicate registry is sealed"
  | .unknownDeclaration n => "Unknown filter declaration: " ++ n
  | .invalidArgument d f => "Invalid argument for " ++ d ++ ": " ++ f.message
  | .unreadable c => "I/O error: " ++ c.message
  | .notConfig e => "Failed to parse filter config: " ++ words e

end FeedSieve
