import FeedSieve.Json.Token

/-! Reading a whole document as a tree. Lists and objects may lie one inside another up to a given
depth. -/

namespace FeedSieve.Json

def depthLimit : Nat := 127

/-- Reads the items of a list, at most the given number of them, and its end. -/
def readItemsWithin {α : Type} (read : Reader α) : Nat → Bool → Reader (List α)
  | 0, _, _ => .error .truncated
  | n + 1, first, cs => do
    match ← nextItem first cs with
    | .close cs => return ([], cs)
    | .item cs =>
      let (a, cs) ← read cs
      let (as, cs) ← readItemsWithin read n false cs
      return (a :: as, cs)

def readItems {α : Type} (read : Reader α) (cs : List Char) : Except ReadError (List α × List Char) :=
  readItemsWithin read (cs.length + 1) true cs

/-- Reads the members of an object, at most the given number of them, and its end. -/
def readMembersWithin {α : Type} (read : Reader α) : Nat → Bool → Reader (List (String × α))
  | 0, _, _ => .error .truncated
  | n + 1, first, cs => do
    match ← nextMember first cs with
    | .close cs => return ([], cs)
    | .item cs =>
      let (name, cs) ← readString cs
      let cs ← skipColon cs
      let (a, cs) ← read cs
      let (ms, cs) ← readMembersWithin read n false cs
      return ((name, a) :: ms, cs)

def readMembers {α : Type} (read : Reader α) (cs : List Char) :
    Except ReadError (List (String × α) × List Char) :=
  readMembersWithin read (cs.length + 1) true cs

/-- Reads a document whose parts are read as given; without a reader for them it may have none. -/
def readNode (inner : Option (Reader Json)) (cs : List Char) : Except ReadError (Json × List Char) := do
  match ← readFound cs, inner with
  | (.null, cs), _ => return (.null, cs)
  | (.bool b, cs), _ => return (.bool b, cs)
  | (.number n, cs), _ => return (.number n, cs)
  | (.string s, cs), _ => return (.string s, cs)
  | (.array, _), none | (.object, _), none => throw (.malformed .tooDeep)
  | (.array, cs), some read => (readItems read cs).map fun (items, cs) => (.array items, cs)
  | (.object, cs), some read => (readMembers read cs).map fun (ms, cs) => (.object ms, cs)

/-- Reads a document nested to at most the given depth. -/
def readTree : Nat → Reader Json
  | 0 => readNode none
  | n + 1 => readNode (some (readTree n))

/-- The document that a text holds and nothing else. -/
def parse (text : String) : Except ReadError Json := do
  let (j, rest) ← readTree depthLimit text.toList
  expectEnd rest
  return j

end FeedSieve.Json
