import FeedSieve.Json.Number

/-! Documents as trees. An object is the list of its members as they stand in the text, repeated
names included; `Json.normal` is the reading in which an object is a map. -/

namespace FeedSieve

inductive Json where
  | null
  | bool (b : Bool)
  | number (n : Json.Number)
  | string (s : String)
  | array (items : List Json)
  | object (members : List (String × Json))

namespace Json

/-- Puts a member into a list that is sorted by name; a member of the same name gives way to it. -/
def putMember (name : String) (value : Json) : List (String × Json) → List (String × Json)
  | [] => [(name, value)]
  | (n, v) :: ms =>
    if name < n then (name, value) :: (n, v) :: ms
    else if name = n then (name, value) :: ms
    else (n, v) :: putMember name value ms

mutual

/-- The document with the members of every object sorted by the code points of their names, the last
of several members of one name standing for all of them. -/
def normal : Json → Json
  | .array items => .array (normalItems items)
  | .object members => .object (normalMembers [] members)
  | j => j

def normalItems : List Json → List Json
  | [] => []
  | j :: js => normal j :: normalItems js

/-- Puts the members of an object, normalized, into a sorted list. -/
def normalMembers (sorted : List (String × Json)) : List (String × Json) → List (String × Json)
  | [] => sorted
  | (n, v) :: ms => normalMembers (putMember n (normal v) sorted) ms

end

/-- The kinds of documents that a reader can tell from their beginning, with the value of those that
have no parts. -/
inductive Found where
  | null
  | bool (b : Bool)
  | number (n : Number)
  | string (s : String)
  | array
  | object
deriving DecidableEq

end Json

end FeedSieve
