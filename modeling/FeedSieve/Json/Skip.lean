import FeedSieve.Json.Token

/-! Skipping a document. Only the grammar counts: numbers may be as large and brackets as deep as
they like, and escaped surrogates need no partners. A number that the end of the text cuts off is
malformed here. -/

namespace FeedSieve.Json

mutual

/-- Skips a document in at most the given number of steps: into a bracket, into an item, or along to
the next item. -/
def skipWithin : Nat → List Char → Except ReadError (List Char)
  | 0, _ => .error .truncated
  | n + 1, cs =>
    match skipSpace cs with
    | [] => .error .truncated
    | 'n' :: cs => skipWord ['u', 'l', 'l'] cs
    | 't' :: cs => skipWord ['r', 'u', 'e'] cs
    | 'f' :: cs => skipWord ['a', 'l', 's', 'e'] cs
    | '"' :: cs => skipString cs
    | '[' :: cs => skipItemsWithin n true cs
    | '{' :: cs => skipMembersWithin n true cs
    | c :: cs =>
      if startsNumber c then (readLiteral (.malformed .token) (c :: cs)).map (·.2) else .error (.malformed .token)

def skipItemsWithin : Nat → Bool → List Char → Except ReadError (List Char)
  | 0, _, _ => .error .truncated
  | n + 1, first, cs => do
    match ← nextItem first cs with
    | .close cs => return cs
    | .item cs =>
      let cs ← skipWithin n cs
      skipItemsWithin n false cs

def skipMembersWithin : Nat → Bool → List Char → Except ReadError (List Char)
  | 0, _, _ => .error .truncated
  | n + 1, first, cs => do
    match ← nextMember first cs with
    | .close cs => return cs
    | .item cs =>
      let cs ← skipString cs
      let cs ← skipColon cs
      let cs ← skipWithin n cs
      skipMembersWithin n false cs

end

/-- Skips a document; no character costs more than two steps. -/
def skipDocument (cs : List Char) : Except ReadError (List Char) := skipWithin (2 * cs.length + 1) cs

end FeedSieve.Json
