import FeedSieve.Feed.Lines
import FeedSieve.Text.Trim
import FeedSieve.Tweet.Decoder

/-! The records of a stream. Each line holds one record; blank lines only keep the connection alive. A
line that cannot be decoded is reported under its number and concerns no other line. -/

namespace FeedSieve.Feed

inductive Item where
  | decoded (line : Nat) (raw : String) (t : Tweet)
  | undecodable (line : Nat) (e : Json.ReadError)
  /-- The line is no text. -/
  | notText

/-- What a text gives as the line of a number; blank lines give nothing. -/
def itemOfText? (number : Nat) (raw : String) : Option Item :=
  if Text.isBlankText raw.toList then none
  else match Tweet.decode raw with
    | .ok t => some (.decoded number raw t)
    | .error e => some (.undecodable number e)

def item? (number : Nat) (line : List UInt8) : Option Item :=
  match String.fromUTF8? ⟨(strip line).toArray⟩ with
  | some raw => itemOfText? number raw
  | none => some .notText

/-- What lines give, the first of them having the given number. -/
def itemsFrom (number : Nat) : List (List UInt8) → List Item
  | [] => []
  | line :: ls => (item? number line).toList ++ itemsFrom (number + 1) ls

/-- What the lines of a stream give; they are numbered from one. -/
def items (bytes : List UInt8) : List Item := itemsFrom 1 (lines bytes)

end FeedSieve.Feed
