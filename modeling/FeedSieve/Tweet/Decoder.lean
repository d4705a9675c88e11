import FeedSieve.Wire.Decoder

/-! The record that a text holds. -/

namespace FeedSieve.Tweet

open Json

/-- Decodes a text that holds one record and nothing else. -/
def decode (text : String) : Except ReadError Tweet := do
  let (t, rest) ← Wire.read depthLimit (.record .tweet) text.toList
  expectEnd rest
  return t

end FeedSieve.Tweet
