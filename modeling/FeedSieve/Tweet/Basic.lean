import FeedSieve.Json.Value

/-! The records of a feed. Tweets and control messages (limit and deletion notices) arrive over one
connection, and both are a `Tweet`: which fields a record has decides what it is. For many fields it
matters that a key is there even when it holds null. -/

namespace FeedSieve

/-- A field whose key may be missing, may hold null, or may hold a value. -/
inductive Presence (α : Type) where
  | absent
  | null
  | value (a : α)
deriving DecidableEq

namespace Presence

variable {α : Type}

/-- Whether the key is there. -/
def isPresent : Presence α → Bool
  | .absent => false
  | .null => true
  | .value _ => true

def get? : Presence α → Option α
  | .value a => some a
  | _ => none

end Presence

structure User where
  id : Option UInt64 := none
  screenName : Option String := none
  verified : Bool := false
deriving DecidableEq

structure Geo where
  kind : String := ""
  coordinates : List Float := []
deriving DecidableEq

/-- A hashtag and where it stands in the text. -/
structure Hashtag where
  text : String := ""
  indices : List UInt32 := []
deriving DecidableEq

structure Media where
  id : Option UInt64 := none
  kind : String := ""
  url : Option String := none
deriving DecidableEq

/-- What was found in the text of a tweet. -/
structure Entities where
  hashtags : Presence (List Hashtag) := .absent
  media : Presence (List Media) := .absent
deriving DecidableEq

/-- The full list of what is attached to a tweet. -/
structure ExtendedEntities where
  media : Presence (List Media) := .absent
deriving DecidableEq

structure Tweet where
  id : Option UInt64 := none
  idText : Option String := none
  createdAt : Option String := none
  text : Option String := none
  /-- The client that sent it, as free text. -/
  source : Presence String := .absent
  language : Presence String := .absent
  user : Presence User := .absent
  /-- The tweet that this one repeats. -/
  retweeted : Presence Tweet := .absent
  inReplyTo : Presence UInt64 := .absent
  geo : Presence Geo := .absent
  entities : Presence Entities := .absent
  extendedEntities : Presence ExtendedEntities := .absent
  limitNotice : Option Json := none
  deleteNotice : Option Json := none

instance : Inhabited Tweet := ⟨{}⟩

namespace Tweet

def hashtags? (t : Tweet) : Option (List Hashtag) := t.entities.get?.bind (·.hashtags.get?)

/-- All attached media, if they are listed. -/
def extendedMedia? (t : Tweet) : Option (List Media) := t.extendedEntities.get?.bind (·.media.get?)

end Tweet

end FeedSieve
