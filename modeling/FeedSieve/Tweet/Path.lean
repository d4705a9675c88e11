import FeedSieve.Rule.Error
import FeedSieve.Tweet.Basic

/-! The paths of a record whose presence conditions ask for. A path is there when its last key is,
whatever that key holds, null included; the keys before it must hold records. -/

namespace FeedSieve.Tweet

inductive Path where
  | retweet
  | retweetUser
  | replyTarget
  | limitNotice
  | deleteNotice
  | entities
  | hashtags
  | media
  | extendedEntities
  | extendedMedia
  | source
  | language
  | geo
  | user
deriving DecidableEq, Repr

namespace Path

def all : List Path :=
  [.retweet, .retweetUser, .replyTarget, .limitNotice, .deleteNotice, .entities, .hashtags, .media,
    .extendedEntities, .extendedMedia, .source, .language, .geo, .user]

/-- The keys of a path from the outermost on. -/
def keys : Path → List String
  | .retweet => ["retweeted_status"]
  | .retweetUser => ["retweeted_status", "user"]
  | .replyTarget => ["in_reply_to_status_id"]
  | .limitNotice => ["limit"]
  | .deleteNotice => ["delete"]
  | .entities => ["entities"]
  | .hashtags => ["entities", "hashtags"]
  | .media => ["entities", "media"]
  | .extendedEntities => ["extended_entities"]
  | .extendedMedia => ["extended_entities", "media"]
  | .source => ["source"]
  | .language => ["lang"]
  | .geo => ["geo"]
  | .user => ["user"]

/-- A path in writing: its keys with points between them. -/
def text (p : Path) : String := ".".intercalate p.keys

def ofText? (s : String) : Option Path := all.find? fun p => p.text = s

def parse (s : String) : Except RuleError Path :=
  match ofText? s with
  | some p => .ok p
  | none => .error (.invalidArgument "field path" (.unknownPath s))

end Path

def has (t : Tweet) : Path → Bool
  | .retweet => t.retweeted.isPresent
  | .retweetUser => t.retweeted.get?.any (·.user.isPresent)
  | .replyTarget => t.inReplyTo.isPresent
  | .limitNotice => t.limitNotice.isSome
  | .deleteNotice => t.deleteNotice.isSome
  | .entities => t.entities.isPresent
  | .hashtags => t.entities.get?.any (·.hashtags.isPresent)
  | .media => t.entities.get?.any (·.media.isPresent)
  | .extendedEntities => t.extendedEntities.isPresent
  | .extendedMedia => t.extendedEntities.get?.any (·.media.isPresent)
  | .source => t.source.isPresent
  | .language => t.language.isPresent
  | .geo => t.geo.isPresent
  | .user => t.user.isPresent

end FeedSieve.Tweet
