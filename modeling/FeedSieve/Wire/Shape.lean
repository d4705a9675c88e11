import FeedSieve.Tweet.Basic

/-! What each place of a record admits. A record of each kind has its fields in a fixed order, and each
field has a name and a shape; `Shape.Val` is the type of what a shape admits, and `Slots` holds for
every field of a record the value given for it, if one was given. -/

namespace FeedSieve.Wire

inductive RecordKind where
  | tweet
  | user
  | geo
  | entities
  | extendedEntities
  | hashtag
  | media
deriving DecidableEq, Repr

inductive WordSize where
  | w32
  | w64
deriving DecidableEq, Repr

/-- What a place admits. -/
inductive Shape where
  | word (size : WordSize)
  | real
  | text
  | flag
  | anything
  | nullable (s : Shape)
  | listOf (s : Shape)
  | record (k : RecordKind)
deriving DecidableEq, Repr

/-- A place of a record. -/
structure Field where
  name : String
  shape : Shape
deriving DecidableEq, Repr

namespace RecordKind

def fields : RecordKind → List Field
  | .tweet => [
    ⟨"id", .nullable (.word .w64)⟩,
    ⟨"id_str", .nullable .text⟩,
    ⟨"created_at", .nullable .text⟩,
    ⟨"text", .nullable .text⟩,
    ⟨"source", .nullable .text⟩,
    ⟨"lang", .nullable .text⟩,
    ⟨"user", .nullable (.record .user)⟩,
    ⟨"retweeted_status", .nullable (.record .tweet)⟩,
    ⟨"in_reply_to_status_id", .nullable (.word .w64)⟩,
    ⟨"geo", .nullable (.record .geo)⟩,
    ⟨"entities", .nullable (.record .entities)⟩,
    ⟨"extended_entities", .nullable (.record .extendedEntities)⟩,
    ⟨"limit", .anything⟩,
    ⟨"delete", .anything⟩]
  | .user => [
    ⟨"id", .nullable (.word .w64)⟩,
    ⟨"screen_name", .nullable .text⟩,
    ⟨"verified", .nullable .flag⟩]
  | .geo => [⟨"type", .text⟩, ⟨"coordinates", .listOf .real⟩]
  | .entities => [
    ⟨"hashtags", .nullable (.listOf (.record .hashtag))⟩,
    ⟨"media", .nullable (.listOf (.record .media))⟩]
  | .extendedEntities => [⟨"media", .nullable (.listOf (.record .media))⟩]
  | .hashtag => [⟨"text", .text⟩, ⟨"indices", .listOf (.word .w32)⟩]
  | .media => [
    ⟨"id", .nullable (.word .w64)⟩,
    ⟨"type", .text⟩,
    ⟨"media_url_https", .nullable .text⟩]

/-- The name of a record in messages. -/
def name : RecordKind → String
  | .tweet => "Tweet"
  | .user => "User"
  | .geo => "Geo"
  | .entities => "Entities"
  | .extendedEntities => "ExtendedEntities"
  | .hashtag => "Hashtag"
  | .media => "Media"

abbrev Val : RecordKind → Type
  | .tweet => Tweet
  | .user => User
  | .geo => Geo
  | .entities => Entities
  | .extendedEntities => ExtendedEntities
  | .hashtag => Hashtag
  | .media => Media

end RecordKind

abbrev WordSize.Val : WordSize → Type
  | .w32 => UInt32
  | .w64 => UInt64

abbrev Shape.Val : Shape → Type
  | .word size => size.Val
  | .real => Float
  | .text => String
  | .flag => Bool
  | .anything => Json
  | .nullable s => Option s.Val
  | .listOf s => List s.Val
  | .record k => k.Val

/-- For each field the value given for it, if one was given. -/
abbrev Slots : List Field → Type
  | [] => Unit
  | f :: fs => Option f.shape.Val × Slots fs

def Slots.empty : (fs : List Field) → Slots fs
  | [] => ()
  | _ :: fs => (none, Slots.empty fs)

/-- A field given as null or not at all is told apart. -/
def presence {α : Type} : Option (Option α) → Presence α
  | none => .absent
  | some none => .null
  | some (some a) => .value a

/-- The record with the given values in its fields; the others have their defaults. -/
def buildRecord : (k : RecordKind) → Slots k.fields → k.Val
  | .tweet, (id, idText, createdAt, text, source, language, user, retweeted, inReplyTo, geo, entities,
      extendedEntities, limitNotice, deleteNotice, ()) =>
    { id := id.join, idText := idText.join, createdAt := createdAt.join, text := text.join,
      source := presence source, language := presence language, user := presence user,
      retweeted := presence retweeted, inReplyTo := presence inReplyTo, geo := presence geo,
      entities := presence entities, extendedEntities := presence extendedEntities,
      limitNotice, deleteNotice }
  | .user, (id, screenName, verified, ()) =>
    { id := id.join, screenName := screenName.join, verified := verified.join.getD false }
  | .geo, (kind, coordinates, ()) => { kind := kind.getD "", coordinates := coordinates.getD [] }
  | .entities, (hashtags, media, ()) => { hashtags := presence hashtags, media := presence media }
  | .extendedEntities, (media, ()) => { media := presence media }
  | .hashtag, (text, indices, ()) => { text := text.getD "", indices := indices.getD [] }
  | .media, (id, kind, url, ()) => { id := id.join, kind := kind.getD "", url := url.join }

end FeedSieve.Wire
