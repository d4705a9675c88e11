import FeedSieve.Json.Printer
import FeedSieve.Tweet.Basic

/-! Records as documents. Every record is an object whose members stand in the order of its fields.
A field without a value is left out unless its key was there; a few fields are always written. -/

namespace FeedSieve

open Json (Number)

/-- The member of a field that is left out when it has no value. -/
def memberOf (name : String) (value : Option Json) : List (String × Json) :=
  value.toList.map (name, ·)

/-- The member of a field that keeps null apart from being absent. -/
def Presence.memberOf {α : Type} (name : String) (toJson : α → Json) : Presence α → List (String × Json)
  | .absent => []
  | .null => [(name, .null)]
  | .value a => [(name, toJson a)]

def wordJson (n : UInt64) : Json := .number (.ofWord n)

def User.toJson (u : User) : Json :=
  .object <| memberOf "id" (u.id.map wordJson) ++ memberOf "screen_name" (u.screenName.map .string) ++
    [("verified", .bool u.verified)]

def Geo.toJson (g : Geo) : Json :=
  .object [("type", .string g.kind), ("coordinates", .array (g.coordinates.map fun x => .number (.real x)))]

def Hashtag.toJson (h : Hashtag) : Json :=
  .object [("text", .string h.text), ("indices", .array (h.indices.map fun i => wordJson i.toUInt64))]

def Media.toJson (m : Media) : Json :=
  .object <| memberOf "id" (m.id.map wordJson) ++ [("type", .string m.kind)] ++
    memberOf "media_url_https" (m.url.map .string)

def Entities.toJson (e : Entities) : Json :=
  .object <| e.hashtags.memberOf "hashtags" (fun hs => .array (hs.map Hashtag.toJson)) ++
    e.media.memberOf "media" (fun ms => .array (ms.map Media.toJson))

def ExtendedEntities.toJson (e : ExtendedEntities) : Json :=
  .object <| e.media.memberOf "media" (fun ms => .array (ms.map Media.toJson))

mutual

def Tweet.toJson : Tweet → Json
  | ⟨id, idText, createdAt, text, source, language, user, retweeted, inReplyTo, geo, entities,
      extendedEntities, limitNotice, deleteNotice⟩ =>
    .object <| memberOf "id" (id.map wordJson) ++ memberOf "id_str" (idText.map .string) ++
      memberOf "created_at" (createdAt.map .string) ++ memberOf "text" (text.map .string) ++
      source.memberOf "source" .string ++ language.memberOf "lang" .string ++
      user.memberOf "user" User.toJson ++ retweetedMember retweeted ++
      inReplyTo.memberOf "in_reply_to_status_id" wordJson ++ geo.memberOf "geo" Geo.toJson ++
      entities.memberOf "entities" Entities.toJson ++
      extendedEntities.memberOf "extended_entities" ExtendedEntities.toJson ++
      memberOf "limit" limitNotice ++ memberOf "delete" deleteNotice

/-- The member of the tweet that another one repeats. -/
def retweetedMember : Presence Tweet → List (String × Json)
  | .absent => []
  | .null => [("retweeted_status", .null)]
  | .value t => [("retweeted_status", t.toJson)]

end

end FeedSieve
