import FeedSieve.Rule.HashtagCount
import FeedSieve.Rule.Keywords
import FeedSieve.Tweet.Path

/-! Conditions on records. A condition either holds of a record or does not; asking it never fails. A
caller may bring a test of its own, which is known only by a label. -/

namespace FeedSieve

inductive MediaKind where
  | photos
  | videos
deriving DecidableEq, Repr

def MediaKind.wireName : MediaKind → String
  | .photos => "photo"
  | .videos => "animated_gif"

inductive Device where
  | iphone
  | android
  | windowsPhone
  | blackBerry
deriving DecidableEq, Repr

/-- What the source of a tweet from the device contains. -/
def Device.keyword : Device → String
  | .iphone => "iphone"
  | .android => "android"
  | .windowsPhone => "windows"
  | .blackBerry => "blackberry"

/-- The language of a text whose language could not be found out. -/
def undeterminedLanguage : String := "und"

inductive Condition where
  | withoutRetweet
  | withoutReply
  | withoutLimitNotice
  | withoutDeleteNotice
  | withoutMedia
  /-- A place is given. -/
  | located
  /-- The place is given as null. -/
  | unlocated
  | verified
  | retweetOfVerified
  | withoutHashtags
  | withHashtags (count : HashtagCount)
  | hasMedia (kind : MediaKind)
  | fromSource (keywords : Keywords)
  | inLanguage (languages : Keywords)
  | not (c : Condition)
  | custom (label : String) (test : Tweet → Bool)

namespace Condition

def fromDevice (d : Device) : Condition := .fromSource (.ofString d.keyword)

/-- Whether the author is there and verified. -/
def isVerified (author : Option User) : Bool := author.any (·.verified)

/-- Whether a source is given and contains some keyword. -/
def sourceMatches (k : Keywords) (source : Option String) : Bool :=
  match source with
  | some s => s ≠ "" && k.anyIn s
  | none => false

/-- Whether a language is given and determined, and is one of those asked for, if any are. -/
def languageMatches (k : Keywords) (language : Option String) : Bool :=
  match language with
  | some l => l ≠ "" && l ≠ undeterminedLanguage && (k.words.isEmpty || k.anyIs l)
  | none => false

def holds : Condition → Tweet → Bool
  | .withoutRetweet, t => !t.has .retweet
  | .withoutReply, t => t.inReplyTo.get?.isNone
  | .withoutLimitNotice, t => !t.has .limitNotice
  | .withoutDeleteNotice, t => !t.has .deleteNotice
  | .withoutMedia, t => !t.has .media
  | .located, t => t.geo.get?.isSome
  | .unlocated, t => t.geo.isPresent && t.geo.get?.isNone
  | .verified, t => isVerified t.user.get?
  | .retweetOfVerified, t => t.retweeted.get?.any fun r => isVerified r.user.get?
  | .withoutHashtags, t => t.hashtags?.all (·.isEmpty)
  | .withHashtags count, t => t.hashtags?.any fun hs => count.metBy hs.length
  | .hasMedia kind, t => t.extendedMedia?.any fun ms => ms.any (·.kind == kind.wireName)
  | .fromSource k, t => sourceMatches k t.source.get?
  | .inLanguage k, t => languageMatches k t.language.get?
  | .not c, t => !c.holds t
  | .custom _ test, t => test t

/-! ### Descriptions -/

def describeCount : Option UInt64 → String
  | none => "None"
  | some n => "Some(" ++ n.toNat.repr ++ ")"

def describeKeywords (k : Keywords) : String :=
  "Keywords([" ++ ", ".intercalate (k.words.map Text.quoted) ++ "])"

def describePart (name part value : String) : String :=
  name ++ " \x7b " ++ part ++ ": " ++ value ++ " \x7d"

def describe : Condition → String
  | .withoutRetweet => "WithoutRetweets"
  | .withoutReply => "WithoutReplies"
  | .withoutLimitNotice => "WithoutLimitNotices"
  | .withoutDeleteNotice => "WithoutDeleteNotices"
  | .withoutMedia => "WithoutMedia"
  | .located => "WithGeo"
  | .unlocated => "WithoutGeo"
  | .verified => "OnlyVerified"
  | .retweetOfVerified => "OnlyRetweetsFromVerified"
  | .withoutHashtags => "WithoutHashtags"
  | .withHashtags count => describePart "WithHashtags" "exactly" (describeCount count.exactly)
  | .hasMedia .photos => describePart "HasMediaType" "kind" "Photos"
  | .hasMedia .videos => describePart "HasMediaType" "kind" "Videos"
  | .fromSource k => describePart "SourceMatch" "keywords" (describeKeywords k)
  | .inLanguage k => describePart "LanguageMatch" "languages" (describeKeywords k)
  | .not c => "Not(" ++ c.describe ++ ")"
  | .custom _ _ => "FnPredicate"

end Condition

structure Rule where
  name : String
  condition : Condition

def Rule.describe (r : Rule) : String :=
  "PredicateDescriptor \x7b name: " ++ Text.quoted r.name ++ ", predicate: " ++ r.condition.describe ++
    " \x7d"

end FeedSieve
