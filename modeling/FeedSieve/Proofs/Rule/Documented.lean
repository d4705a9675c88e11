import FeedSieve.Proofs.Json.Document
import FeedSieve.Proofs.Rule.Catalogue
import FeedSieve.Proofs.Rule.LeadingNumber

/-! The published conditions as their documentation states them: by the keys of a document, with no regard
to records, shapes or conditions as data. A key counts as present whatever stands under it, null
included. -/

namespace FeedSieve.Documented

/-! ### What is asked of a document -/

/-- The keywords that count, as they are compared: trimmed, in lower case, and not blank. -/
def folded (words : List String) : List (List Char) :=
  (words.map fun w => Text.lower (Text.trim w.toList)).filter (· ≠ [])

/-- The source is a text and contains some keyword, in any case. -/
def SourceHas (words : List String) (d : Json) : Prop :=
  ∃ s, d.at? ["source"] = some (.string s) ∧ s ≠ "" ∧ ∃ w ∈ folded words, w <:+: Text.lower s.toList

/-- The language is determined, and is one of those given if any are given, in any case. -/
def LanguageIn (words : List String) (d : Json) : Prop :=
  ∃ l, d.at? ["lang"] = some (.string l) ∧ l ≠ "" ∧ l ≠ "und" ∧
    (folded words = [] ∨ Text.lower l.toList ∈ folded words)

def Attaches (type : String) (d : Json) : Prop :=
  ∃ items, d.at? ["extended_entities", "media"] = some (.array items) ∧
    ∃ m ∈ items, m.member? "type" = some (.string type)

/-- The hashtags are listed, and their number has the property. -/
def HashtagsNumber (p : Nat → Prop) (d : Json) : Prop :=
  ∃ hs, d.at? ["entities", "hashtags"] = some (.array hs) ∧ p hs.length

/-- The keywords of an argument, which may be one keyword by itself. -/
def wordsOf : Json → List String
  | .string s => [s]
  | .array items => items.filterMap fun | .string s => some s | _ => none
  | _ => []

/-- The number that an argument gives: a text the one that it begins with, cut off at the greatest word; an integer
itself unless it is negative; a double its whole part, from one on; and true gives one. -/
inductive AsksFor : Json → Nat → Prop
  | text {s : String} {D : Nat} (h : HashtagCount.LeadingNumber s.toList D) :
    AsksFor (.string s) (min D (UInt64.size - 1))
  | integer (n : Nat) (h : Json.fitsInteger n) : AsksFor (.number (.integer n h)) n
  | double {x : Float} (h : 1 ≤ x) : AsksFor (.number (.real x)) x.toUInt64.toNat
  | yes : AsksFor (.bool true) 1

/-- The number of hashtags is the one that the argument asks for, counted in 64 bits; an argument that gives no
positive number asks for at least one. -/
def Asked (argument : Json) (n : Nat) : Prop :=
  (∃ k, AsksFor argument k ∧ k ≠ 0 ∧ n % UInt64.size = k) ∨ (∀ k, AsksFor argument k → k = 0) ∧ n ≠ 0

/-- All published names, each with what it asks of a document, given an argument. -/
def published : List (String × (Json → Json → Prop)) :=
  [("withoutRTs", fun _ d => d.at? ["retweeted_status"] = none),
    ("withoutReplies", fun _ d => d.at? ["in_reply_to_status_id"] = none ∨
      d.at? ["in_reply_to_status_id"] = some .null),
    ("withoutLimitNotices", fun _ d => d.at? ["limit"] = none),
    ("withoutDeleteNotices", fun _ d => d.at? ["delete"] = none),
    ("withoutMedia", fun _ d => d.at? ["entities", "media"] = none),
    ("withoutMediaPhotos", fun _ d => ¬Attaches "photo" d),
    ("withMediaPhotos", fun _ d => Attaches "photo" d),
    ("withoutMediaVideos", fun _ d => ¬Attaches "animated_gif" d),
    ("withMediaVideos", fun _ d => Attaches "animated_gif" d),
    ("onlyFromIphone", fun _ d => SourceHas ["iphone"] d),
    ("excludeIphone", fun _ d => ¬SourceHas ["iphone"] d),
    ("onlyFromAndroid", fun _ d => SourceHas ["android"] d),
    ("excludeAndroid", fun _ d => ¬SourceHas ["android"] d),
    ("onlyFromWindowsPhone", fun _ d => SourceHas ["windows"] d),
    ("excludeWindowsPhone", fun _ d => ¬SourceHas ["windows"] d),
    ("onlyFromBlackBerry", fun _ d => SourceHas ["blackberry"] d),
    ("excludeBlackBerry", fun _ d => ¬SourceHas ["blackberry"] d),
    ("onlyFromSource", fun a d => SourceHas (wordsOf a) d),
    ("excludeFromSource", fun a d => ¬SourceHas (wordsOf a) d),
    ("withGeo", fun _ d => ¬(d.at? ["geo"] = none ∨ d.at? ["geo"] = some .null)),
    ("withoutGeo", fun _ d => d.at? ["geo"] = some .null),
    ("withLanguage", fun a d => LanguageIn (wordsOf a) d),
    ("withoutLanguage", fun a d => ¬LanguageIn (wordsOf a) d),
    ("withHashtags", fun a d => HashtagsNumber (Asked a) d),
    ("withoutHashtags", fun _ d => ¬HashtagsNumber (· ≠ 0) d),
    ("onlyVerified", fun _ d => d.at? ["user", "verified"] = some (.bool true)),
    ("onlyRTsFromVerified", fun _ d => d.at? ["retweeted_status", "user", "verified"] = some (.bool true)),
    ("withoutPhotos", fun _ d => ¬Attaches "photo" d),
    ("withPhotos", fun _ d => Attaches "photo" d),
    ("withoutVideos", fun _ d => ¬Attaches "animated_gif" d),
    ("withVideos", fun _ d => Attaches "animated_gif" d),
    ("onlyIphone", fun _ d => SourceHas ["iphone"] d),
    ("onlyAndroid", fun _ d => SourceHas ["android"] d),
    ("onlyWindowsPhone", fun _ d => SourceHas ["windows"] d),
    ("onlyBlackBerry", fun _ d => SourceHas ["blackberry"] d)]

/-- What a declaration asks of a document: what its name does, in whatever spelling. -/
def Holds (decl : Declaration) (d : Json) : Prop :=
  ∃ row ∈ published, foldName row.1 = foldName decl.name ∧ row.2 decl.argument d

/-! ### The published names and the forms -/

/-- What a form asks of a document, given an argument. -/
def meaning : Form → Json → Json → Prop
  | .flag .withoutRetweets, _, d => d.at? ["retweeted_status"] = none
  | .flag .withoutReplies, _, d =>
    d.at? ["in_reply_to_status_id"] = none ∨ d.at? ["in_reply_to_status_id"] = some .null
  | .flag .withoutLimitNotices, _, d => d.at? ["limit"] = none
  | .flag .withoutDeleteNotices, _, d => d.at? ["delete"] = none
  | .flag .withoutMedia, _, d => d.at? ["entities", "media"] = none
  | .flag (.media true kind), _, d => Attaches kind.wireName d
  | .flag (.media false kind), _, d => ¬Attaches kind.wireName d
  | .flag (.device true device), _, d => SourceHas [device.keyword] d
  | .flag (.device false device), _, d => ¬SourceHas [device.keyword] d
  | .flag .withGeo, _, d => ¬(d.at? ["geo"] = none ∨ d.at? ["geo"] = some .null)
  | .flag .withoutGeo, _, d => d.at? ["geo"] = some .null
  | .flag .withoutHashtags, _, d => ¬HashtagsNumber (· ≠ 0) d
  | .flag .onlyVerified, _, d => d.at? ["user", "verified"] = some (.bool true)
  | .flag .onlyRetweetsFromVerified, _, d =>
    d.at? ["retweeted_status", "user", "verified"] = some (.bool true)
  | .keywords (.source true), a, d => SourceHas (wordsOf a) d
  | .keywords (.source false), a, d => ¬SourceHas (wordsOf a) d
  | .keywords (.language true), a, d => LanguageIn (wordsOf a) d
  | .keywords (.language false), a, d => ¬LanguageIn (wordsOf a) d
  | .hashtags, a, d => HashtagsNumber (Asked a) d

theorem published_eq : published = catalogue.map fun p => (p.1, meaning p.2) := rfl

/-- A declaration asks what the form of its name does. -/
theorem holds_iff {decl : Declaration} {form : Form} (h : Form.ofName? decl.name = some form) (d : Json) :
    Holds decl d ↔ meaning form decl.argument d := by
  rw [Holds, published_eq]
  constructor
  · rintro ⟨row, hrow, hfold, hholds⟩
    obtain ⟨q, hq, rfl⟩ := List.mem_map.mp hrow
    obtain rfl : q.2 = form := Option.some.inj ((Form.ofName?_eq hq hfold.symm).symm.trans h)
    exact hholds
  · intro hholds
    obtain ⟨p, hp, hname, rfl⟩ := Form.exists_mem_catalogue h
    exact ⟨(p.1, meaning p.2), List.mem_map_of_mem hp, hname, hholds⟩

end FeedSieve.Documented
