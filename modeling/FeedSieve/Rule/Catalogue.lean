import FeedSieve.Rule.Condition
import FeedSieve.Unicode.Lowercase

/-! The published declarations. Each stands for a rule, most of them without an argument; a few names
are other words for a declaration and stand for the same rule. A name may be written in any case,
with hyphens and underscores anywhere. The names under which rules are kept, the published names and the
words that are recognized are three tables, none of which is made from another. -/

namespace FeedSieve

/-- A declaration that takes no argument. Where there are two opposite ones, `kept` tells which. -/
inductive Flag where
  | withoutRetweets
  | withoutReplies
  | withoutLimitNotices
  | withoutDeleteNotices
  | withoutMedia
  | media (kept : Bool) (kind : MediaKind)
  | device (kept : Bool) (d : Device)
  | withGeo
  | withoutGeo
  | withoutHashtags
  | onlyVerified
  | onlyRetweetsFromVerified
deriving DecidableEq, Repr

namespace Flag

/-- The name under which the rule of a flag is kept. -/
def name : Flag → String
  | .withoutRetweets => "withoutRTs"
  | .withoutReplies => "withoutReplies"
  | .withoutLimitNotices => "withoutLimitNotices"
  | .withoutDeleteNotices => "withoutDeleteNotices"
  | .withoutMedia => "withoutMedia"
  | .media true .photos => "withMediaPhotos"
  | .media false .photos => "withoutMediaPhotos"
  | .media true .videos => "withMediaVideos"
  | .media false .videos => "withoutMediaVideos"
  | .device true .iphone => "onlyFromIphone"
  | .device false .iphone => "excludeIphone"
  | .device true .android => "onlyFromAndroid"
  | .device false .android => "excludeAndroid"
  | .device true .windowsPhone => "onlyFromWindowsPhone"
  | .device false .windowsPhone => "excludeWindowsPhone"
  | .device true .blackBerry => "onlyFromBlackBerry"
  | .device false .blackBerry => "excludeBlackBerry"
  | .withGeo => "withGeo"
  | .withoutGeo => "withoutGeo"
  | .withoutHashtags => "withoutHashtags"
  | .onlyVerified => "onlyVerified"
  | .onlyRetweetsFromVerified => "onlyRTsFromVerified"

def condition : Flag → Condition
  | .withoutRetweets => .withoutRetweet
  | .withoutReplies => .withoutReply
  | .withoutLimitNotices => .withoutLimitNotice
  | .withoutDeleteNotices => .withoutDeleteNotice
  | .withoutMedia => .withoutMedia
  | .media true kind => .hasMedia kind
  | .media false kind => .not (.hasMedia kind)
  | .device true d => .fromDevice d
  | .device false d => .not (.fromDevice d)
  | .withGeo => .located
  | .withoutGeo => .unlocated
  | .withoutHashtags => .withoutHashtags
  | .onlyVerified => .verified
  | .onlyRetweetsFromVerified => .retweetOfVerified

def rule (f : Flag) : Rule := ⟨f.name, f.condition⟩

end Flag

/-- A declaration that takes keywords. -/
inductive KeywordForm where
  | source (kept : Bool)
  | language (kept : Bool)
deriving DecidableEq, Repr

namespace KeywordForm

def name : KeywordForm → String
  | .source true => "onlyFromSource"
  | .source false => "excludeFromSource"
  | .language true => "withLanguage"
  | .language false => "withoutLanguage"

/-- The condition that the form declares with the given keywords. -/
def condition (k : Keywords) : KeywordForm → Condition
  | .source true => .fromSource k
  | .source false => .not (.fromSource k)
  | .language true => .inLanguage k
  | .language false => .not (.inLanguage k)

def rule (f : KeywordForm) (k : Keywords) : Rule := ⟨f.name, f.condition k⟩

end KeywordForm

def hashtagRule (count : HashtagCount) : Rule := ⟨"withHashtags", .withHashtags count⟩

/-- A declaration without its argument. -/
inductive Form where
  | flag (f : Flag)
  | keywords (f : KeywordForm)
  | hashtags
deriving DecidableEq, Repr

namespace Form

def name : Form → String
  | .flag f => f.name
  | .keywords f => f.name
  | .hashtags => "withHashtags"

/-- The rule that the form declares with an argument; flags do not look at theirs. -/
def rule (form : Form) (argument : Json) : Except RuleError Rule :=
  match form with
  | .flag f => .ok f.rule
  | .keywords f => ((Keywords.ofArgument argument).map f.rule).mapError (.invalidArgument f.name)
  | .hashtags => .ok (hashtagRule (.ofArgument argument))

end Form

/-- The other names of declarations. -/
inductive Alias where
  | withoutPhotos
  | withPhotos
  | withoutVideos
  | withVideos
  | onlyDevice (d : Device)
deriving DecidableEq, Repr

def Alias.flag : Alias → Flag
  | .withoutPhotos => .media false .photos
  | .withPhotos => .media true .photos
  | .withoutVideos => .media false .videos
  | .withVideos => .media true .videos
  | .onlyDevice d => .device true d

/-! ### Names as they are declared -/

/-- The published names, those of rules first. -/
def declarationNames : List String :=
  ["withoutRTs", "withoutReplies", "withoutLimitNotices", "withoutDeleteNotices", "withoutMedia", "withoutMediaPhotos",
    "withMediaPhotos", "withoutMediaVideos", "withMediaVideos", "onlyFromIphone", "excludeIphone", "onlyFromAndroid",
    "excludeAndroid", "onlyFromWindowsPhone", "excludeWindowsPhone", "onlyFromBlackBerry", "excludeBlackBerry",
    "onlyFromSource", "excludeFromSource", "withGeo", "withoutGeo", "withLanguage", "withoutLanguage", "withHashtags",
    "withoutHashtags", "onlyVerified", "onlyRTsFromVerified", "withoutPhotos", "withPhotos", "withoutVideos",
    "withVideos", "onlyIphone", "onlyAndroid", "onlyWindowsPhone", "onlyBlackBerry"]

/-- What two spellings of one name have in common. -/
def foldName (name : String) : List Char :=
  (name.toList.filter fun c => c ≠ '_' && c ≠ '-').flatMap Unicode.lowerChar

namespace Form

/-- The form that a name without signs and capitals declares. -/
def ofFolded? : String → Option Form
  | "withoutrts" => some (.flag .withoutRetweets)
  | "withoutreplies" => some (.flag .withoutReplies)
  | "withoutlimitnotices" => some (.flag .withoutLimitNotices)
  | "withoutdeletenotices" => some (.flag .withoutDeleteNotices)
  | "withoutmedia" => some (.flag .withoutMedia)
  | "withoutmediaphotos" | "withoutphotos" => some (.flag (.media false .photos))
  | "withmediaphotos" | "withphotos" => some (.flag (.media true .photos))
  | "withoutmediavideos" | "withoutvideos" => some (.flag (.media false .videos))
  | "withmediavideos" | "withvideos" => some (.flag (.media true .videos))
  | "onlyfromiphone" | "onlyiphone" => some (.flag (.device true .iphone))
  | "excludeiphone" => some (.flag (.device false .iphone))
  | "onlyfromandroid" | "onlyandroid" => some (.flag (.device true .android))
  | "excludeandroid" => some (.flag (.device false .android))
  | "onlyfromwindowsphone" | "onlywindowsphone" => some (.flag (.device true .windowsPhone))
  | "excludewindowsphone" => some (.flag (.device false .windowsPhone))
  | "onlyfromblackberry" | "onlyblackberry" => some (.flag (.device true .blackBerry))
  | "excludeblackberry" => some (.flag (.device false .blackBerry))
  | "onlyfromsource" => some (.keywords (.source true))
  | "excludefromsource" => some (.keywords (.source false))
  | "withgeo" => some (.flag .withGeo)
  | "withoutgeo" => some (.flag .withoutGeo)
  | "withlanguage" => some (.keywords (.language true))
  | "withoutlanguage" => some (.keywords (.language false))
  | "withhashtags" => some .hashtags
  | "withouthashtags" => some (.flag .withoutHashtags)
  | "onlyverified" => some (.flag .onlyVerified)
  | "onlyrtsfromverified" => some (.flag .onlyRetweetsFromVerified)
  | _ => none

/-- The form that a name declares, in any spelling. -/
def ofName? (name : String) : Option Form := ofFolded? (String.ofList (foldName name))

end Form

end FeedSieve
