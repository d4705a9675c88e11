import FeedSieve.Proofs.Sieve.Compiled
import FeedSieve.Proofs.Sieve.Judging

/-! What a verdict depends on. The published conditions look at little in a tweet, its outline; the rest, such as ids,
texts, names and places, and all of a repeated tweet but whether its author is verified, is there for people to
read. A compiled config has published conditions only, so it judges tweets of one outline alike. -/

namespace FeedSieve

/-! ### Outlines -/

namespace Presence

variable {α β : Type}

/-- The same presence, with another value if there is one. -/
def map (f : α → β) : Presence α → Presence β
  | .absent => .absent
  | .null => .null
  | .value a => .value (f a)

@[simp] theorem isPresent_map (f : α → β) (p : Presence α) : (p.map f).isPresent = p.isPresent := by
  cases p <;> rfl

@[simp] theorem get?_map (f : α → β) (p : Presence α) : (p.map f).get? = p.get?.map f := by cases p <;> rfl

@[simp] theorem map_map {γ : Type} (g : β → γ) (f : α → β) (p : Presence α) :
    (p.map f).map g = p.map (g ∘ f) := by
  cases p <;> rfl

end Presence

/-- What the published conditions look at in a tweet. -/
structure Outline where
  /-- Whether there is the key of the repeated tweet. -/
  retweet : Bool
  /-- Whether a tweet is repeated whose author is verified. -/
  retweetOfVerified : Bool
  /-- Whether the number of a tweet is given that this one answers. -/
  reply : Bool
  limitNotice : Bool
  deleteNotice : Bool
  /-- Whether there is the key of the media in the entities. -/
  media : Bool
  /-- The number of hashtags. -/
  hashtags : Nat
  /-- The types of all attached media. -/
  attachments : List String
  source : Option String
  language : Option String
  geo : Presence Unit
  /-- Whether the author is verified. -/
  verified : Bool
deriving DecidableEq

namespace Tweet

def outline (t : Tweet) : Outline where
  retweet := t.retweeted.isPresent
  retweetOfVerified := t.retweeted.get?.any fun r => r.user.get?.any (·.verified)
  reply := t.inReplyTo.get?.isSome
  limitNotice := t.limitNotice.isSome
  deleteNotice := t.deleteNotice.isSome
  media := t.entities.get?.any (·.media.isPresent)
  hashtags := (t.hashtags?.getD []).length
  attachments := (t.extendedMedia?.getD []).map (·.kind)
  source := t.source.get?
  language := t.language.get?
  geo := t.geo.map fun _ => ()
  verified := t.user.get?.any (·.verified)

/-- The tweet without its diagnostic content. Each hashtag and each medium is still there, but of a medium only the
type is; of a place and of a notice there is left that it was given. -/
def redacted (t : Tweet) : Tweet where
  source := t.source
  language := t.language
  user := t.user.map fun u => { verified := u.verified }
  retweeted := t.retweeted.map fun r => { user := r.user.map fun u => { verified := u.verified } }
  inReplyTo := t.inReplyTo.map fun _ => 0
  geo := t.geo.map fun _ => {}
  entities := t.entities.map fun e =>
    { hashtags := e.hashtags.map (·.map fun _ => {}), media := e.media.map fun _ => [] }
  extendedEntities := t.extendedEntities.map fun e =>
    { media := e.media.map (·.map fun m => { kind := m.kind }) }
  limitNotice := t.limitNotice.map fun _ => .null
  deleteNotice := t.deleteNotice.map fun _ => .null

theorem hashtags?_redacted (t : Tweet) :
    t.redacted.hashtags? = t.hashtags?.map fun hs => hs.map fun _ => {} := by
  simp only [hashtags?, redacted, Presence.get?_map]
  cases t.entities.get? <;> simp

theorem extendedMedia?_redacted (t : Tweet) :
    t.redacted.extendedMedia? = t.extendedMedia?.map fun ms => ms.map fun m => { kind := m.kind } := by
  simp only [extendedMedia?, redacted, Presence.get?_map]
  cases t.extendedEntities.get? <;> simp

theorem outline_redacted (t : Tweet) : t.redacted.outline = t.outline := by
  have hretweet : (t.redacted.retweeted.get?.any fun r => r.user.get?.any (·.verified)) =
      t.retweeted.get?.any fun r => r.user.get?.any (·.verified) := by
    simp [redacted, Option.any_map]
  have hmedia : t.redacted.entities.get?.any (·.media.isPresent) = t.entities.get?.any (·.media.isPresent) := by
    simp [redacted, Option.any_map]
  have hhashtags : (t.redacted.hashtags?.getD []).length = (t.hashtags?.getD []).length := by
    rw [hashtags?_redacted]
    cases t.hashtags? <;> simp
  have hkinds : (t.redacted.extendedMedia?.getD []).map (·.kind) = (t.extendedMedia?.getD []).map (·.kind) := by
    rw [extendedMedia?_redacted]
    cases t.extendedMedia? <;> simp
  have hverified : t.redacted.user.get?.any (·.verified) = t.user.get?.any (·.verified) := by
    simp [redacted, Option.any_map]
  rw [outline, outline, hretweet, hmedia, hhashtags, hkinds, hverified]
  simp [redacted, Function.comp_def]

end Tweet

/-! ### Conditions -/

namespace Condition

/-- The condition can be told from the outline of a tweet. -/
def ReadsOutline (c : Condition) : Prop := ∃ f : Outline → Bool, ∀ t, c.holds t = f t.outline

theorem ReadsOutline.not {c : Condition} : c.ReadsOutline → (Condition.not c).ReadsOutline
  | ⟨f, hf⟩ => ⟨fun o => !f o, fun t => congrArg Bool.not (hf t)⟩

theorem readsOutline_withHashtags {count : HashtagCount} (h : count.exactly ≠ some 0) :
    (withHashtags count).ReadsOutline := by
  refine ⟨fun o => count.metBy o.hashtags, fun t => ?_⟩
  rw [holds, Tweet.outline]
  cases t.hashtags? with
  -- An outline does not tell an empty list from no list, and where there is no list no demand is met.
  | none => simp [HashtagCount.metBy_zero h]
  | some hs => rfl

theorem readsOutline_hasMedia (kind : MediaKind) : (hasMedia kind).ReadsOutline := by
  refine ⟨fun o => o.attachments.any (· == kind.wireName), fun t => ?_⟩
  rw [holds, Tweet.outline]
  cases t.extendedMedia? with
  | none => rfl
  | some ms => simp [Function.comp_def]

theorem readsOutline_fromSource (k : Keywords) : (fromSource k).ReadsOutline :=
  ⟨fun o => sourceMatches k o.source, fun _ => rfl⟩

theorem readsOutline_inLanguage (k : Keywords) : (inLanguage k).ReadsOutline :=
  ⟨fun o => languageMatches k o.language, fun _ => rfl⟩

end Condition

theorem Flag.readsOutline (f : Flag) : f.condition.ReadsOutline := by
  cases f with
  | withoutRetweets => exact ⟨fun o => !o.retweet, fun _ => rfl⟩
  | withoutReplies => exact ⟨fun o => !o.reply, fun t => by simp [condition, Condition.holds, Tweet.outline]⟩
  | withoutLimitNotices => exact ⟨fun o => !o.limitNotice, fun _ => rfl⟩
  | withoutDeleteNotices => exact ⟨fun o => !o.deleteNotice, fun _ => rfl⟩
  | withoutMedia => exact ⟨fun o => !o.media, fun _ => rfl⟩
  | media kept kind =>
    cases kept with
    | true => exact Condition.readsOutline_hasMedia kind
    | false => exact (Condition.readsOutline_hasMedia kind).not
  | device kept d =>
    cases kept with
    | true => exact Condition.readsOutline_fromSource _
    | false => exact (Condition.readsOutline_fromSource _).not
  | withGeo => exact ⟨fun o => o.geo.get?.isSome, fun t => by simp [condition, Condition.holds, Tweet.outline]⟩
  | withoutGeo =>
    exact ⟨fun o => o.geo.isPresent && o.geo.get?.isNone, fun t => by
      simp [condition, Condition.holds, Tweet.outline]⟩
  | withoutHashtags =>
    refine ⟨fun o => o.hashtags == 0, fun t => ?_⟩
    rw [condition, Condition.holds, Tweet.outline]
    cases t.hashtags? with
    | none => rfl
    | some hs => cases hs <;> rfl
  | onlyVerified => exact ⟨fun o => o.verified, fun _ => rfl⟩
  | onlyRetweetsFromVerified => exact ⟨fun o => o.retweetOfVerified, fun _ => rfl⟩

theorem KeywordForm.readsOutline (f : KeywordForm) (k : Keywords) : (f.condition k).ReadsOutline := by
  cases f with
  | source kept =>
    cases kept with
    | true => exact Condition.readsOutline_fromSource k
    | false => exact (Condition.readsOutline_fromSource k).not
  | language kept =>
    cases kept with
    | true => exact Condition.readsOutline_inLanguage k
    | false => exact (Condition.readsOutline_inLanguage k).not

/-- A published condition, with whatever argument, looks at the outline only. -/
theorem Form.readsOutline {form : Form} {a : Json} {r : Rule} (h : form.rule a = .ok r) :
    r.condition.ReadsOutline := by
  cases form with
  | flag f =>
    obtain rfl := Except.ok.inj h
    exact f.readsOutline
  | keywords f =>
    obtain ⟨k, -, rfl⟩ := map_eq_ok.mp (mapError_eq_ok.mp h)
    exact f.readsOutline k
  | hashtags =>
    obtain rfl := Except.ok.inj h
    exact Condition.readsOutline_withHashtags (HashtagCount.exactly_of_ne_zero _)

/-! ### Verdicts -/

theorem Config.readsOutline {c : Config} {s : Sieve} (hc : c.compile = .ok s) :
    ∀ r ∈ s.rules, r.condition.ReadsOutline := by
  intro r hr
  obtain ⟨decl, -, form, -, hform⟩ := exists_form_of_compile hc hr
  exact Form.readsOutline hform

namespace Sieve

theorem verdict_eq_of_readsOutline {s : Sieve} (h : ∀ r ∈ s.rules, r.condition.ReadsOutline) {t u : Tweet}
    (htu : t.outline = u.outline) : s.verdict t = s.verdict u := by
  refine judge_congr fun r hr => ?_
  obtain ⟨f, hf⟩ := h r hr
  rw [hf, hf, htu]

/-- A compiled config judges tweets of one outline alike. So it judges a tweet as it does the tweet without its
diagnostic content. -/
theorem judges_outline {c : Config} {s : Sieve} (hc : c.compile = .ok s) :
    (∀ t u : Tweet, t.outline = u.outline → s.keeps t = s.keeps u ∧ s.rejectedBy t = s.rejectedBy u) ∧
      ∀ t : Tweet, s.keeps t.redacted = s.keeps t ∧ s.rejectedBy t.redacted = s.rejectedBy t := by
  have hsame : ∀ t u : Tweet, t.outline = u.outline → s.keeps t = s.keeps u ∧ s.rejectedBy t = s.rejectedBy u := by
    intro t u htu
    have hverdict := verdict_eq_of_readsOutline (Config.readsOutline hc) htu
    exact ⟨congrArg Verdict.kept hverdict, congrArg Verdict.rejectedBy hverdict⟩
  exact ⟨hsame, fun t => hsame t.redacted t t.outline_redacted⟩

/-- One hashtag is asked for, and a place. -/
def taggedConfig : Config := ⟨[⟨"with_hashtags", .number (.ofWord 1)⟩, ⟨"withGeo", .null⟩]⟩

/-- A tweet with one hashtag and a place, which repeats another. -/
def taggedTweet (text : String) (tag : Hashtag) (place : Geo) (repeated : Tweet) : Tweet where
  text := some text
  retweeted := .value { repeated with user := .null }
  entities := .value { hashtags := .value [tag] }
  geo := .value place

theorem judges_outline_tagged : ∃ s, taggedConfig.compile = .ok s ∧
    s.keeps (taggedTweet "#one" ⟨"one", [0, 4]⟩ ⟨"Point", []⟩ { id := some 7 }) =
      s.keeps (taggedTweet "" {} {} { text := some "#two" }) := by
  obtain ⟨s, hs⟩ := exists_of_isOk (x := taggedConfig.compile) (by decide +kernel)
  have houtline : (taggedTweet "#one" ⟨"one", [0, 4]⟩ ⟨"Point", []⟩ { id := some 7 }).outline =
      (taggedTweet "" {} {} { text := some "#two" }).outline := rfl
  exact ⟨s, hs, ((judges_outline hs).1 _ _ houtline).1⟩

end Sieve

end FeedSieve
