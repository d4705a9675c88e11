import FeedSieve.Proofs.Rule.HashtagCount
import FeedSieve.Proofs.Rule.Refusal
import FeedSieve.Proofs.Sieve.Compiled
import FeedSieve.Proofs.Tweet.Keys

/-! Verdicts as documented. The condition of each form, asked of a decoded tweet, comes to what the form asks
of the keys of its document; so a compiled config keeps a tweet if every declaration of it holds of the
document. -/

namespace FeedSieve.Documented

open Wire

/-! ### Arguments -/

theorem words_ofList (ws : List String) : (Keywords.ofList ws).words.map String.toList = folded ws := by
  have htoList : String.toList ∘ Keywords.foldWord = fun w => Text.lower (Text.trim w.toList) := by
    funext w
    simp [Keywords.foldWord]
  have hblank : (fun w => decide (Keywords.foldWord w ≠ "")) =
      fun w => decide (Text.lower (Text.trim w.toList) ≠ []) := by
    funext w
    simp [Keywords.foldWord, ← String.toList_inj]
  simp only [Keywords.ofList, folded, List.filter_map, List.map_map, htoList, Function.comp_def, hblank]

theorem metBy_ofArgument (a : Json) (n : Nat) :
    (HashtagCount.ofArgument a).metBy n = true ↔ Asked a n := by
  simp only [HashtagCount.metBy, HashtagCount.ofArgument, HashtagCount.of, Asked, HashtagCount.asksFor_iff]
  cases HashtagCount.argumentCount? a with
  | none => simp
  | some w =>
    rw [Option.filter_some]
    obtain rfl | hw := eq_or_ne w 0
    · simp
    · have hne : w.toNat ≠ 0 := fun h => hw (UInt64.toNat_inj.mp h)
      have hcount : UInt64.ofNat n = w ↔ n % UInt64.size = w.toNat := by
        rw [← UInt64.toNat_inj, UInt64.toNat_ofNat']
      simp [hw, hne, hcount]

/-! ### Keys of one level -/

section

variable {d : Json}

theorem sourceMatches_iff {n : Nat} {p : Presence String} (h : Shows (fit n .text) (d.member? "source") p)
    (ws : List String) : Condition.sourceMatches (.ofList ws) p.get? = true ↔ SourceHas ws d := by
  have hwords : ∀ text, (Keywords.ofList ws).anyIn text = true ↔
      ∃ w ∈ folded ws, w <:+: Text.lower text.toList := by
    intro text
    simp [Keywords.anyIn, ← words_ofList, Text.occursIn_iff]
  rw [SourceHas, Json.at?_singleton]
  cases hp : p.get? with
  | none => simp [Condition.sourceMatches, h.ne_text hp]
  | some s =>
    have hs := h.text_iff.mp hp
    simp [Condition.sourceMatches, hs, hwords]

theorem languageMatches_iff {n : Nat} {p : Presence String} (h : Shows (fit n .text) (d.member? "lang") p)
    (ws : List String) : Condition.languageMatches (.ofList ws) p.get? = true ↔ LanguageIn ws d := by
  have hempty : (Keywords.ofList ws).words = [] ↔ folded ws = [] := by simp [← words_ofList]
  have hwords : ∀ text, (Keywords.ofList ws).anyIs text = true ↔ Text.lower text.toList ∈ folded ws := by
    intro text
    simp [Keywords.anyIs, ← words_ofList]
  rw [LanguageIn, Json.at?_singleton]
  cases hp : p.get? with
  | none => simp [Condition.languageMatches, h.ne_text hp]
  | some l =>
    have hl := h.text_iff.mp hp
    have hund : l = undeterminedLanguage ↔ l = "und" := Iff.rfl
    simp [Condition.languageMatches, hl, hempty, hwords, hund, and_assoc]

end

/-! ### Keys of several levels -/

section

variable {n : Nat} {d : Json} {t : Tweet}

theorem verified_of_shown (hk : Keyed (.record .tweet) d) (h : TweetShown n d t) :
    Condition.verified.holds t = true ↔ d.at? ["user", "verified"] = some (.bool true) := by
  rw [Condition.holds, Condition.isVerified]
  obtain ⟨hget, hnone⟩ | ⟨v, u, hget, hat, hkv, hfit⟩ := hk.nested (by decide) h.user
  · simp [hget, hnone]
  · rw [hget, hat, Json.at?_singleton, Option.any_some]
    exact verified_iff hkv hfit

theorem retweetOfVerified_of_shown (hk : Keyed (.record .tweet) d) (h : TweetShown n d t) :
    Condition.retweetOfVerified.holds t = true ↔
      d.at? ["retweeted_status", "user", "verified"] = some (.bool true) := by
  rw [Condition.holds]
  obtain ⟨hget, hnone⟩ | ⟨v, r, hget, hat, hkv, hfit⟩ := hk.nested (by decide) h.retweeted
  · simp [hget, hnone]
  · obtain ⟨m, hr⟩ := exists_tweetShown hkv hfit
    rw [hget, hat, Option.any_some]
    exact verified_of_shown hkv hr

/-- What stands under the keys of the entities, if they are there. -/
theorem exists_entities (hk : Keyed (.record .tweet) d) (h : TweetShown n d t) :
    ∃ m hashtags media, Shows (fit m (.listOf (.record .hashtag))) (d.at? ["entities", "hashtags"]) hashtags ∧
      Shows (fit m (.listOf (.record .media))) (d.at? ["entities", "media"]) media ∧
      t.hashtags? = hashtags.get? ∧ t.has .media = media.isPresent := by
  rw [Tweet.hashtags?, Tweet.has]
  obtain ⟨hget, hnone⟩ | ⟨v, e, hget, hat, hkv, hfit⟩ := hk.nested (by decide) h.entities
  · rw [hget, hnone, hnone]
    exact ⟨n, .absent, .absent, .absent, .absent, rfl, rfl⟩
  · obtain ⟨m, hhashtags, hmedia⟩ := exists_entitiesShown hkv hfit
    rw [hget, hat, hat, Json.at?_singleton, Json.at?_singleton]
    exact ⟨m, e.hashtags, e.media, hhashtags, hmedia, rfl, rfl⟩

/-- What stands under the key of all attached media, if it is there. -/
theorem exists_extendedMedia (hk : Keyed (.record .tweet) d) (h : TweetShown n d t) :
    ∃ m media, Shows (fit m (.listOf (.record .media))) (d.at? ["extended_entities", "media"]) media ∧
      t.extendedMedia? = media.get? ∧
      ∀ items, d.at? ["extended_entities", "media"] = some (.array items) →
        ∀ j ∈ items, Keyed (.record .media) j := by
  rw [Tweet.extendedMedia?]
  obtain ⟨hget, hnone⟩ | ⟨v, e, hget, hat, hkv, hfit⟩ := hk.nested (by decide) h.extendedEntities
  · rw [hget, hnone]
    exact ⟨n, .absent, .absent, rfl, fun _ hitems => absurd hitems (by simp)⟩
  · obtain ⟨m, hmedia⟩ := exists_extendedShown hkv hfit
    rw [hget, hat, Json.at?_singleton]
    refine ⟨m, e.media, hmedia, rfl, fun items hitems j hj => ?_⟩
    have hkitems := hkv.of_member? (f := ⟨"media", .nullable (.listOf (.record .media))⟩) (by decide) hitems
    exact hkitems.of_item hj

theorem hasMedia_of_shown (hk : Keyed (.record .tweet) d) (h : TweetShown n d t) (kind : MediaKind) :
    (Condition.hasMedia kind).holds t = true ↔ Attaches kind.wireName d := by
  obtain ⟨m, media, hmedia, ht, hkitems⟩ := exists_extendedMedia hk h
  rw [Condition.holds, ht, Attaches]
  obtain ⟨hnone, hitems⟩ | ⟨m', items, vs, hvs, hitems, hmap⟩ := hmedia.exists_items
  · rw [hnone]
    exact iff_of_false (by simp) fun ⟨items, h, _⟩ => hitems items h
  · have hkind : kind.wireName ≠ "" := by cases kind <;> decide
    have hany := any_of_mapM_eq_ok (q := fun v : Media => v.kind == kind.wireName) hmap fun j hj v hv => by
      rw [beq_iff_eq]
      exact kind_eq_iff (hkitems items hitems j hj) hv hkind
    rw [hvs, hitems, Option.any_some, hany]
    simp

theorem hashtagsNumber_of_shown (hk : Keyed (.record .tweet) d) (h : TweetShown n d t) {q : Nat → Bool}
    {p : Nat → Prop} (hpq : ∀ n, q n = true ↔ p n) :
    (t.hashtags?.any fun hs => q hs.length) = true ↔ HashtagsNumber p d := by
  obtain ⟨m, hashtags, media, hhashtags, -, ht, -⟩ := exists_entities hk h
  rw [ht, HashtagsNumber]
  obtain ⟨hnone, hitems⟩ | ⟨m', items, vs, hvs, hitems, hmap⟩ := hhashtags.exists_items
  · rw [hnone]
    exact iff_of_false (by simp) fun ⟨items, h, _⟩ => hitems items h
  · rw [hvs, hitems, Option.any_some, hpq, length_of_mapM_eq_ok hmap]
    simp

/-! ### Forms -/

theorem flag_of_shown (hk : Keyed (.record .tweet) d) (h : TweetShown n d t) (f : Flag) (a : Json) :
    f.condition.holds t = true ↔ meaning (.flag f) a d := by
  cases f with
  | withoutRetweets => simp [Flag.condition, Condition.holds, Tweet.has, meaning, h.retweeted.isPresent_eq]
  | withoutReplies => simp [Flag.condition, Condition.holds, meaning, h.inReplyTo.get?_eq_none_iff]
  | withoutLimitNotices => simp [Flag.condition, Condition.holds, Tweet.has, meaning, h.limitNotice]
  | withoutDeleteNotices => simp [Flag.condition, Condition.holds, Tweet.has, meaning, h.deleteNotice]
  | withoutMedia =>
    obtain ⟨m, hashtags, media, -, hmedia, -, ht⟩ := exists_entities hk h
    rw [Flag.condition, Condition.holds, ht, hmedia.isPresent_eq, meaning]
    cases d.at? ["entities", "media"] <;> simp
  | media kept kind =>
    have hkind := hasMedia_of_shown hk h kind
    cases kept with
    | true => exact hkind
    | false => rw [Flag.condition, Condition.holds, meaning, ← hkind, Bool.not_eq_true', Bool.not_eq_true]
  | device kept device =>
    have hdevice := sourceMatches_iff h.source [device.keyword]
    cases kept with
    | true => exact hdevice
    | false => simp [Flag.condition, Condition.fromDevice, Keywords.ofString, Condition.holds, meaning, ← hdevice]
  | withGeo =>
    have hgeo := h.geo.get?_eq_none_iff
    rw [meaning, Json.at?_singleton, ← hgeo, Flag.condition, Condition.holds, Option.isSome_iff_ne_none]
  | withoutGeo =>
    have hgeo := h.geo
    rw [meaning, Json.at?_singleton, Flag.condition, Condition.holds]
    generalize t.geo = p, d.member? "geo" = j at hgeo
    cases hgeo with
    | value hv _ => simp [Presence.isPresent, Presence.get?, hv]
    | _ => simp [Presence.isPresent, Presence.get?]
  | withoutHashtags =>
    have hnumber := hashtagsNumber_of_shown hk h (q := (· != 0)) (p := (· ≠ 0)) fun n => by simp
    rw [meaning, ← hnumber, Flag.condition, Condition.holds]
    cases t.hashtags? <;> simp
  | onlyVerified => exact verified_of_shown hk h
  | onlyRetweetsFromVerified => exact retweetOfVerified_of_shown hk h

theorem condition_of_shown (hk : Keyed (.record .tweet) d) (h : TweetShown n d t) {form : Form} {a : Json}
    {r : Rule} (hr : form.rule a = .ok r) : r.condition.holds t = true ↔ meaning form a d := by
  cases form with
  | flag f =>
    obtain rfl : f.rule = r := Except.ok.inj hr
    exact flag_of_shown hk h f a
  | keywords f =>
    obtain ⟨k, hk, rfl⟩ := map_eq_ok.mp (mapError_eq_ok.mp hr)
    obtain rfl := Keywords.ofArgument_eq_ok hk
    have hsource := sourceMatches_iff h.source (wordsOf a)
    have hlanguage := languageMatches_iff h.language (wordsOf a)
    rcases f with (_ | _) | (_ | _)
    · simp [KeywordForm.rule, KeywordForm.condition, Condition.holds, meaning, ← hsource]
    · exact hsource
    · simp [KeywordForm.rule, KeywordForm.condition, Condition.holds, meaning, ← hlanguage]
    · exact hlanguage
  | hashtags =>
    obtain rfl := Except.ok.inj hr
    exact hashtagsNumber_of_shown hk h (metBy_ofArgument a)

end

/-! ### Configs -/

/-- A compiled config keeps a tweet if and only if every declaration of the config, read as documented, holds of
the document from whose text the tweet was decoded. -/
theorem keeps_iff {c : Config} {s : Sieve} {d : Json} {t : Tweet} (hd : d.IsWritable)
    (hk : Keyed (.record .tweet) d) (hc : c.compile = .ok s) (ht : Tweet.decode d.text = .ok t) :
    s.keeps t = true ↔ ∀ decl ∈ c.declarations, Holds decl d := by
  rw [Tweet.decode_text hd] at ht
  obtain ⟨n, hshown⟩ := exists_tweetShown hk ht
  obtain ⟨hrule, hrules⟩ := rules_of_compile hc
  have hdecl : ∀ decl ∈ c.declarations, ∀ r, decl.rule = .ok r →
      (r.condition.holds t = true ↔ Holds decl d) := by
    intro decl _ r hr
    obtain ⟨form, hform, hr⟩ := form_of_rule hr
    rw [holds_iff hform, condition_of_shown hk hshown hr]
  rw [Sieve.keeps, Sieve.verdict, kept_judge, hrules, List.all_eq_true]
  constructor
  · intro hall decl hmem
    obtain ⟨r, hr⟩ := hrule decl hmem
    have hr' : r ∈ c.declarations.filterMap (·.rule.toOption) :=
      List.mem_filterMap.mpr ⟨decl, hmem, by rw [hr]; rfl⟩
    exact (hdecl decl hmem r hr).mp (hall r hr')
  · intro hall r hr
    obtain ⟨decl, hmem, hr⟩ := List.mem_filterMap.mp hr
    obtain ⟨r', hr'⟩ := hrule decl hmem
    obtain rfl : r' = r := by simpa [hr', Except.toOption] using hr
    exact (hdecl decl hmem r' hr').mpr (hall decl hmem)

/-- A tweet by a verified author, with a video attached. -/
def videoDocument : Json :=
  .object [("user", .object [("verified", .bool true)]),
    ("extended_entities", .object [("media", .array [.object [("type", .string "animated_gif")]])])]

/-- Two declarations, spelled in two ways. -/
def quietConfig : Config := ⟨[⟨"without_RTs", .null⟩, ⟨"WITHOUT-media-photos", .null⟩]⟩

theorem keeps_iff_quiet_video : ∃ s t, videoDocument.IsWritable ∧ Keyed (.record .tweet) videoDocument ∧
    quietConfig.compile = .ok s ∧ Tweet.decode videoDocument.text = .ok t ∧
    (s.keeps t = true ↔ ∀ decl ∈ quietConfig.declarations, Holds decl videoDocument) := by
  have hd : videoDocument.IsWritable := by
    simp [videoDocument, Json.AllNumbers, Json.AllNumbersItems, Json.AllNumbersMembers]
  have hk : Keyed (.record .tweet) videoDocument := by
    simp [videoDocument, Keyed, KeyedItems, KeyedMembers, RecordKind.fields, Shape.record?]
  obtain ⟨s, hs⟩ := exists_of_isOk (x := quietConfig.compile) (by decide +kernel)
  obtain ⟨t, ht⟩ := exists_of_isOk (x := Tweet.decode videoDocument.text) (by decide +kernel)
  exact ⟨s, t, hd, hk, hs, ht, keeps_iff hd hk hs ht⟩

end FeedSieve.Documented
