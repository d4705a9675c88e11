import FeedSieve.Proofs.Tweet.Keys
import FeedSieve.Tweet.Path

/-! Presence on the wire. A path of a tweet is there just if its keys lead through the objects of the document from
which the tweet was decoded and the last of them is there, null or not. The tweet keeps absent, null and value
apart at each level, so nothing of this is lost in decoding. -/

namespace FeedSieve

namespace Json

/-! ### Keys that lead through a document -/

def HasMember (j : Json) (key : String) (v : Json) : Prop := ∃ members, j = .object members ∧ (key, v) ∈ members

/-- Each key but the last holds an object, in which the next one is looked for; the last one is there, whatever it
holds. -/
def Leads : List String → Json → Prop
  | [], _ => False
  | [key], j => ∃ v, j.HasMember key v
  | key :: key' :: keys, j => ∃ inner, j.HasMember key (.object inner) ∧ Leads (key' :: keys) (.object inner)

theorem hasMember_object_iff {key : String} {v : Json} {members : List (String × Json)} :
    (object members).HasMember key v ↔ v ∈ Config.valuesOf key members := by
  simp [HasMember, Wire.mem_valuesOf]

theorem leads_singleton_iff (key : String) (j : Json) : Leads [key] j ↔ (j.at? [key]).isSome = true := by
  rw [at?_singleton]
  cases j with
  | object members =>
    simp only [Leads, hasMember_object_iff, member?, Wire.lookup_eq_head?]
    cases Config.valuesOf key members <;> simp
  | _ => simp [Leads, HasMember, member?]

theorem leads_pair_iff {key : String} {j : Json} (h : ∀ v, j.HasMember key v ↔ j.member? key = some v)
    (key' : String) : Leads [key, key'] j ↔ (j.at? [key, key']).isSome = true := by
  show (∃ inner, j.HasMember key (.object inner) ∧ Leads [key'] (.object inner)) ↔ _
  simp only [h, leads_singleton_iff, at?_singleton, at?_cons_cons]
  cases hv : j.member? key with
  | none => simp
  | some v => cases v <;> simp [member?]

end Json

namespace Wire

open Json

/-- A known key is given once at most in a record that fits, so looking it up finds all there is under it. -/
theorem Keyed.hasMember_iff {k : RecordKind} {d : Json} (hk : Keyed (.record k) d) {n : Nat} {r : k.Val}
    (hr : fit n (.record k) d = .ok r) {key : String} (hkey : key ∈ k.fields.map (·.name)) (v : Json) :
    d.HasMember key v ↔ d.member? key = some v := by
  obtain ⟨m, slots, members, rfl, hslots, -⟩ := hk.exists_object hr
  obtain ⟨f, hf, rfl⟩ := List.mem_map.mp hkey
  have hone := (Slots.exists_filled_iff.mp ⟨slots, hslots⟩ f hf).1
  rw [hasMember_object_iff, member?, lookup_eq_head?]
  generalize Config.valuesOf f.name members = vs at hone
  rcases vs with _ | ⟨w, _ | ⟨u, us⟩⟩
  · simp
  · simp [eq_comm]
  · exact absurd hone (by simp)

/-- What is asked of the value of a key that may hold a record comes to what is there under a key of that record. -/
theorem Keyed.any_nested {k k' : RecordKind} {d : Json} (hk : Keyed (.record k) d) {key key' : String}
    (hf : ⟨key, .nullable (.record k')⟩ ∈ k.fields) {n : Nat} {p : Presence k'.Val}
    (h : Shows (fit n (.record k')) (d.member? key) p) {q : k'.Val → Bool}
    (hq : ∀ v r, Keyed (.record k') v → fit n (.record k') v = .ok r → q r = (v.member? key').isSome) :
    p.get?.any q = (d.at? [key, key']).isSome := by
  obtain ⟨hget, hnone⟩ | ⟨v, r, hget, hat, hkv, hfit⟩ := hk.nested hf h
  · rw [hget, hnone]
    rfl
  · rw [hget, hat, at?_singleton, Option.any_some, hq v r hkv hfit]

/-- A path is there if something stands at the end of its keys. -/
theorem Keyed.has_eq {d : Json} (hk : Keyed (.record .tweet) d) {n : Nat} {t : Tweet}
    (ht : fit n (.record .tweet) d = .ok t) (p : Tweet.Path) : t.has p = (d.at? p.keys).isSome := by
  obtain ⟨m, h⟩ := exists_tweetShown hk ht
  have hone : ∀ key, (d.member? key).isSome = (d.at? [key]).isSome := fun key => by rw [at?_singleton]
  cases p with
  | retweet => exact h.retweeted.isPresent_eq.trans (hone _)
  | replyTarget => exact h.inReplyTo.isPresent_eq.trans (hone _)
  | limitNotice => exact h.limitNotice.trans (hone _)
  | deleteNotice => exact h.deleteNotice.trans (hone _)
  | entities => exact h.entities.isPresent_eq.trans (hone _)
  | extendedEntities => exact h.extendedEntities.isPresent_eq.trans (hone _)
  | source => exact h.source.isPresent_eq.trans (hone _)
  | language => exact h.language.isPresent_eq.trans (hone _)
  | geo => exact h.geo.isPresent_eq.trans (hone _)
  | user => exact h.user.isPresent_eq.trans (hone _)
  | retweetUser =>
    refine hk.any_nested (by decide) h.retweeted fun v r hkv hr => ?_
    obtain ⟨_, hshown⟩ := exists_tweetShown hkv hr
    exact hshown.user.isPresent_eq
  | hashtags =>
    refine hk.any_nested (by decide) h.entities fun v e hkv he => ?_
    obtain ⟨_, hhashtags, -⟩ := exists_entitiesShown hkv he
    exact hhashtags.isPresent_eq
  | media =>
    refine hk.any_nested (by decide) h.entities fun v e hkv he => ?_
    obtain ⟨_, -, hmedia⟩ := exists_entitiesShown hkv he
    exact hmedia.isPresent_eq
  | extendedMedia =>
    refine hk.any_nested (by decide) h.extendedEntities fun v e hkv he => ?_
    obtain ⟨_, hmedia⟩ := exists_extendedShown hkv he
    exact hmedia.isPresent_eq

end Wire

namespace Tweet

open Json Wire

/-! ### Paths in writing -/

namespace Path

/-- The pieces of a text between its points. -/
def segments (s : String) : List String := (s.toList.splitOn '.').map String.ofList

theorem segments_text (p : Path) : segments p.text = p.keys := by cases p <;> decide +kernel

theorem text_of_parse {s : String} {p : Path} (h : parse s = .ok p) : p.text = s := by
  rw [parse] at h
  split at h
  · next q hq =>
    obtain rfl := Except.ok.inj h
    simpa using List.find?_some hq
  · exact absurd h (by simp)

/-- There is one key, or there are two, of which the first is a key of tweets. -/
theorem keys_cases (p : Path) : (∃ key, p.keys = [key]) ∨
    ∃ key key', p.keys = [key, key'] ∧ key ∈ RecordKind.tweet.fields.map (·.name) := by
  cases p with
  | retweetUser | hashtags | media | extendedMedia => exact .inr ⟨_, _, rfl, by decide⟩
  | _ => exact .inl ⟨_, rfl⟩

end Path

theorem leads_keys_iff {d : Json} (hk : Keyed (.record .tweet) d) {n : Nat} {t : Tweet}
    (ht : fit n (.record .tweet) d = .ok t) (p : Path) : Leads p.keys d ↔ t.has p = true := by
  rw [hk.has_eq ht]
  obtain ⟨key, hkeys⟩ | ⟨key, key', hkeys, hkey⟩ := p.keys_cases
  · rw [hkeys]
    exact leads_singleton_iff key d
  · rw [hkeys]
    exact leads_pair_iff (hk.hasMember_iff ht hkey) key'

/-- A path, read from a text, is there in a decoded tweet if and only if the pieces of the text lead through the
document: every one but the last is a key that holds an object, and the last is a key of the object that is reached,
whatever it holds, null included. So a path of several keys is not there where the first is absent or null. -/
theorem has_iff_leads {d : Json} {t : Tweet} {s : String} {p : Path} (hd : d.IsWritable)
    (hk : Keyed (.record .tweet) d) (ht : decode d.text = .ok t) (hp : Path.parse s = .ok p) :
    (t.has p = true ↔ Leads (Path.segments s) d) ∧
      ∀ parent key keys, Path.segments s = parent :: key :: keys →
        (∀ v, d.HasMember parent v → v = .null) → t.has p = false := by
  rw [decode_text hd] at ht
  obtain rfl := Path.text_of_parse hp
  have hhas : t.has p = true ↔ Leads (Path.segments p.text) d := by
    rw [Path.segments_text]
    exact (leads_keys_iff hk ht p).symm
  refine ⟨hhas, fun parent key keys hsegments hnull => ?_⟩
  rw [← Bool.not_eq_true, hhas, hsegments]
  rintro ⟨inner, hmember, -⟩
  exact Json.noConfusion (hnull _ hmember)

/-- A tweet with null for its hashtags and null for the record that would hold its extended media. -/
def nullHashtags : Json := .object [("extended_entities", .null), ("entities", .object [("hashtags", .null)])]

theorem has_iff_leads_null : ∃ t, decode nullHashtags.text = .ok t ∧ t.has .hashtags = true ∧
    t.has .extendedMedia = false := by
  have hd : nullHashtags.IsWritable := by simp [nullHashtags, IsWritable, AllNumbers, AllNumbersMembers]
  have hk : Keyed (.record .tweet) nullHashtags := by
    simp [nullHashtags, Keyed, KeyedMembers, RecordKind.fields, Shape.record?]
  obtain ⟨t, ht⟩ : ∃ t, decode nullHashtags.text = .ok t := by
    rw [decode_text hd]
    exact exists_of_isOk (by decide +kernel)
  have hhashtags : Leads ["entities", "hashtags"] nullHashtags :=
    ⟨_, ⟨_, rfl, List.mem_cons_of_mem _ List.mem_cons_self⟩, _, _, rfl, List.mem_cons_self⟩
  have hnone : ∀ v, nullHashtags.HasMember "extended_entities" v → v = .null := by
    rintro v ⟨members, heq, hv⟩
    obtain rfl := Json.object.inj heq
    simpa using hv
  refine ⟨t, ht, ?_, ?_⟩
  · refine (has_iff_leads (s := "entities.hashtags") hd hk ht rfl).1.mpr ?_
    rwa [show Path.segments "entities.hashtags" = ["entities", "hashtags"] by decide +kernel]
  · exact (has_iff_leads (s := "extended_entities.media") hd hk ht rfl).2 "extended_entities" "media" []
      (by decide +kernel) hnone

end Tweet

end FeedSieve
