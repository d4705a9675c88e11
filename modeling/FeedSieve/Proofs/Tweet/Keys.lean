import FeedSieve.Proofs.Wire.Lookup

/-! Tweets by the keys of their documents. Where every record is written as an object, each field that a
condition may ask for shows what stands under its key. -/

namespace FeedSieve.Wire

open Json

/-! ### Records written as objects -/

/-- The kind of the records that a shape admits, if it admits any. -/
def Shape.record? : Shape → Option RecordKind
  | .nullable s => s.record?
  | .record k => some k
  | _ => none

/-- What the lists hold that a shape admits, if it admits any. -/
def Shape.item? : Shape → Option Shape
  | .nullable s => s.item?
  | .listOf s => some s
  | _ => none

mutual

/-- No record of the document is written as a list of its fields. -/
def Keyed (s : Shape) : Json → Prop
  | .array items => s.record? = none ∧ ∀ item ∈ s.item?, KeyedItems item items
  | .object members => ∀ k ∈ s.record?, KeyedMembers k.fields members
  | _ => True

/-- No record of the items is written as a list of its fields. -/
def KeyedItems (s : Shape) : List Json → Prop
  | [] => True
  | j :: js => Keyed s j ∧ KeyedItems s js

/-- No record under the names of the fields is written as a list of its fields. -/
def KeyedMembers (fs : List Field) : List (String × Json) → Prop
  | [] => True
  | (name, v) :: ms => (∀ f ∈ fs, f.name = name → Keyed f.shape v) ∧ KeyedMembers fs ms

end

theorem keyedItems_iff {s : Shape} {items : List Json} : KeyedItems s items ↔ ∀ j ∈ items, Keyed s j := by
  induction items with
  | nil => simp [KeyedItems]
  | cons j js ih => simp [KeyedItems, ih]

theorem keyedMembers_iff {fs : List Field} {members : List (String × Json)} :
    KeyedMembers fs members ↔ ∀ m ∈ members, ∀ f ∈ fs, f.name = m.1 → Keyed f.shape m.2 := by
  induction members with
  | nil => simp [KeyedMembers]
  | cons m ms ih =>
    obtain ⟨name, v⟩ := m
    simp [KeyedMembers, ih]

theorem keyed_nullable (s : Shape) (j : Json) : Keyed (.nullable s) j ↔ Keyed s j := by cases j <;> exact Iff.rfl

theorem mem_of_lookup {key : String} {v : Json} {members : List (String × Json)}
    (h : members.lookup key = some v) : (key, v) ∈ members := by
  induction members with
  | nil => exact absurd h (by simp)
  | cons m ms ih =>
    obtain ⟨name, w⟩ := m
    rw [List.lookup_cons] at h
    by_cases hname : key = name
    · subst hname
      simp only [beq_self_eq_true, Option.some.injEq] at h
      simp [h]
    · rw [beq_eq_false_iff_ne.mpr hname] at h
      exact List.mem_cons_of_mem _ (ih h)

theorem Keyed.of_member? {k : RecordKind} {d v : Json} (h : Keyed (.record k) d) {f : Field}
    (hf : f ∈ k.fields) (hv : d.member? f.name = some v) : Keyed f.shape v := by
  cases d with
  | object members =>
    have hmembers := keyedMembers_iff.mp (h k rfl)
    exact hmembers (f.name, v) (mem_of_lookup hv) f hf rfl
  | _ => exact absurd hv (by simp [member?])

theorem Keyed.of_item {s : Shape} {items : List Json} (h : Keyed (.nullable (.listOf s)) (.array items))
    {j : Json} (hj : j ∈ items) : Keyed s j :=
  keyedItems_iff.mp (h.2 s rfl) j hj

/-- A record that is written as an object is filled from its members. -/
theorem Keyed.exists_object {k : RecordKind} {d : Json} (h : Keyed (.record k) d) {n : Nat} {r : k.Val}
    (hr : fit n (.record k) d = .ok r) :
    ∃ m slots members, d = .object members ∧
      Slots.Filled (fit m) members k.fields (Slots.empty k.fields) slots ∧ buildRecord k slots = r := by
  obtain ⟨items, rfl⟩ | ⟨members, rfl⟩ := exists_of_fit_record hr
  · exact absurd h.1 (by simp [Shape.record?])
  · obtain ⟨m, slots, -, hslots, hbuild⟩ := fit_object_eq_ok.mp hr
    exact ⟨m, slots, members, rfl, hslots, hbuild⟩

/-! ### What the fields show -/

/-- The fields of a tweet that conditions ask for show what stands under their keys. -/
structure TweetShown (n : Nat) (d : Json) (t : Tweet) : Prop where
  source : Shows (fit n .text) (d.member? "source") t.source
  language : Shows (fit n .text) (d.member? "lang") t.language
  user : Shows (fit n (.record .user)) (d.member? "user") t.user
  retweeted : Shows (fit n (.record .tweet)) (d.member? "retweeted_status") t.retweeted
  inReplyTo : Shows (fit n (.word .w64)) (d.member? "in_reply_to_status_id") t.inReplyTo
  geo : Shows (fit n (.record .geo)) (d.member? "geo") t.geo
  entities : Shows (fit n (.record .entities)) (d.member? "entities") t.entities
  extendedEntities :
    Shows (fit n (.record .extendedEntities)) (d.member? "extended_entities") t.extendedEntities
  limitNotice : t.limitNotice.isSome = (d.member? "limit").isSome
  deleteNotice : t.deleteNotice.isSome = (d.member? "delete").isSome

section

variable {α : Type} {fit : Json → Except ReadError α} {j : Option Json} {p : Presence α}

theorem Shows.isPresent_eq (h : Shows fit j p) : p.isPresent = j.isSome := by cases h <;> rfl

theorem Shows.get?_eq_none_iff (h : Shows fit j p) : p.get? = none ↔ j = none ∨ j = some .null := by
  cases h with
  | value hv _ => simp [Presence.get?, hv]
  | _ => simp [Presence.get?]

end

theorem Shows.text_iff {n : Nat} {j : Option Json} {p : Presence String} (h : Shows (fit n .text) j p)
    {s : String} : p.get? = some s ↔ j = some (.string s) := by
  cases h with
  | value _ h =>
    rw [fit_text_eq_ok] at h
    simp [Presence.get?, h]
  | _ => simp [Presence.get?]

theorem Shows.ne_text {n : Nat} {j : Option Json} {p : Presence String} (h : Shows (fit n .text) j p)
    (hp : p.get? = none) (s : String) : j ≠ some (.string s) := by
  intro hj
  rw [h.text_iff.mpr hj] at hp
  exact absurd hp (by simp)

/-- What a list shows are its items. -/
theorem Shows.exists_items {n : Nat} {s : Shape} {j : Option Json} {p : Presence (List s.Val)}
    (h : Shows (fit n (.listOf s)) j p) :
    p.get? = none ∧ (∀ items, j ≠ some (.array items)) ∨
      ∃ m items vs, p.get? = some vs ∧ j = some (.array items) ∧ items.mapM (fit m s) = .ok vs := by
  cases h with
  | value _ h =>
    obtain ⟨m, items, -, rfl, hitems⟩ := fit_listOf_eq_ok.mp h
    exact .inr ⟨m, items, _, rfl, rfl, hitems⟩
  | _ => exact .inl ⟨rfl, by simp⟩

/-- Inside of a record, a key that may hold a record shows none, and then there is nothing under any key of it, or
shows the one that its value fits. -/
theorem Keyed.nested {k k' : RecordKind} {d : Json} (hk : Keyed (.record k) d) {key : String}
    (hf : ⟨key, .nullable (.record k')⟩ ∈ k.fields) {n : Nat} {p : Presence k'.Val}
    (h : Shows (fit n (.record k')) (d.member? key) p) :
    (p.get? = none ∧ ∀ key' keys, d.at? (key :: key' :: keys) = none) ∨
      ∃ v r, p.get? = some r ∧ (∀ key' keys, d.at? (key :: key' :: keys) = v.at? (key' :: keys)) ∧
        Keyed (.record k') v ∧ fit n (.record k') v = .ok r := by
  simp only [at?_cons_cons]
  cases hv : d.member? key with
  | none =>
    rw [hv] at h
    cases h
    exact .inl ⟨rfl, fun _ _ => rfl⟩
  | some v =>
    have hkv : Keyed (.record k') v := (keyed_nullable _ v).mp (hk.of_member? hf hv)
    rw [hv] at h
    cases h with
    | null => exact .inl ⟨rfl, fun _ _ => rfl⟩
    | value _ hfit => exact .inr ⟨v, _, rfl, fun _ _ => rfl, hkv, hfit⟩

theorem isSome_of_fillsSlot {α : Type} {fit : Json → Except ReadError α} {key : String}
    {members : List (String × Json)} {slot : Option α}
    (h : FillsSlot fit none (Config.valuesOf key members) slot) :
    slot.isSome = ((object members).member? key).isSome := by
  obtain ⟨hv, rfl⟩ | ⟨v, a, hv, -, rfl⟩ := member?_of_fillsSlot h <;> rw [hv] <;> rfl

section

variable {n : Nat} {d : Json}

theorem exists_tweetShown {t : Tweet} (hk : Keyed (.record .tweet) d) (h : fit n (.record .tweet) d = .ok t) :
    ∃ m, TweetShown m d t := by
  obtain ⟨m, slots, members, rfl, hslots, rfl⟩ := hk.exists_object h
  obtain ⟨id, idText, createdAt, text, source, language, user, retweeted, inReplyTo, geo, entities,
    extendedEntities, limitNotice, deleteNotice, ⟨⟩⟩ := slots
  simp only [RecordKind.fields, Slots.empty, Slots.Filled, fit_nullable] at hslots
  obtain ⟨-, -, -, -, hsource, hlanguage, huser, hretweeted, hinReplyTo, hgeo, hentities, hextended, hlimit,
    hdelete, -⟩ := hslots
  exact ⟨m, shows_of_fillsSlot hsource, shows_of_fillsSlot hlanguage, shows_of_fillsSlot huser,
    shows_of_fillsSlot hretweeted, shows_of_fillsSlot hinReplyTo, shows_of_fillsSlot hgeo,
    shows_of_fillsSlot hentities, shows_of_fillsSlot hextended, isSome_of_fillsSlot hlimit,
    isSome_of_fillsSlot hdelete⟩

/-- An author is verified if the key says so; absent and null do not. -/
theorem verified_iff {u : User} (hk : Keyed (.record .user) d) (h : fit n (.record .user) d = .ok u) :
    u.verified = true ↔ d.member? "verified" = some (.bool true) := by
  obtain ⟨m, slots, members, rfl, hslots, rfl⟩ := hk.exists_object h
  obtain ⟨id, screenName, verified, ⟨⟩⟩ := slots
  simp only [RecordKind.fields, Slots.empty, Slots.Filled, fit_nullable] at hslots
  obtain ⟨-, -, hverified, -⟩ := hslots
  obtain ⟨hv, rfl⟩ | ⟨v, a, hv, ha, rfl⟩ := member?_of_fillsSlot hverified
  · simp [buildRecord, hv]
  · cases v with
    | null =>
      obtain rfl : none = a := Except.ok.inj ha
      simp [buildRecord, hv]
    | _ =>
      obtain ⟨b, hb, rfl⟩ := map_eq_ok.mp ha
      rw [fit_flag_eq_ok] at hb
      simp_all [buildRecord]

theorem exists_entitiesShown {e : Entities} (hk : Keyed (.record .entities) d)
    (h : fit n (.record .entities) d = .ok e) :
    ∃ m, Shows (fit m (.listOf (.record .hashtag))) (d.member? "hashtags") e.hashtags ∧
      Shows (fit m (.listOf (.record .media))) (d.member? "media") e.media := by
  obtain ⟨m, slots, members, rfl, hslots, rfl⟩ := hk.exists_object h
  obtain ⟨hashtags, media, ⟨⟩⟩ := slots
  simp only [RecordKind.fields, Slots.empty, Slots.Filled, fit_nullable] at hslots
  obtain ⟨hhashtags, hmedia, -⟩ := hslots
  exact ⟨m, shows_of_fillsSlot hhashtags, shows_of_fillsSlot hmedia⟩

theorem exists_extendedShown {e : ExtendedEntities} (hk : Keyed (.record .extendedEntities) d)
    (h : fit n (.record .extendedEntities) d = .ok e) :
    ∃ m, Shows (fit m (.listOf (.record .media))) (d.member? "media") e.media := by
  obtain ⟨m, slots, members, rfl, hslots, rfl⟩ := hk.exists_object h
  obtain ⟨media, ⟨⟩⟩ := slots
  simp only [RecordKind.fields, Slots.empty, Slots.Filled, fit_nullable] at hslots
  exact ⟨m, shows_of_fillsSlot hslots.1⟩

/-- A kind of media that is not empty is named by the key. -/
theorem kind_eq_iff {media : Media} (hk : Keyed (.record .media) d) (h : fit n (.record .media) d = .ok media)
    {kind : String} (hkind : kind ≠ "") : media.kind = kind ↔ d.member? "type" = some (.string kind) := by
  obtain ⟨m, slots, members, rfl, hslots, rfl⟩ := hk.exists_object h
  obtain ⟨id, type, url, ⟨⟩⟩ := slots
  simp only [RecordKind.fields, Slots.empty, Slots.Filled] at hslots
  obtain ⟨-, htype, -, -⟩ := hslots
  obtain ⟨hv, rfl⟩ | ⟨v, a, hv, ha, rfl⟩ := member?_of_fillsSlot htype
  · simp [buildRecord, hv, Ne.symm hkind]
  · rw [fit_text_eq_ok] at ha
    simp [buildRecord, hv, ha]

end

end FeedSieve.Wire
