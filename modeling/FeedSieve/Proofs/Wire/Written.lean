import FeedSieve.Proofs.Tweet.Chain
import FeedSieve.Proofs.Wire.Lookup
import FeedSieve.Tweet.Printer

/-! Writing by shapes. The printer writes a record as the members of its fields, and there are only three
ways in which a field becomes a member: left out when it is empty, told apart from null, or always
written. So a written document fits the shape it was written by, with the value that was written. -/

namespace FeedSieve

def Presence.slot {α : Type} : Presence α → Option (Option α)
  | .absent => none
  | .null => some none
  | .value a => some (some a)

namespace Wire

open Json

@[simp] theorem presence_slot {α : Type} (p : Presence α) : presence p.slot = p := by cases p <;> rfl

@[simp] theorem slot_presence {α : Type} (slot : Option (Option α)) : (presence slot).slot = slot := by
  rcases slot with _ | _ | a <;> rfl

/-! ### Shapes as documents -/

def RecordKind.toJson : (k : RecordKind) → k.Val → Json
  | .tweet => Tweet.toJson
  | .user => User.toJson
  | .geo => Geo.toJson
  | .entities => Entities.toJson
  | .extendedEntities => ExtendedEntities.toJson
  | .hashtag => Hashtag.toJson
  | .media => Media.toJson

def Shape.toJson : (s : Shape) → s.Val → Json
  | .word .w32, n => wordJson n.toUInt64
  | .word .w64, n => wordJson n
  | .real, x => .number (.real x)
  | .text, s => .string s
  | .flag, b => .bool b
  | .anything, j => j
  | .nullable _, none => .null
  | .nullable s, some v => s.toJson v
  | .listOf s, vs => .array (vs.map s.toJson)
  | .record k, r => k.toJson r

def writeSlots : (fs : List Field) → Slots fs → List (String × Json)
  | [], () => []
  | f :: fs, (slot, slots) => memberOf f.name (slot.map f.shape.toJson) ++ writeSlots fs slots

def RecordKind.slots : (k : RecordKind) → k.Val → Slots k.fields
  | .tweet, t =>
    (t.id.map some, t.idText.map some, t.createdAt.map some, t.text.map some, t.source.slot, t.language.slot,
      t.user.slot, t.retweeted.slot, t.inReplyTo.slot, t.geo.slot, t.entities.slot, t.extendedEntities.slot,
      t.limitNotice, t.deleteNotice, ())
  | .user, u => (u.id.map some, u.screenName.map some, some (some u.verified), ())
  | .geo, g => (some g.kind, some g.coordinates, ())
  | .entities, e => (e.hashtags.slot, e.media.slot, ())
  | .extendedEntities, e => (e.media.slot, ())
  | .hashtag, h => (some h.text, some h.indices, ())
  | .media, m => (m.id.map some, some m.kind, m.url.map some, ())

theorem memberOf_map_some (name : String) (s : Shape) (v : Option s.Val) :
    memberOf name (v.map s.toJson) = memberOf name ((v.map some).map (Shape.nullable s).toJson) := by
  cases v <;> rfl

theorem memberOf_slot (name : String) (s : Shape) (p : Presence s.Val) :
    p.memberOf name s.toJson = memberOf name (p.slot.map (Shape.nullable s).toJson) := by
  cases p <;> rfl

theorem retweetedMember_eq (p : Presence Tweet) :
    retweetedMember p = p.memberOf "retweeted_status" (Shape.record .tweet).toJson := by
  cases p <;> rfl

/-- Every record is written field by field. -/
theorem toJson_eq_object (k : RecordKind) (r : k.Val) : k.toJson r = .object (writeSlots k.fields (k.slots r)) := by
  cases k with
  | tweet =>
    obtain ⟨id, idText, createdAt, text, source, language, user, retweeted, inReplyTo, geo, entities,
      extendedEntities, limitNotice, deleteNotice⟩ := r
    rw [RecordKind.toJson, Tweet.toJson]
    simp only [List.append_assoc, retweetedMember_eq]
    refine congrArg Json.object ?_
    refine congrArg₂ (· ++ ·) (memberOf_map_some "id" (.word .w64) id) ?_
    refine congrArg₂ (· ++ ·) (memberOf_map_some "id_str" .text idText) ?_
    refine congrArg₂ (· ++ ·) (memberOf_map_some "created_at" .text createdAt) ?_
    refine congrArg₂ (· ++ ·) (memberOf_map_some "text" .text text) ?_
    refine congrArg₂ (· ++ ·) (memberOf_slot "source" .text source) ?_
    refine congrArg₂ (· ++ ·) (memberOf_slot "lang" .text language) ?_
    refine congrArg₂ (· ++ ·) (memberOf_slot "user" (.record .user) user) ?_
    refine congrArg₂ (· ++ ·) (memberOf_slot "retweeted_status" (.record .tweet) retweeted) ?_
    refine congrArg₂ (· ++ ·) (memberOf_slot "in_reply_to_status_id" (.word .w64) inReplyTo) ?_
    refine congrArg₂ (· ++ ·) (memberOf_slot "geo" (.record .geo) geo) ?_
    refine congrArg₂ (· ++ ·) (memberOf_slot "entities" (.record .entities) entities) ?_
    refine congrArg₂ (· ++ ·) (memberOf_slot "extended_entities" (.record .extendedEntities) extendedEntities) ?_
    cases limitNotice <;> cases deleteNotice <;> rfl
  | user =>
    obtain ⟨id, screenName, verified⟩ := r
    cases id <;> cases screenName <;> rfl
  | entities =>
    obtain ⟨hashtags, media⟩ := r
    cases hashtags <;> cases media <;> rfl
  | extendedEntities =>
    obtain ⟨media⟩ := r
    cases media <;> rfl
  | media =>
    obtain ⟨id, kind, url⟩ := r
    cases id <;> cases url <;> rfl
  | geo => rfl
  | hashtag => rfl

theorem join_map_some {α : Type} (v : Option α) : (v.map some).join = v := by cases v <;> rfl

/-- A record is what its fields hold. -/
theorem buildRecord_slots (k : RecordKind) (r : k.Val) : buildRecord k (k.slots r) = r := by
  cases k with
  | tweet =>
    obtain ⟨⟩ := r
    simp only [RecordKind.slots, buildRecord, join_map_some, presence_slot]
  | user => simp only [RecordKind.slots, buildRecord, join_map_some, Option.join_some, Option.getD_some]
  | entities => simp only [RecordKind.slots, buildRecord, presence_slot]
  | extendedEntities => simp only [RecordKind.slots, buildRecord, presence_slot]
  | media => simp only [RecordKind.slots, buildRecord, join_map_some, Option.getD_some]
  | geo => rfl
  | hashtag => rfl

/-! ### Properties of what fields hold -/

def Slots.All (P : (s : Shape) → s.Val → Prop) : (fs : List Field) → Slots fs → Prop
  | [], () => True
  | f :: fs, (slot, slots) => (∀ v ∈ slot, P f.shape v) ∧ Slots.All P fs slots

section

variable {P Q : (s : Shape) → s.Val → Prop}

theorem Slots.All.mono {fs : List Field} {slots : Slots fs} (h : Slots.All P fs slots)
    (hpq : ∀ f ∈ fs, ∀ v, P f.shape v → Q f.shape v) : Slots.All Q fs slots := by
  induction fs with
  | nil => trivial
  | cons f fs ih =>
    obtain ⟨slot, slots⟩ := slots
    exact ⟨fun v hv => hpq f (by simp) v (h.1 v hv), ih h.2 fun g hg => hpq g (by simp [hg])⟩

theorem Slots.all_and {fs : List Field} {slots : Slots fs} :
    Slots.All (fun s v => P s v ∧ Q s v) fs slots ↔ Slots.All P fs slots ∧ Slots.All Q fs slots := by
  induction fs with
  | nil => simp [Slots.All]
  | cons f fs ih =>
    obtain ⟨slot, slots⟩ := slots
    simp only [Slots.All, ih, forall_and]
    constructor
    · rintro ⟨⟨hp, hq⟩, hps, hqs⟩
      exact ⟨⟨hp, hps⟩, hq, hqs⟩
    · rintro ⟨⟨hp, hps⟩, hq, hqs⟩
      exact ⟨⟨hp, hq⟩, hps, hqs⟩

/-- What holds of the documents of all fields holds of the members written. -/
theorem forall_mem_writeSlots {p : Json → Prop} {fs : List Field} {slots : Slots fs} :
    (∀ m ∈ writeSlots fs slots, p m.2) ↔ Slots.All (fun s v => p (s.toJson v)) fs slots := by
  induction fs with
  | nil => simp [writeSlots, Slots.All]
  | cons f fs ih =>
    obtain ⟨slot, slots⟩ := slots
    simp only [writeSlots, Slots.All, List.forall_mem_append, ih]
    cases slot <;> simp [memberOf]

theorem forall_mem_join {α : Type} {p : Option α → Prop} {slot : Option (Option α)} (h : ∀ v ∈ slot, p v) :
    ∀ v ∈ slot.join.map some, p v := by
  rcases slot with _ | _ | a
  · exact h
  · rintro v ⟨⟩
  · exact h

theorem forall_mem_slot_presence {α : Type} {p : Option α → Prop} {slot : Option (Option α)}
    (h : ∀ v ∈ slot, p v) : ∀ v ∈ (presence slot).slot, p v := by
  rwa [slot_presence]

theorem forall_mem_some_getD {α : Type} {p : α → Prop} {slot : Option α} {a : α} (h : ∀ v ∈ slot, p v)
    (ha : p a) : ∀ v ∈ some (slot.getD a), p v := by
  cases slot with
  | none =>
    rintro v ⟨⟩
    exact ha
  | some b => exact h

/-- What holds of all that was given for the fields of a record, and of the values that fields have by
default, holds of all that is written for them. -/
theorem Slots.All.slots_buildRecord {k : RecordKind} {slots : Slots k.fields} (h : Slots.All P k.fields slots)
    (hflag : P (.nullable .flag) (some false)) (htext : P .text "") (hreals : P (.listOf .real) [])
    (hwords : P (.listOf (.word .w32)) []) : Slots.All P k.fields (k.slots (buildRecord k slots)) := by
  cases k with
  | tweet =>
    obtain ⟨hid, hidText, hcreatedAt, htweetText, hsource, hlanguage, huser, hretweeted, hinReplyTo, hgeo,
      hentities, hextendedEntities, hlimit, hdelete, -⟩ := h
    refine ⟨forall_mem_join hid, forall_mem_join hidText, forall_mem_join hcreatedAt, forall_mem_join htweetText,
      ?_⟩
    exact ⟨forall_mem_slot_presence hsource, forall_mem_slot_presence hlanguage, forall_mem_slot_presence huser,
      forall_mem_slot_presence hretweeted, forall_mem_slot_presence hinReplyTo, forall_mem_slot_presence hgeo,
      forall_mem_slot_presence hentities, forall_mem_slot_presence hextendedEntities, hlimit, hdelete, trivial⟩
  | user =>
    obtain ⟨id, screenName, verified, ⟨⟩⟩ := slots
    obtain ⟨hid, hscreenName, hverified, -⟩ := h
    refine ⟨forall_mem_join hid, forall_mem_join hscreenName, ?_, trivial⟩
    rcases verified with _ | _ | b
    · rintro v ⟨⟩
      exact hflag
    · rintro v ⟨⟩
      exact hflag
    · exact hverified
  | geo => exact ⟨forall_mem_some_getD h.1 htext, forall_mem_some_getD h.2.1 hreals, trivial⟩
  | entities => exact ⟨forall_mem_slot_presence h.1, forall_mem_slot_presence h.2.1, trivial⟩
  | extendedEntities => exact ⟨forall_mem_slot_presence h.1, trivial⟩
  | hashtag => exact ⟨forall_mem_some_getD h.1 htext, forall_mem_some_getD h.2.1 hwords, trivial⟩
  | media => exact ⟨forall_mem_join h.1, forall_mem_some_getD h.2.1 htext, forall_mem_join h.2.2.1, trivial⟩

end

end Wire

end FeedSieve
