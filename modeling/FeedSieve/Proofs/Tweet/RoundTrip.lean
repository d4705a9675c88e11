import FeedSieve.Proofs.Wire.Nested

/-! Decoding undoes writing. A tweet without doubles that is written at a depth the decoder allows is
decoded as it was, key by key, null apart from absent; and what was decoded from a text can be written and
decoded again, as long as the text leaves room for the lists that writing may add. -/

namespace FeedSieve.Tweet

open Json Wire

/-! ### Doubles -/

section

variable {s : Shape}

theorem isFloatFree_nullable {p : Presence s.Val} (h : ∀ a, p = .value a → (s.toJson a).IsFloatFree) :
    ∀ v ∈ p.slot, ((Shape.nullable s).toJson v).IsFloatFree := by
  cases p with
  | absent => rintro v ⟨⟩
  | null =>
    rintro v ⟨⟩
    trivial
  | value a =>
    rintro v ⟨⟩
    exact h a rfl

theorem isFloatFree_omitted {v : Option s.Val} (h : ∀ a, (s.toJson a).IsFloatFree) :
    ∀ w ∈ v.map some, ((Shape.nullable s).toJson w).IsFloatFree := by
  cases v with
  | none => rintro w ⟨⟩
  | some a =>
    rintro w ⟨⟩
    exact h a

theorem isFloatFree_listOf {vs : List s.Val} (h : ∀ v ∈ vs, (s.toJson v).IsFloatFree) :
    ((Shape.listOf s).toJson vs).IsFloatFree :=
  allNumbers_array.mpr (List.forall_mem_map.mpr h)

theorem isFloatFree_record {k : RecordKind} {r : k.Val}
    (h : Slots.All (fun s v => (s.toJson v).IsFloatFree) k.fields (k.slots r)) :
    ((Shape.record k).toJson r).IsFloatFree := by
  have hjson : (Shape.record k).toJson r = .object (writeSlots k.fields (k.slots r)) := toJson_eq_object k r
  rw [hjson]
  exact allNumbers_object.mpr (forall_mem_writeSlots.mpr h)

theorem isFloatFree_word (size : WordSize) (w : size.Val) : ((Shape.word size).toJson w).IsFloatFree := by
  cases size <;> trivial

theorem isFloatFree_text (s : String) : (Shape.text.toJson s).IsFloatFree := trivial

theorem isFloatFree_user (u : User) : ((Shape.record .user).toJson u).IsFloatFree := by
  refine isFloatFree_record ⟨?_, ?_, ?_, trivial⟩
  · exact isFloatFree_omitted (s := .word .w64) (isFloatFree_word .w64)
  · exact isFloatFree_omitted (s := .text) isFloatFree_text
  · rintro v ⟨⟩
    trivial

theorem isFloatFree_geo {g : Geo} (h : g.coordinates = []) : ((Shape.record .geo).toJson g).IsFloatFree := by
  refine isFloatFree_record ⟨?_, ?_, trivial⟩
  · rintro v ⟨⟩
    trivial
  · rintro v ⟨⟩
    rw [h]
    trivial

theorem isFloatFree_hashtag (h : Hashtag) : ((Shape.record .hashtag).toJson h).IsFloatFree := by
  refine isFloatFree_record ⟨?_, ?_, trivial⟩
  · rintro v ⟨⟩
    trivial
  · rintro v ⟨⟩
    exact isFloatFree_listOf (s := .word .w32) fun i _ => isFloatFree_word .w32 i

theorem isFloatFree_media (m : Media) : ((Shape.record .media).toJson m).IsFloatFree := by
  refine isFloatFree_record ⟨?_, ?_, ?_, trivial⟩
  · exact isFloatFree_omitted (s := .word .w64) (isFloatFree_word .w64)
  · rintro v ⟨⟩
    trivial
  · exact isFloatFree_omitted (s := .text) isFloatFree_text

theorem isFloatFree_mediaList (ms : List Media) : ((Shape.listOf (.record .media)).toJson ms).IsFloatFree :=
  isFloatFree_listOf (s := .record .media) fun m _ => isFloatFree_media m

theorem isFloatFree_entities (e : Entities) : ((Shape.record .entities).toJson e).IsFloatFree := by
  refine isFloatFree_record ⟨?_, ?_, trivial⟩
  · exact isFloatFree_nullable (s := .listOf (.record .hashtag)) fun hs _ =>
      isFloatFree_listOf (s := .record .hashtag) fun h _ => isFloatFree_hashtag h
  · exact isFloatFree_nullable (s := .listOf (.record .media)) fun ms _ => isFloatFree_mediaList ms

theorem isFloatFree_extendedEntities (e : ExtendedEntities) :
    ((Shape.record .extendedEntities).toJson e).IsFloatFree := by
  refine isFloatFree_record ⟨?_, trivial⟩
  exact isFloatFree_nullable (s := .listOf (.record .media)) fun ms _ => isFloatFree_mediaList ms

end

/-- A tweet without doubles is written without doubles. -/
theorem isFloatFree_toJson {t : Tweet} (h : t.IsFloatFree) : t.toJson.IsFloatFree := by
  induction t using Tweet.inductionOn with
  | h t ih =>
    obtain ⟨⟨hgeo, hnotices⟩, hretweeted⟩ := isFloatFree_iff.mp h
    have hword := fun {v : Option UInt64} =>
      isFloatFree_omitted (s := .word .w64) (v := v) (isFloatFree_word .w64)
    have htext := fun {v : Option String} => isFloatFree_omitted (s := .text) (v := v) isFloatFree_text
    have hpresentText := fun {p : Presence String} =>
      isFloatFree_nullable (s := .text) (p := p) fun a _ => isFloatFree_text a
    refine isFloatFree_record (k := .tweet) ⟨hword, htext, htext, htext, hpresentText, hpresentText, ?_⟩
    refine ⟨?_, ?_, ?_, ?_, ?_, ?_, ?_, ?_, trivial⟩
    · exact isFloatFree_nullable (s := .record .user) fun u _ => isFloatFree_user u
    · exact isFloatFree_nullable (s := .record .tweet) fun r hr => ih r hr (hretweeted r hr)
    · exact isFloatFree_nullable (s := .word .w64) fun w _ => isFloatFree_word .w64 w
    · exact isFloatFree_nullable (s := .record .geo) fun g hg => isFloatFree_geo (hgeo g hg)
    · exact isFloatFree_nullable (s := .record .entities) fun e _ => isFloatFree_entities e
    · exact isFloatFree_nullable (s := .record .extendedEntities) fun e _ => isFloatFree_extendedEntities e
    · exact fun j hj => hnotices j (List.mem_append_left _ (Option.mem_toList.mpr hj))
    · exact fun j hj => hnotices j (List.mem_append_right _ (Option.mem_toList.mpr hj))

/-! ### The round trip -/

/-- A regular tweet without doubles is decoded from its written form. -/
theorem decode_text_toJson {t : Tweet} (hf : t.IsFloatFree) (ht : (Shape.record .tweet).Regular depthLimit t) :
    decode t.toJson.text = .ok t := by
  have hjson := isFloatFree_toJson hf
  rw [decode_text hjson.isWritable]
  exact fits_of_regular (s := .record .tweet) rfl ht hjson

/-- What is decoded is regular, at one depth more than its text. -/
theorem regular_of_decode {text : String} {t : Tweet} (h : decode text = .ok t) {k : Nat}
    (hk : nesting text ≤ k) : (Shape.record .tweet).Regular (k + 1) t := by
  obtain ⟨⟨t', rest⟩, hread, h⟩ := bind_eq_ok.mp h
  obtain ⟨⟨⟩, -, h⟩ := bind_eq_ok.mp h
  obtain rfl := Except.ok.inj h
  refine (within_read depthLimit (.record .tweet) _ _ _ hread 0).2 k ?_
  rw [Nat.zero_add]
  exact hk

/-- Decoding undoes writing, for whole tweets without doubles. A tweet whose notices are in normal form and whose
text is nested at most 127 deep is decoded from its text; and a tweet that was decoded from a text nested at
most 126 deep is decoded again from the text that is written for it. -/
theorem decode_written :
    (∀ t : Tweet, t.IsFloatFree → t.IsSorted → nesting t.toJson.text ≤ 127 → decode t.toJson.text = .ok t) ∧
    ∀ (text : String) (t : Tweet), nesting text ≤ 126 → decode text = .ok t → t.IsFloatFree →
      decode t.toJson.text = .ok t := by
  refine ⟨?_, ?_⟩
  · intro t hf hsorted hnesting
    have hdepth := depth_le_nesting (isFloatFree_toJson hf)
    exact decode_text_toJson hf ⟨hdepth.trans hnesting, hsorted⟩
  · intro text t hnesting ht hf
    exact decode_text_toJson hf (regular_of_decode ht hnesting)

/-- A deletion notice in a language and at a place that say nothing, repeating null. -/
def deletion : Tweet :=
  { language := .value "", retweeted := .null, geo := .value {},
    deleteNotice := some (.object [("id", .number (.integer 7 (by decide))), ("status", .array [])]) }

theorem decode_written_deletion : decode deletion.toJson.text = .ok deletion ∧
    decode "\x7b\"geo\":\x7b\x7d\x7d" = .ok { geo := .value {} } ∧
    decode (toJson { geo := .value {} }).text = .ok { geo := .value {} } := by
  have htext : (Json.object [("geo", .object [])]).text = "\x7b\"geo\":\x7b\x7d\x7d" := by decide +kernel
  have hread : decode "\x7b\"geo\":\x7b\x7d\x7d" = .ok { geo := .value {} } := by
    rw [← htext, decode_text (by simp [IsWritable, AllNumbers, AllNumbersMembers])]
    rfl
  refine ⟨decode_written.1 deletion ?_ ?_ (by decide +kernel), hread,
    decode_written.2 _ _ (by decide +kernel) hread ?_⟩
  · simp [IsFloatFree, chain, repeated, deletion, notices, AllNumbers, AllNumbersItems, AllNumbersMembers,
      Number.IsInteger]
  · simp only [IsSorted, chain, repeated, deletion, notices, List.mem_singleton, forall_eq, Option.toList_none,
      Option.toList_some, List.nil_append]
    exact isNormal_object.mpr ⟨by decide, by simp [IsNormal, IsNormalItems]⟩
  · simp [IsFloatFree, chain, repeated, notices]

end FeedSieve.Tweet
