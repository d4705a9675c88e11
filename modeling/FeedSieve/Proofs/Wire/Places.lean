import FeedSieve.Proofs.Wire.Site

/-! Records by their places. The list of the first values of a record is taken for what the object is that gives
these values under the names of the first fields: the same fields are filled, the same error is met. The fields
behind them have their defaults, and a list that goes on behind the last field is malformed, for what it has too
much. -/

namespace FeedSieve.Wire

open Json

/-- The first values of a record under the names of their fields. -/
def RecordKind.keyed (k : RecordKind) (values : List Json) : Json := .object ((k.fields.map (·.name)).zip values)

def RecordKind.blank : (k : RecordKind) → k.Val
  | .tweet => {}
  | .user => {}
  | .geo => {}
  | .entities => {}
  | .extendedEntities => {}
  | .hashtag => {}
  | .media => {}

theorem isWritable_keyed (k : RecordKind) {values : List Json} (h : (array values).IsWritable) :
    (k.keyed values).IsWritable := by
  rw [RecordKind.keyed, IsWritable, allNumbers_object]
  intro m hm
  exact allNumbers_array.mp h m.2 (List.of_mem_zip hm).2

/-! ### By places and by keys -/

section

variable {fit : ShapeFit}

/-- Members under other names leave a field as it is. -/
theorem fitKeyed_cons_of_notMem {f : Field} {fs : List Field} {ms : List (String × Json)} (h : f.name ∉ ms.map (·.1))
    (slot : Option f.shape.Val) (slots : Slots fs) :
    fitKeyed fit (f :: fs) (slot, slots) ms = (fitKeyed fit fs slots ms).map (slot, ·) := by
  induction ms generalizing slots with
  | nil => rfl
  | cons m ms ih =>
    obtain ⟨name, v⟩ := m
    rw [List.map_cons, List.mem_cons, not_or] at h
    simp only [fitKeyed, Slots.put, if_neg h.1]
    cases Slots.put fit name v fs slots with
    | none => exact ih h.2 slots
    | some r =>
      cases r with
      | error e => rfl
      | ok slots => exact ih h.2 slots

/-- Fields filled by their names in their order are filled by their places. -/
theorem fitKeyed_zip {fs : List Field} (hfs : (fs.map (·.name)).Nodup) {values : List Json}
    (h : values.length ≤ fs.length) :
    fitKeyed fit fs (Slots.empty fs) ((fs.map (·.name)).zip values) = fitPositional fit fs values := by
  induction fs generalizing values with
  | nil =>
    obtain rfl := List.eq_nil_of_length_eq_zero (Nat.le_zero.mp h)
    rfl
  | cons f fs ih =>
    cases values with
    | nil => rfl
    | cons v vs =>
      rw [List.map_cons, List.nodup_cons] at hfs
      have hrest := ih hfs.2 (Nat.le_of_succ_le_succ h)
      have hname : f.name ∉ ((fs.map (·.name)).zip vs).map (·.1) := by
        intro hmem
        obtain ⟨m, hm, heq⟩ := List.mem_map.mp hmem
        exact hfs.1 (heq ▸ (List.of_mem_zip hm).1)
      rw [List.map_cons, List.zip_cons_cons, fitKeyed, fitPositional]
      simp only [Slots.put, Slots.empty, if_pos]
      cases fit f.shape v with
      | error e => rfl
      | ok a =>
        rw [map_ok, ok_bind, ok_bind, fitKeyed_cons_of_notMem hname, hrest]
        cases fitPositional fit fs vs <;> rfl

/-- When all fields are filled by their places, nothing may follow. -/
theorem fitPositional_surplus {fs : List Field} {values : List Json} {slots : Slots fs}
    (h : fitPositional fit fs values = .ok slots) (hlength : values.length = fs.length) (extra : Json)
    (more : List Json) : fitPositional fit fs (values ++ extra :: more) = .error (.malformed .surplus) := by
  induction fs generalizing values with
  | nil =>
    obtain rfl := List.eq_nil_of_length_eq_zero hlength
    rfl
  | cons f fs ih =>
    cases values with
    | nil => exact absurd hlength (by simp)
    | cons v vs =>
      obtain ⟨a, ha, hrest⟩ := bind_eq_ok.mp h
      obtain ⟨slots', hslots, -⟩ := bind_eq_ok.mp hrest
      rw [List.cons_append, fitPositional, ha, ok_bind, ih hslots (Nat.succ.inj hlength), error_bind]

end

/-- A record fits by its places as by its keys, errors included. -/
theorem fit_array_eq_keyed (k : RecordKind) {values : List Json} (h : values.length ≤ k.fields.length) (n : Nat) :
    fit n (.record k) (.array values) = fit n (.record k) (k.keyed values) := by
  cases n with
  | zero => rfl
  | succ n => rw [RecordKind.keyed, fit_succ_array, fit_succ_object, fitKeyed_zip (nodup_fields k) h]

theorem fit_surplus {k : RecordKind} {values : List Json} (h : values.length = k.fields.length) (extra : Json)
    (more : List Json) {n : Nat} {r : k.Val} (hr : fit n (.record k) (.array values) = .ok r) :
    fit n (.record k) (.array (values ++ extra :: more)) = .error (.malformed .surplus) := by
  obtain ⟨m, slots, rfl, hslots, -⟩ := fit_array_eq_ok.mp hr
  rw [fit_succ_array, fitPositional_surplus hslots h, map_error]

/-! ### Defaults -/

/-- From a place on the fields have the same. -/
def Slots.SameFrom (n : Nat) : (fs : List Field) → Slots fs → Slots fs → Prop
  | [], _, _ => True
  | _ :: fs, (a, as), (b, bs) => (n = 0 → a = b) ∧ Slots.SameFrom (n - 1) fs as bs

theorem drop_toList_eq_iff {n : Nat} {fs : List Field} {slots slots' : Slots fs} :
    (Slots.toList fs slots).drop n = (Slots.toList fs slots').drop n ↔ Slots.SameFrom n fs slots slots' := by
  induction fs generalizing n with
  | nil => simp [Slots.toList, Slots.SameFrom]
  | cons f fs ih =>
    rw [Slots.SameFrom, ← ih]
    cases n <;> simp [Slots.toList]

/-- The fields behind the values given are left empty. -/
theorem drop_of_fitPositional {fit : ShapeFit} {fs : List Field} {values : List Json} {slots : Slots fs}
    (h : fitPositional fit fs values = .ok slots) :
    (Slots.toList fs slots).drop values.length = (Slots.toList fs (Slots.empty fs)).drop values.length := by
  induction fs generalizing values with
  | nil => rfl
  | cons f fs ih =>
    cases values with
    | nil =>
      obtain rfl := Except.ok.inj h
      rfl
    | cons v vs =>
      obtain ⟨a, -, hrest⟩ := bind_eq_ok.mp h
      obtain ⟨slots', hslots, heq⟩ := bind_eq_ok.mp hrest
      obtain rfl := Except.ok.inj heq
      exact ih hslots

section

variable {α : Type} {n : Nat}

theorem sameFrom_join {a b : Option (Option α)} (h : n = 0 → a = b) : n = 0 → a.join.map some = b.join.map some :=
  fun hn => by rw [h hn]

theorem sameFrom_slot_presence {a b : Option (Option α)} (h : n = 0 → a = b) :
    n = 0 → (presence a).slot = (presence b).slot := by
  rwa [slot_presence, slot_presence]

theorem sameFrom_some_getD {a b : Option α} {d : α} (h : n = 0 → a = b) : n = 0 → some (a.getD d) = some (b.getD d) :=
  fun hn => by rw [h hn]

end

/-- What a record has from a place on depends on what was given from there on. -/
theorem Slots.SameFrom.slots_buildRecord {k : RecordKind} {n : Nat} {slots slots' : Slots k.fields}
    (h : Slots.SameFrom n k.fields slots slots') :
    Slots.SameFrom n k.fields (k.slots (buildRecord k slots)) (k.slots (buildRecord k slots')) := by
  cases k with
  | tweet =>
    obtain ⟨hid, hidText, hcreatedAt, htext, hsource, hlanguage, huser, hretweeted, hinReplyTo, hgeo, hentities,
      hextendedEntities, hlimit, hdelete, -⟩ := h
    refine ⟨sameFrom_join hid, sameFrom_join hidText, sameFrom_join hcreatedAt, sameFrom_join htext, ?_⟩
    exact ⟨sameFrom_slot_presence hsource, sameFrom_slot_presence hlanguage, sameFrom_slot_presence huser,
      sameFrom_slot_presence hretweeted, sameFrom_slot_presence hinReplyTo, sameFrom_slot_presence hgeo,
      sameFrom_slot_presence hentities, sameFrom_slot_presence hextendedEntities, hlimit, hdelete, trivial⟩
  | user =>
    obtain ⟨hid, hscreenName, hverified, -⟩ := h
    exact ⟨sameFrom_join hid, sameFrom_join hscreenName,
      fun hn => congrArg (fun v => some (some (v.join.getD false))) (hverified hn), trivial⟩
  | geo => exact ⟨sameFrom_some_getD h.1, sameFrom_some_getD h.2.1, trivial⟩
  | entities => exact ⟨sameFrom_slot_presence h.1, sameFrom_slot_presence h.2.1, trivial⟩
  | extendedEntities => exact ⟨sameFrom_slot_presence h.1, trivial⟩
  | hashtag => exact ⟨sameFrom_some_getD h.1, sameFrom_some_getD h.2.1, trivial⟩
  | media => exact ⟨sameFrom_join h.1, sameFrom_some_getD h.2.1, sameFrom_join h.2.2.1, trivial⟩

theorem buildRecord_empty (k : RecordKind) : buildRecord k (Slots.empty k.fields) = k.blank := by cases k <;> rfl

/-- The fields behind the values given have their defaults. -/
theorem drop_contents_of_fit {k : RecordKind} {n : Nat} {values : List Json} {r : k.Val}
    (h : fit n (.record k) (.array values) = .ok r) :
    (k.contents r).drop values.length = (k.contents k.blank).drop values.length := by
  obtain ⟨m, slots, -, hslots, rfl⟩ := fit_array_eq_ok.mp h
  rw [← buildRecord_empty, RecordKind.contents, RecordKind.contents, drop_toList_eq_iff]
  exact (drop_toList_eq_iff.mp (drop_of_fitPositional hslots)).slots_buildRecord

end FeedSieve.Wire

namespace FeedSieve.Tweet

open Json Wire

/-- Wherever a document has a record, its first values may be given in a list or under the names of its fields: the
text decodes to the same tweet, or with the same error. In the tweet the fields behind these values have their
defaults. A list that goes on behind the last field is malformed, if all in front of that can be decoded. -/
theorem decode_places {k : RecordKind} (p : Site (.record .tweet) k) :
    (∀ values : List Json, values.length ≤ k.fields.length → (p.fill (.array values)).IsWritable →
      decode (p.fill (.array values)).text = decode (p.fill (k.keyed values)).text ∧
      ∀ t, decode (p.fill (.array values)).text = .ok t → ∃ r, (∀ r', p.Holds t r' ↔ r' = r) ∧
        (k.contents r).drop values.length = (k.contents k.blank).drop values.length) ∧
    ∀ (values : List Json) (extra : Json) (more : List Json), values.length = k.fields.length →
      (p.fill (.array (values ++ extra :: more))).IsWritable →
      (∃ t, decode (p.cut.fill (.array values)).text = .ok t) →
      decode (p.fill (.array (values ++ extra :: more))).text = .error (.malformed .surplus) := by
  refine ⟨fun values hlength hw => ⟨?_, fun t ht => ?_⟩, fun values extra more hlength hw ⟨t, ht⟩ => ?_⟩
  · obtain ⟨hvalues, hfill⟩ := p.isWritable_of_fill hw
    rw [decode_text hw, decode_text (hfill _ (isWritable_keyed k hvalues)).1]
    exact p.fit_fill_congr Json.noConfusion Json.noConfusion (fit_array_eq_keyed k hlength) depthLimit
  · rw [decode_text hw] at ht
    obtain ⟨m, r, hr, hholds⟩ := p.exists_holds Json.noConfusion ht
    refine ⟨r, fun r' => ⟨fun hr' => hr'.unique hholds, ?_⟩, drop_contents_of_fit hr⟩
    rintro rfl
    exact hholds
  · obtain ⟨hitems, hfill⟩ := p.isWritable_of_fill hw
    have hvalues : (array values).IsWritable :=
      allNumbers_array.mpr fun j hj => allNumbers_array.mp hitems j (List.mem_append_left _ hj)
    rw [decode_text (hfill _ hvalues).2] at ht
    rw [decode_text hw]
    exact p.fit_fill_error Json.noConfusion Json.noConfusion (fun n r hr => fit_surplus hlength extra more hr) ht

/-- The second hashtag of a repeated tweet; what was found in the text of that is given by places. -/
def repeatedHashtag : Site (.record .tweet) .hashtag :=
  .field ⟨"retweeted_status", .nullable (.record .tweet)⟩ (by decide) [("lang", .string "en")]
    (.nullable (.field ⟨"entities", .nullable (.record .entities)⟩ (by decide) []
      (.nullable (.place ⟨"hashtags", .nullable (.listOf (.record .hashtag))⟩ [] rfl
        (.nullable (.item [.object [("text", .string "lean")]] .here [])) [.null])) []))
    [("id", .number (.ofWord 7))]

theorem decode_places_hashtag :
    decode (repeatedHashtag.fill (.array [.string "rust"])).text =
      decode (repeatedHashtag.fill (.object [("text", .string "rust")])).text ∧
    (∃ t r, decode (repeatedHashtag.fill (.array [.string "rust"])).text = .ok t ∧ repeatedHashtag.Holds t r ∧
      r.indices = []) ∧
    decode (repeatedHashtag.fill (.array [.string "rust", .array [], .null])).text = .error (.malformed .surplus) := by
  obtain ⟨hkeyed, hsurplus⟩ := decode_places repeatedHashtag
  have hw : ∀ values : List Json, (array values).IsWritable → (repeatedHashtag.fill (.array values)).IsWritable := by
    intro values h
    simpa [repeatedHashtag, Site.fill, AllNumbers, AllNumbersItems, AllNumbersMembers, Number.ofWord,
      Number.IsFinite] using h
  obtain ⟨heq, hholds⟩ := hkeyed [.string "rust"] (by decide) (hw _ (by simp [AllNumbers, AllNumbersItems]))
  obtain ⟨t, ht⟩ :=
    exists_of_isOk (x := decode (repeatedHashtag.fill (.array [.string "rust"])).text) (by decide +kernel)
  obtain ⟨r, hr, hdefault⟩ := hholds t ht
  refine ⟨heq, ⟨t, r, ht, (hr r).mpr rfl, ?_⟩, ?_⟩
  · simpa [RecordKind.contents, RecordKind.fields, RecordKind.slots, Slots.toList, RecordKind.blank] using hdefault
  · exact hsurplus [.string "rust", .array []] .null [] rfl (hw _ (by simp [AllNumbers, AllNumbersItems]))
      (exists_of_isOk (by decide +kernel))

end FeedSieve.Tweet
