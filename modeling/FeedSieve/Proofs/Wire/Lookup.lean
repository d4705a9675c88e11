import FeedSieve.Proofs.Wire.Fit
import FeedSieve.Rule.Config

/-! Records by their keys. The members of an object may come in any order, with strangers among them; a
record is filled from them exactly if every field is filled from the values under its own name, of
which there may be one at most. So what a field holds is found by looking its key up. In a list it is found by
its place. -/

namespace FeedSieve.Wire

open Json
open Config (valuesOf)

/-! ### Filling a field -/

section

variable {α : Type} {fit : Json → Except ReadError α}

/-- What a field holds after the values given under its name; only a field that holds nothing yet
takes one. -/
def FillsSlot (fit : Json → Except ReadError α) : Option α → List Json → Option α → Prop
  | before, [], after => after = before
  | some _, _ :: _, _ => False
  | none, v :: vs, after => ∃ a, fit v = .ok a ∧ FillsSlot fit (some a) vs after

theorem fillsSlot_cons {before after : Option α} {v : Json} {vs : List Json} :
    FillsSlot fit before (v :: vs) after ↔
      before = none ∧ ∃ a, fit v = .ok a ∧ FillsSlot fit (some a) vs after := by
  cases before <;> simp [FillsSlot]

/-- A field is left without a value, or filled by the only one. -/
theorem fillsSlot_none {vs : List Json} {after : Option α} :
    FillsSlot fit none vs after ↔ vs = [] ∧ after = none ∨ ∃ v a, vs = [v] ∧ fit v = .ok a ∧ after = some a := by
  rcases vs with _ | ⟨v, _ | ⟨w, ws⟩⟩ <;> simp [FillsSlot]

theorem exists_fillsSlot_iff {vs : List Json} :
    (∃ after, FillsSlot fit none vs after) ↔ vs.length ≤ 1 ∧ ∀ v ∈ vs, ∃ a, fit v = .ok a := by
  simp only [fillsSlot_none]
  rcases vs with _ | ⟨v, _ | ⟨w, ws⟩⟩
  · simp
  · constructor
    · rintro ⟨-, ⟨⟨⟩, -⟩ | ⟨v, a, ⟨⟩, ha, -⟩⟩
      simpa using ⟨a, ha⟩
    · rintro ⟨-, h⟩
      obtain ⟨a, ha⟩ := h v (by simp)
      exact ⟨some a, .inr ⟨v, a, rfl, ha, rfl⟩⟩
  · simp

end

/-! ### Filling the fields of a record -/

/-- What the fields hold after the members given. -/
def Slots.Filled (fit : ShapeFit) (members : List (String × Json)) :
    (fs : List Field) → Slots fs → Slots fs → Prop
  | [], _, _ => True
  | f :: fs, (before, befores), (after, afters) =>
    FillsSlot (fit f.shape) before (valuesOf f.name members) after ∧ Slots.Filled fit members fs befores afters

section

variable {fit : ShapeFit}

theorem valuesOf_cons (key name : String) (v : Json) (ms : List (String × Json)) :
    valuesOf key ((name, v) :: ms) = if name = key then v :: valuesOf key ms else valuesOf key ms := by
  by_cases h : name = key <;> simp [valuesOf, h]

theorem valuesOf_append (key : String) (ms ns : List (String × Json)) :
    valuesOf key (ms ++ ns) = valuesOf key ms ++ valuesOf key ns := by
  simp [valuesOf]

theorem mem_valuesOf {key : String} {v : Json} {members : List (String × Json)} :
    v ∈ valuesOf key members ↔ (key, v) ∈ members := by
  simp [valuesOf]

theorem length_valuesOf (key : String) (members : List (String × Json)) :
    (valuesOf key members).length = (members.map (·.1)).count key := by
  rw [valuesOf, List.length_map, List.count, List.countP_map, List.countP_eq_length_filter]
  rfl

/-- The fields of a record can be filled if each of them can be from the values under its own name. -/
theorem Slots.exists_filled_iff {members : List (String × Json)} {fs : List Field} :
    (∃ after, Slots.Filled fit members fs (Slots.empty fs) after) ↔
      ∀ f ∈ fs, (valuesOf f.name members).length ≤ 1 ∧
        ∀ v ∈ valuesOf f.name members, ∃ a, fit f.shape v = .ok a := by
  induction fs with
  | nil => simp [Slots.Filled]
  | cons f fs ih =>
    rw [List.forall_mem_cons, ← ih, ← exists_fillsSlot_iff]
    constructor
    · rintro ⟨⟨a, as⟩, hslot, hslots⟩
      exact ⟨⟨a, hslot⟩, as, hslots⟩
    · rintro ⟨⟨a, hslot⟩, as, hslots⟩
      exact ⟨(a, as), hslot, hslots⟩

theorem Slots.filled_nil (fs : List Field) (before after : Slots fs) :
    Slots.Filled fit [] fs before after ↔ after = before := by
  induction fs with
  | nil => simp [Slots.Filled]
  | cons f fs ih =>
    obtain ⟨b, bs⟩ := before
    obtain ⟨a, as⟩ := after
    simp only [Slots.Filled, Prod.mk.injEq, ih]
    exact Iff.rfl

theorem Slots.filled_cons_of_notMem {name : String} {v : Json} {ms : List (String × Json)} {fs : List Field}
    (h : name ∉ fs.map (·.name)) (before after : Slots fs) :
    Slots.Filled fit ((name, v) :: ms) fs before after ↔ Slots.Filled fit ms fs before after := by
  induction fs with
  | nil => exact Iff.rfl
  | cons f fs ih =>
    obtain ⟨b, bs⟩ := before
    obtain ⟨a, as⟩ := after
    rw [List.map_cons, List.mem_cons, not_or] at h
    simp only [Slots.Filled, valuesOf_cons, if_neg h.1, ih h.2]

/-- Filling from several members is filling from the first one and then from the others. -/
theorem Slots.filled_cons {name : String} {v : Json} {ms : List (String × Json)} {fs : List Field}
    (hfs : (fs.map (·.name)).Nodup) (before after : Slots fs) :
    Slots.Filled fit ((name, v) :: ms) fs before after ↔
      ∃ next, (Slots.put fit name v fs before).getD (.ok before) = .ok next ∧
        Slots.Filled fit ms fs next after := by
  induction fs with
  | nil => simp [Slots.Filled, Slots.put]
  | cons f fs ih =>
    obtain ⟨b, bs⟩ := before
    obtain ⟨a, as⟩ := after
    rw [List.map_cons, List.nodup_cons] at hfs
    simp only [Slots.Filled, Slots.put, valuesOf_cons]
    by_cases hname : f.name = name
    · subst hname
      rw [if_pos rfl, if_pos rfl, fillsSlot_cons, Slots.filled_cons_of_notMem hfs.1]
      cases b with
      | some b => simp
      | none => cases fit f.shape v <;> simp
    · rw [if_neg (Ne.symm hname), if_neg hname, ih hfs.2]
      cases Slots.put fit name v fs bs with
      | none => simp
      | some r => cases r <;> simp

/-- A record is filled from the members of an object just as its fields are from the values under their
names. -/
theorem fitKeyed_eq_ok {fs : List Field} (hfs : (fs.map (·.name)).Nodup) {members : List (String × Json)}
    {before after : Slots fs} :
    fitKeyed fit fs before members = .ok after ↔ Slots.Filled fit members fs before after := by
  induction members generalizing before with
  | nil => rw [fitKeyed, Slots.filled_nil, Except.ok.injEq, eq_comm]
  | cons m ms ih =>
    obtain ⟨name, v⟩ := m
    rw [fitKeyed, Slots.filled_cons hfs]
    cases Slots.put fit name v fs before with
    | none => simp [ih]
    | some r => cases r <;> simp [ih]

end

theorem nodup_fields (k : RecordKind) : (k.fields.map (·.name)).Nodup := by cases k <;> decide

/-! ### Filling by places -/

/-- The fields with the values given for them. -/
def Slots.toList : (fs : List Field) → Slots fs → List ((f : Field) × Option f.shape.Val)
  | [], () => []
  | f :: fs, (slot, slots) => ⟨f, slot⟩ :: Slots.toList fs slots

/-- Filling by places fails in front of a place, whatever stands there and behind, or it is up to how the value
there fits, and then to what is behind. -/
theorem fitPositional_place (fit : ShapeFit) {f : Field} {fs : List Field} {before : List Json}
    (hf : fs[before.length]? = some f) :
    (∃ e, ∀ v after, fitPositional fit fs (before ++ v :: after) = .error e) ∨
      ∃ rest : List Json → f.shape.Val → Except ReadError (Slots fs),
        (∀ v after, fitPositional fit fs (before ++ v :: after) = fit f.shape v >>= rest after) ∧
        ∀ after a slots, rest after a = .ok slots → ⟨f, some a⟩ ∈ Slots.toList fs slots := by
  induction before generalizing fs with
  | nil =>
    cases fs with
    | nil => exact absurd hf (by simp)
    | cons g gs =>
      obtain rfl : g = f := by simpa using hf
      refine .inr ⟨fun after a => fitPositional fit gs after >>= fun slots => .ok (some a, slots), fun _ _ => rfl, ?_⟩
      intro after a slots h
      obtain ⟨slots', -, heq⟩ := bind_eq_ok.mp h
      obtain rfl := Except.ok.inj heq
      exact List.mem_cons_self
  | cons j js ih =>
    cases fs with
    | nil => exact absurd hf (by simp)
    | cons g gs =>
      simp only [List.cons_append, fitPositional]
      cases fit g.shape j with
      | error e => exact .inl ⟨e, fun _ _ => rfl⟩
      | ok b =>
        obtain ⟨e, he⟩ | ⟨rest, hrest, hmem⟩ := @ih gs (by simpa using hf)
        · exact .inl ⟨e, fun v after => by rw [ok_bind, he, error_bind]⟩
        · refine .inr ⟨fun after a => rest after a >>= fun slots => .ok (some b, slots), fun v after => ?_, ?_⟩
          · rw [ok_bind, hrest]
            cases fit f.shape v <;> rfl
          · intro after a slots h
            obtain ⟨slots', hslots, heq⟩ := bind_eq_ok.mp h
            obtain rfl := Except.ok.inj heq
            exact List.mem_cons_of_mem _ (hmem after a slots' hslots)

/-! ### What fits -/

section

variable {n : Nat} {j : Json}

theorem fit_nullable (n : Nat) (s : Shape) : fit n (.nullable s) = fitNullable (fit n s) := by cases n <;> rfl

theorem fitNullable_of_ne_null {α : Type} (fit : Json → Except ReadError α) (h : j ≠ .null) :
    fitNullable fit j = (fit j).map some := by
  cases j with
  | null => exact absurd rfl h
  | _ => rfl

theorem fit_text_eq_ok {s : String} : fit n .text j = .ok s ↔ j = .string s := by
  have h : fit n .text j = fitScalar acceptText j := by cases n <;> rfl
  rw [h, fitScalar]
  cases j with
  | number m => cases hm : m.reread <;> simp [found, hm, acceptText]
  | _ => simp [found, acceptText]

theorem fit_flag_eq_ok {b : Bool} : fit n .flag j = .ok b ↔ j = .bool b := by
  have h : fit n .flag j = fitScalar acceptFlag j := by cases n <;> rfl
  rw [h, fitScalar]
  cases j with
  | number m => cases hm : m.reread <;> simp [found, hm, acceptFlag]
  | _ => simp [found, acceptFlag]

theorem accept_integer_eq_ok {size : WordSize} {i : Int} {h : fitsInteger i} {w : size.Val} :
    size.accept (.number (.integer i h)) = .ok w ↔ 0 ≤ i ∧ size.word? i.toNat = some w := by
  rw [WordSize.accept]
  by_cases hpos : 0 ≤ i
  · rw [if_pos hpos]
    cases size.word? i.toNat <;> simp [hpos]
  · simp [hpos]

theorem fit_listOf_eq_ok {s : Shape} {vs : List s.Val} :
    fit n (.listOf s) j = .ok vs ↔
      ∃ m items, n = m + 1 ∧ j = .array items ∧ items.mapM (fit m s) = .ok vs := by
  cases n with
  | zero =>
    have h : fit 0 (.listOf s) j = fitListOf none j := rfl
    rw [h]
    cases j with
    | number m => cases hm : m.reread <;> simp [fitListOf, fitScalar, found, hm]
    | _ => simp [fitListOf, fitScalar, found]
  | succ n =>
    have h : fit (n + 1) (.listOf s) j = fitListOf (some (fit n s)) j := rfl
    rw [h]
    cases j with
    | number m => cases hm : m.reread <;> simp [fitListOf, fitScalar, found, hm]
    | _ => simp [fitListOf, fitScalar, found]

theorem fit_succ_object (n : Nat) (k : RecordKind) (members : List (String × Json)) :
    fit (n + 1) (.record k) (.object members) =
      (fitKeyed (fit n) k.fields (Slots.empty k.fields) members).map (buildRecord k) := rfl

theorem fit_succ_array (n : Nat) (k : RecordKind) (items : List Json) :
    fit (n + 1) (.record k) (.array items) = (fitPositional (fit n) k.fields items).map (buildRecord k) := rfl

/-- An object fits a record if the fields of the record are filled from it. -/
theorem fit_object_eq_ok {k : RecordKind} {members : List (String × Json)} {r : k.Val} :
    fit n (.record k) (.object members) = .ok r ↔
      ∃ m slots, n = m + 1 ∧ Slots.Filled (fit m) members k.fields (Slots.empty k.fields) slots ∧
        buildRecord k slots = r := by
  cases n with
  | zero =>
    have h : fit 0 (.record k) (.object members) = .error (.malformed .tooDeep) := rfl
    simp [h]
  | succ n => simp [fit_succ_object, map_eq_ok, fitKeyed_eq_ok (nodup_fields k)]

/-- A list fits a record if the fields of the record are filled from its items in their order. -/
theorem fit_array_eq_ok {k : RecordKind} {items : List Json} {r : k.Val} :
    fit n (.record k) (.array items) = .ok r ↔
      ∃ m slots, n = m + 1 ∧ fitPositional (fit m) k.fields items = .ok slots ∧ buildRecord k slots = r := by
  cases n with
  | zero =>
    have h : fit 0 (.record k) (.array items) = .error (.malformed .tooDeep) := rfl
    simp [h]
  | succ n => simp [fit_succ_array, map_eq_ok]

theorem exists_of_fit_record {k : RecordKind} {r : k.Val} (h : fit n (.record k) j = .ok r) :
    (∃ items, j = .array items) ∨ ∃ members, j = .object members := by
  cases j with
  | array items => exact .inl ⟨items, rfl⟩
  | object members => exact .inr ⟨members, rfl⟩
  | number m => cases n <;> cases hm : m.reread <;> simp [fit, fitShape, fitRecord, fitScalar, found, hm] at h
  | _ => cases n <;> simp [fit, fitShape, fitRecord, fitScalar, found] at h

end

/-! ### Looking keys up -/

/-- What a field that may be null shows of the value under its key. -/
inductive Shows {α : Type} (fit : Json → Except ReadError α) : Option Json → Presence α → Prop
  | absent : Shows fit none .absent
  | null : Shows fit (some .null) .null
  | value {v : Json} {a : α} (hv : v ≠ .null) (h : fit v = .ok a) : Shows fit (some v) (.value a)

section

variable {α : Type} {fit : Json → Except ReadError α} {key : String} {members : List (String × Json)}

theorem lookup_eq_head? (key : String) (members : List (String × Json)) :
    members.lookup key = (valuesOf key members).head? := by
  induction members with
  | nil => rfl
  | cons m ms ih =>
    obtain ⟨name, v⟩ := m
    rw [valuesOf_cons, List.lookup_cons]
    by_cases h : name = key
    · simp [h]
    · rw [if_neg h, ← ih, beq_eq_false_iff_ne.mpr (Ne.symm h)]

theorem member?_of_fillsSlot {slot : Option α} (h : FillsSlot fit none (valuesOf key members) slot) :
    (object members).member? key = none ∧ slot = none ∨
      ∃ v a, (object members).member? key = some v ∧ fit v = .ok a ∧ slot = some a := by
  rw [member?, lookup_eq_head?]
  obtain ⟨hvs, hslot⟩ | ⟨v, a, hvs, ha, hslot⟩ := fillsSlot_none.mp h
  · exact .inl ⟨by rw [hvs]; rfl, hslot⟩
  · exact .inr ⟨v, a, by rw [hvs]; rfl, ha, hslot⟩

theorem shows_of_fillsSlot {slot : Option (Option α)}
    (h : FillsSlot (fitNullable fit) none (valuesOf key members) slot) :
    Shows fit ((object members).member? key) (presence slot) := by
  obtain ⟨hv, rfl⟩ | ⟨v, a, hv, ha, rfl⟩ := member?_of_fillsSlot h
  · rw [hv]
    exact .absent
  · rw [hv]
    by_cases hnull : v = .null
    · subst hnull
      obtain rfl : none = a := Except.ok.inj ha
      exact .null
    · rw [fitNullable_of_ne_null fit hnull] at ha
      obtain ⟨b, hb, rfl⟩ := map_eq_ok.mp ha
      exact .value hnull hb

end

end FeedSieve.Wire
