import Mathlib.Data.List.Nodup
import Mathlib.Logic.Relation
import FeedSieve.Proofs.Wire.Lookup

/-! Where decoding does not look. The members of a record may stand in any order, and those whose names are no
field's may be there or not, whatever they hold. An edit changes one record of a document in one of these ways,
anywhere inside of it; it is not seen in what is decoded, and so neither are any number of edits, made or
undone. -/

namespace FeedSieve.Wire

open Json
open Config (valuesOf)

/-! ### Edits -/

/-- The second document is the first with one record changed in it, where a document of the shape is expected. -/
inductive Edit : Shape → Json → Json → Prop
  /-- The members of a record in another order. -/
  | reorder {k : RecordKind} {members members' : List (String × Json)} (h : members.Perm members') :
    Edit (.record k) (.object members) (.object members')
  /-- One more member in a record, with a name that is no field's. -/
  | stranger {k : RecordKind} {before after : List (String × Json)} {name : String} (v : Json)
    (h : name ∉ k.fields.map (·.name)) :
    Edit (.record k) (.object (before ++ after)) (.object (before ++ (name, v) :: after))
  /-- An edit inside of the value of a field, in a record that is given by its keys. -/
  | field {k : RecordKind} {f : Field} (hf : f ∈ k.fields) {before after : List (String × Json)} {v v' : Json}
    (h : Edit f.shape v v') :
    Edit (.record k) (.object (before ++ (f.name, v) :: after)) (.object (before ++ (f.name, v') :: after))
  /-- An edit inside of the value of a field, in a record that is given by its places. -/
  | place {k : RecordKind} {f : Field} {before after : List Json} (hf : k.fields[before.length]? = some f)
    {v v' : Json} (h : Edit f.shape v v') :
    Edit (.record k) (.array (before ++ v :: after)) (.array (before ++ v' :: after))
  /-- An edit inside of an item of a list. -/
  | item {s : Shape} {before after : List Json} {v v' : Json} (h : Edit s v v') :
    Edit (.listOf s) (.array (before ++ v :: after)) (.array (before ++ v' :: after))
  /-- An edit where null would be allowed too. -/
  | nullable {s : Shape} {v v' : Json} (h : Edit s v v') : Edit (.nullable s) v v'

/-- Edits, made or undone, lead from one document of a tweet to the other. -/
abbrev Rearranged : Json → Json → Prop := Relation.EqvGen (Edit (.record .tweet))

theorem Edit.ne_null {s : Shape} {j j' : Json} (h : Edit s j j') : j ≠ .null ∧ j' ≠ .null := by
  induction h with
  | nullable _ ih => exact ih
  | _ => exact ⟨Json.noConfusion, Json.noConfusion⟩

/-! ### What is decoded -/

/-- The documents fit a shape alike, at every depth: neither does, or both do with the same value. -/
def Alike (s : Shape) (j j' : Json) : Prop := ∀ n v, fit n s j = .ok v ↔ fit n s j' = .ok v

section

variable {α : Type} {fit : Json → Except ReadError α} {after : Option α}

theorem fillsSlot_perm {vs vs' : List Json} (h : vs.Perm vs') :
    FillsSlot fit none vs after ↔ FillsSlot fit none vs' after := by
  have hnil : vs = [] ↔ vs' = [] := by rw [← List.perm_nil, ← List.perm_nil]; exact ⟨h.symm.trans, h.trans⟩
  have hone : ∀ v, vs = [v] ↔ vs' = [v] := by
    intro v
    rw [← List.perm_singleton, ← List.perm_singleton]
    exact ⟨h.symm.trans, h.trans⟩
  simp only [fillsSlot_none, hnil, hone]

theorem fillsSlot_middle {v v' : Json} (h : ∀ a, fit v = .ok a ↔ fit v' = .ok a) (vs ws : List Json) :
    FillsSlot fit none (vs ++ v :: ws) after ↔ FillsSlot fit none (vs ++ v' :: ws) after := by
  cases vs with
  | nil => simp only [List.nil_append, FillsSlot, h]
  | cons w vs => cases vs <;> simp [FillsSlot]

end

section

variable {fit : ShapeFit}

/-- Of the members of an object, those under the names of the fields are all that counts. -/
theorem Slots.filled_congr {members members' : List (String × Json)} {fs : List Field} {after : Slots fs}
    (h : ∀ f ∈ fs, ∀ a, FillsSlot (fit f.shape) none (valuesOf f.name members) a ↔
      FillsSlot (fit f.shape) none (valuesOf f.name members') a) :
    Slots.Filled fit members fs (Slots.empty fs) after ↔ Slots.Filled fit members' fs (Slots.empty fs) after := by
  induction fs with
  | nil => exact Iff.rfl
  | cons f fs ih =>
    obtain ⟨a, as⟩ := after
    rw [List.forall_mem_cons] at h
    exact and_congr (h.1 a) (ih h.2)

theorem fitPositional_middle {f : Field} {v v' : Json} (h : ∀ a, fit f.shape v = .ok a ↔ fit f.shape v' = .ok a)
    {fs : List Field} {before after : List Json} (hf : fs[before.length]? = some f) {slots : Slots fs} :
    fitPositional fit fs (before ++ v :: after) = .ok slots ↔
      fitPositional fit fs (before ++ v' :: after) = .ok slots := by
  obtain ⟨e, he⟩ | ⟨rest, hrest, -⟩ := fitPositional_place fit hf
  · rw [he, he]
  · simp only [hrest, bind_eq_ok, h]

end

/-- Two objects fit a record alike if their members fill each field alike. -/
theorem alike_object {k : RecordKind} {members members' : List (String × Json)}
    (h : ∀ n, ∀ f ∈ k.fields, ∀ a, FillsSlot (fit n f.shape) none (valuesOf f.name members) a ↔
      FillsSlot (fit n f.shape) none (valuesOf f.name members') a) :
    Alike (.record k) (.object members) (.object members') := by
  intro n v
  rw [fit_object_eq_ok, fit_object_eq_ok]
  exact exists₂_congr fun m slots => and_congr_right fun _ => and_congr_left fun _ => Slots.filled_congr (h m)

theorem alike_field {k : RecordKind} {f : Field} (hf : f ∈ k.fields) {before after : List (String × Json)}
    {v v' : Json} (h : Alike f.shape v v') :
    Alike (.record k) (.object (before ++ (f.name, v) :: after)) (.object (before ++ (f.name, v') :: after)) := by
  refine alike_object fun n g hg a => ?_
  simp only [valuesOf_append, valuesOf_cons]
  by_cases hname : f.name = g.name
  · obtain rfl : f = g := List.inj_on_of_nodup_map (nodup_fields k) hf hg hname
    simp only [↓reduceIte]
    exact fillsSlot_middle (h n) _ _
  · simp only [if_neg hname]

theorem alike_stranger {k : RecordKind} {name : String} (h : name ∉ k.fields.map (·.name)) (v : Json)
    (before after : List (String × Json)) :
    Alike (.record k) (.object (before ++ after)) (.object (before ++ (name, v) :: after)) := by
  refine alike_object fun n f hf a => ?_
  have hname : name ≠ f.name := by
    rintro rfl
    exact h (List.mem_map_of_mem hf)
  rw [valuesOf_append, valuesOf_append, valuesOf_cons, if_neg hname]

theorem alike_place {k : RecordKind} {f : Field} {before : List Json} (hf : k.fields[before.length]? = some f)
    {v v' : Json} (h : Alike f.shape v v') (after : List Json) :
    Alike (.record k) (.array (before ++ v :: after)) (.array (before ++ v' :: after)) := by
  intro n r
  rw [fit_array_eq_ok, fit_array_eq_ok]
  exact exists₂_congr fun m slots => and_congr_right fun _ => and_congr_left fun _ => fitPositional_middle (h m) hf

theorem alike_item {s : Shape} {v v' : Json} (h : Alike s v v') (before after : List Json) :
    Alike (.listOf s) (.array (before ++ v :: after)) (.array (before ++ v' :: after)) := by
  have hitems : ∀ n vs items, fit n (.listOf s) (.array items) = .ok vs ↔
      ∃ m, n = m + 1 ∧ items.mapM (fit m s) = .ok vs := by
    intro n vs items
    rw [fit_listOf_eq_ok]
    simp
  intro n vs
  rw [hitems, hitems]
  exact exists_congr fun m => and_congr_right fun _ => mapM_middle (h m) before after vs

theorem alike_nullable {s : Shape} {v v' : Json} (hv : v ≠ .null) (hv' : v' ≠ .null) (h : Alike s v v') :
    Alike (.nullable s) v v' := by
  intro n a
  rw [fit_nullable, fitNullable_of_ne_null _ hv, fitNullable_of_ne_null _ hv', map_eq_ok, map_eq_ok]
  exact exists_congr fun b => and_congr_left fun _ => h n b

/-- An edit is not seen in what fits. -/
theorem Edit.alike {s : Shape} {j j' : Json} (h : Edit s j j') : Alike s j j' := by
  induction h with
  | reorder h => exact alike_object fun n f _ a => fillsSlot_perm ((h.filter _).map _)
  | stranger v h => exact alike_stranger h v _ _
  | field hf _ ih => exact alike_field hf ih
  | place hf _ ih => exact alike_place hf ih _
  | item _ ih => exact alike_item ih _ _
  | nullable h ih => exact alike_nullable h.ne_null.1 h.ne_null.2 ih

/-- Neither are any number of them, made or undone. -/
theorem Rearranged.alike {d d' : Json} (h : Rearranged d d') : Alike (.record .tweet) d d' := by
  induction h with
  | rel _ _ h => exact h.alike
  | refl _ => exact fun _ _ => Iff.rfl
  | symm _ _ _ ih => exact fun n v => (ih n v).symm
  | trans _ _ _ _ _ ih ih' => exact fun n v => (ih n v).trans (ih' n v)

end FeedSieve.Wire

namespace FeedSieve.Tweet

open Json Wire

/-- Documents that are rearrangements of each other hold the same tweet, or neither holds one. -/
theorem decode_rearranged {d d' : Json} (hd : d.IsWritable) (hd' : d'.IsWritable) (h : Rearranged d d') (t : Tweet) :
    decode d.text = .ok t ↔ decode d'.text = .ok t := by
  rw [decode_text hd, decode_text hd']
  exact h.alike depthLimit t

/-- An author among the members of a tweet, with a stranger before them. -/
def strangerOutside : Json :=
  .object [("colour", .null), ("lang", .string "en"),
    ("user", .object [("id", .number (.ofWord 7)), ("verified", .bool true)])]

/-- The same author in another order, with a stranger inside. -/
def strangerInside : Json :=
  .object [("lang", .string "en"),
    ("user", .object [("verified", .bool true), ("colour", .array [.null]), ("id", .number (.ofWord 7))])]

theorem decode_rearranged_author : strangerOutside.IsWritable ∧ strangerInside.IsWritable ∧
    Rearranged strangerOutside strangerInside ∧
    ∃ t, decode strangerOutside.text = .ok t ∧ decode strangerInside.text = .ok t := by
  have houtside : strangerOutside.IsWritable := by
    simp [strangerOutside, AllNumbers, AllNumbersMembers, Number.ofWord, Number.IsFinite]
  have hinside : strangerInside.IsWritable := by
    simp [strangerInside, AllNumbers, AllNumbersItems, AllNumbersMembers, Number.ofWord, Number.IsFinite]
  have hremoved := @Edit.stranger .tweet []
    [("lang", .string "en"), ("user", .object [("id", .number (.ofWord 7)), ("verified", .bool true)])] "colour" .null
    (by decide)
  have hswapped := @Edit.field .tweet ⟨"user", .nullable (.record .user)⟩ (by decide) [("lang", .string "en")] [] _ _
    (.nullable (.reorder (.swap ("verified", .bool true) ("id", .number (.ofWord 7)) [])))
  have hinserted := @Edit.field .tweet ⟨"user", .nullable (.record .user)⟩ (by decide) [("lang", .string "en")] [] _ _
    (.nullable (@Edit.stranger .user [("verified", .bool true)] [("id", .number (.ofWord 7))] "colour"
      (.array [.null]) (by decide)))
  have hrearranged : Rearranged strangerOutside strangerInside :=
    .trans _ _ _ (.symm _ _ (.rel _ _ hremoved)) (.trans _ _ _ (.rel _ _ hswapped) (.rel _ _ hinserted))
  obtain ⟨t, ht⟩ := exists_of_isOk (x := decode strangerOutside.text) (by decide +kernel)
  exact ⟨houtside, hinside, hrearranged, t, ht, (decode_rearranged houtside hinside hrearranged t).mp ht⟩

end FeedSieve.Tweet
