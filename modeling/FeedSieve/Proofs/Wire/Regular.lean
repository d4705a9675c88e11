import FeedSieve.Proofs.Wire.Written

/-! Regular values: those whose documents are not nested too deep and whose generic parts are in normal
form. The document of a regular value without doubles fits the shape, with that very value. Both parts of
being regular pass to the fields of a record and back, so the depth is what the induction is on. -/

namespace FeedSieve.Wire

open Json
open Config (valuesOf)

/-! ### Fields as members and back -/

section

variable {fit : ShapeFit}

theorem valuesOf_writeSlots {name : String} {fs : List Field} (h : name ∉ fs.map (·.name)) (slots : Slots fs) :
    valuesOf name (writeSlots fs slots) = [] := by
  induction fs with
  | nil => rfl
  | cons f fs ih =>
    obtain ⟨slot, slots⟩ := slots
    rw [List.map_cons, List.mem_cons, not_or] at h
    cases slot with
    | none => exact ih h.2 slots
    | some v =>
      have hcons : writeSlots (f :: fs) (some v, slots) = (f.name, f.shape.toJson v) :: writeSlots fs slots := rfl
      rw [hcons, valuesOf_cons, if_neg (Ne.symm h.1), ih h.2]

/-- From the members written for fields each field is filled with what it held. -/
theorem filled_writeSlots {fs : List Field} (hfs : (fs.map (·.name)).Nodup) {slots : Slots fs}
    (h : Slots.All (fun s v => fit s (s.toJson v) = .ok v) fs slots) :
    Slots.Filled fit (writeSlots fs slots) fs (Slots.empty fs) slots := by
  induction fs with
  | nil => trivial
  | cons f fs ih =>
    obtain ⟨slot, slots⟩ := slots
    rw [List.map_cons, List.nodup_cons] at hfs
    have hrest := ih hfs.2 h.2
    have hvalues := valuesOf_writeSlots hfs.1 slots
    cases slot with
    | none =>
      refine ⟨?_, hrest⟩
      have hcons : writeSlots (f :: fs) (none, slots) = writeSlots fs slots := rfl
      rw [hcons, hvalues]
      rfl
    | some v =>
      have hcons : writeSlots (f :: fs) (some v, slots) = (f.name, f.shape.toJson v) :: writeSlots fs slots := rfl
      rw [hcons]
      refine ⟨?_, (Slots.filled_cons_of_notMem hfs.1 _ _).mpr hrest⟩
      rw [valuesOf_cons, if_pos rfl, hvalues]
      exact ⟨v, h.1 v rfl, rfl⟩

end

/-! ### Regular values -/

/-- The generic documents of a value are in normal form. -/
def Shape.Settled : (s : Shape) → s.Val → Prop
  | .anything, j => j.IsNormal
  | .nullable s, v => ∀ a ∈ v, s.Settled a
  | .listOf s, vs => ∀ v ∈ vs, s.Settled v
  | .record .tweet, t => t.IsSorted
  | _, _ => True

/-- The document of a value is nested at most so deep, and its generic documents are in normal form. -/
def Shape.Regular (n : Nat) (s : Shape) (v : s.Val) : Prop := (s.toJson v).depth ≤ n ∧ s.Settled v

/-- A record is settled if what its fields hold is. -/
theorem settled_record_iff {k : RecordKind} {r : k.Val} :
    (Shape.record k).Settled r ↔ Slots.All Shape.Settled k.fields (k.slots r) := by
  cases k with
  | tweet =>
    rw [Shape.Settled, Tweet.isSorted_iff]
    simp only [RecordKind.fields, RecordKind.slots, Slots.All, Shape.Settled, Tweet.notices, implies_true, true_and,
      and_true, List.mem_append, or_imp, forall_and]
    cases r.retweeted <;> simp [Presence.slot, and_comm]
  | _ => simp [RecordKind.fields, RecordKind.slots, Slots.All, Shape.Settled]

theorem regular_record_iff {n : Nat} {k : RecordKind} {r : k.Val} :
    (Shape.record k).Regular (n + 1) r ↔ Slots.All (Shape.Regular n) k.fields (k.slots r) := by
  have hjson : (Shape.record k).toJson r = k.toJson r := rfl
  rw [Shape.Regular, hjson, toJson_eq_object, depth_object_le,
    forall_mem_writeSlots (p := fun j => j.depth ≤ n), settled_record_iff, ← Slots.all_and]
  rfl

theorem regular_listOf_iff {n : Nat} {s : Shape} {vs : List s.Val} :
    (Shape.listOf s).Regular (n + 1) vs ↔ ∀ v ∈ vs, s.Regular n v := by
  have hjson : (Shape.listOf s).toJson vs = .array (vs.map s.toJson) := rfl
  rw [Shape.Regular, hjson, depth_array_le, List.forall_mem_map, Shape.Settled, ← forall₂_and]
  rfl

/-! ### What is written fits -/

/-- Shapes that never write null. -/
def Shape.isSolid : Shape → Bool
  | .anything => false
  | .nullable _ => false
  | _ => true

/-- Shapes in which null stands for one thing only. -/
def Shape.isFaithful : Shape → Bool
  | .nullable s => s.isSolid && s.isFaithful
  | .listOf s => s.isFaithful
  | _ => true

theorem isFaithful_of_mem_fields {k : RecordKind} {f : Field} (h : f ∈ k.fields) : f.shape.isFaithful = true := by
  revert f
  cases k <;> decide

theorem toJson_ne_null {s : Shape} (h : s.isSolid = true) (v : s.Val) : s.toJson v ≠ .null := by
  cases s with
  | anything => exact absurd h (by decide)
  | nullable s => exact absurd h (by simp [Shape.isSolid])
  | word size => cases size <;> exact Json.noConfusion
  | record k =>
    have hjson : (Shape.record k).toJson v = k.toJson v := rfl
    rw [hjson, toJson_eq_object]
    exact Json.noConfusion
  | _ => exact Json.noConfusion

theorem accept_natural {size : WordSize} {m : Nat} {w : size.Val} (hw : size.word? m = some w)
    (h : fitsInteger m) : size.accept (.number (.integer m h)) = .ok w :=
  accept_integer_eq_ok.mpr ⟨Int.natCast_nonneg m, hw⟩

theorem fit_word (n : Nat) (size : WordSize) (w : size.Val) :
    fit n (.word size) ((Shape.word size).toJson w) = .ok w := by
  have h : ∀ m (hm : fitsInteger m), fit n (.word size) (.number (.integer m hm)) =
      (size.accept (.number (.integer m hm))).mapError .mismatch := by
    intro m hm
    have hfit : fit n (.word size) = fitScalar size.accept := by cases n <;> rfl
    rw [hfit, fitScalar, found, Number.reread_integer, map_ok, ok_bind]
  cases size with
  | w32 =>
    have hw : WordSize.w32.word? (UInt32.toNat w) = some w := by
      rw [WordSize.word?, if_pos (UInt32.toNat_lt w), UInt32.ofNat_toNat]
    rw [Shape.toJson, wordJson, Number.ofWord, h, accept_natural (by simpa using hw), mapError_ok]
  | w64 =>
    have hw : WordSize.w64.word? (UInt64.toNat w) = some w := by
      rw [WordSize.word?, if_pos (UInt64.toNat_lt w), UInt64.ofNat_toNat]
    rw [Shape.toJson, wordJson, Number.ofWord, h, accept_natural hw, mapError_ok]

/-- The document of a value fits with that value. -/
def Shape.Fits (n : Nat) (s : Shape) (v : s.Val) : Prop := fit n s (s.toJson v) = .ok v

/-- At one depth, all regular values without doubles fit if lists and records do. -/
theorem fits_of_parts {n : Nat}
    (hlist : ∀ (s : Shape) (vs : List s.Val), s.isFaithful = true → (Shape.listOf s).Regular n vs →
      ((Shape.listOf s).toJson vs).IsFloatFree → (Shape.listOf s).Fits n vs)
    (hrecord : ∀ (k : RecordKind) (r : k.Val), (Shape.record k).Regular n r →
      ((Shape.record k).toJson r).IsFloatFree → (Shape.record k).Fits n r)
    {s : Shape} {v : s.Val} (hs : s.isFaithful = true) (hv : s.Regular n v)
    (hf : (s.toJson v).IsFloatFree) : s.Fits n v := by
  induction s with
  | word size => exact fit_word n size v
  | real => exact hf.elim
  | text => exact fit_text_eq_ok.mpr rfl
  | flag => exact fit_flag_eq_ok.mpr rfl
  | anything =>
    have hfit : fit n .anything v = (v.reread n).map normal := by cases n <;> rfl
    have hread : v.reread n = .ok v := reread_eq_ok hf hv.1
    exact hfit.trans (by rw [hread, map_ok, normal_of_isNormal hv.2])
  | nullable s ih =>
    rw [Shape.isFaithful, Bool.and_eq_true] at hs
    rw [Shape.Fits, fit_nullable]
    cases v with
    | none => rfl
    | some a =>
      have ha : s.Fits n a := ih hs.2 ⟨hv.1, hv.2 a rfl⟩ hf
      have hjson : (Shape.nullable s).toJson (some a) = s.toJson a := rfl
      have hnull := toJson_ne_null hs.1 a
      rw [hjson, fitNullable, ha]
      · rfl
      · exact hnull
  | listOf s => exact hlist s v hs hv hf
  | record k => exact hrecord k v hv hf

/-- The document of a regular value without doubles fits with that value. -/
theorem fits_of_regular {n : Nat} {s : Shape} {v : s.Val} (hs : s.isFaithful = true) (hv : s.Regular n v)
    (hf : (s.toJson v).IsFloatFree) : s.Fits n v := by
  induction n generalizing s with
  | zero =>
    refine fits_of_parts ?_ ?_ hs hv hf
    · rintro s vs - ⟨hdepth, -⟩ -
      exact absurd hdepth (by simp [Shape.toJson, depth])
    · rintro k r ⟨hdepth, -⟩ -
      have hjson : (Shape.record k).toJson r = k.toJson r := rfl
      rw [hjson, toJson_eq_object] at hdepth
      exact absurd hdepth (by simp [depth])
  | succ n ih =>
    refine fits_of_parts ?_ ?_ hs hv hf
    · intro s vs hs hvs hf
      have hvs := regular_listOf_iff.mp hvs
      have hf : ∀ v ∈ vs, (s.toJson v).IsFloatFree := List.forall_mem_map.mp (allNumbers_array.mp hf)
      exact fit_listOf_eq_ok.mpr ⟨n, vs.map s.toJson, rfl, rfl,
        mapM_map_eq_ok fun v hv => ih hs (hvs v hv) (hf v hv)⟩
    · intro k r hr hf
      have hjson : (Shape.record k).toJson r = .object (writeSlots k.fields (k.slots r)) := toJson_eq_object k r
      have hr := regular_record_iff.mp hr
      rw [hjson] at hf
      have hf := forall_mem_writeSlots.mp (allNumbers_object.mp hf)
      have hfits : Slots.All (Shape.Fits n) k.fields (k.slots r) :=
        (Slots.all_and.mpr ⟨hr, hf⟩).mono fun f hmem v h => ih (isFaithful_of_mem_fields hmem) h.1 h.2
      rw [Shape.Fits, hjson, fit_object_eq_ok]
      exact ⟨n, k.slots r, rfl, filled_writeSlots (nodup_fields k) hfits, buildRecord_slots k r⟩

end FeedSieve.Wire
