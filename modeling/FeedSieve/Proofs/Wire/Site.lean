import Mathlib.Data.List.Nodup
import FeedSieve.Proofs.Wire.Written

/-! Sites of records in documents. A site is a document of a shape with a hole in it, where a record of a kind is
expected. What fits there decides what the whole document fits: two documents that fit the record alike make the
whole fit alike, errors included; and where the hole gives an error, all that stands before it being accepted, the
whole gives that error, whatever stands behind. -/

namespace FeedSieve.Wire

open Json
open Config (valuesOf)

/-- A document of a shape with a hole for a record of a kind. -/
inductive Site : Shape → RecordKind → Type
  /-- The whole document. -/
  | here {k : RecordKind} : Site (.record k) k
  /-- A site where null would be allowed too. -/
  | nullable {s : Shape} {k : RecordKind} (p : Site s k) : Site (.nullable s) k
  /-- A site inside of an item of a list. -/
  | item {s : Shape} {k : RecordKind} (before : List Json) (p : Site s k) (after : List Json) : Site (.listOf s) k
  /-- A site inside of the value of a field, in a record that is given by its keys. -/
  | field {outer k : RecordKind} (f : Field) (hf : f ∈ outer.fields) (before : List (String × Json))
    (p : Site f.shape k) (after : List (String × Json)) : Site (.record outer) k
  /-- A site inside of the value of a field, in a record that is given by its places. -/
  | place {outer k : RecordKind} (f : Field) (before : List Json) (hf : outer.fields[before.length]? = some f)
    (p : Site f.shape k) (after : List Json) : Site (.record outer) k

namespace Site

/-- The document with the given one at the site. -/
def fill {s : Shape} {k : RecordKind} : Site s k → Json → Json
  | .here, j => j
  | .nullable p, j => p.fill j
  | .item before p after, j => .array (before ++ p.fill j :: after)
  | .field f _ before p after, j => .object (before ++ (f.name, p.fill j) :: after)
  | .place _ before _ p after, j => .array (before ++ p.fill j :: after)

/-- The site without anything that stands behind it. -/
def cut {s : Shape} {k : RecordKind} : Site s k → Site s k
  | .here => .here
  | .nullable p => .nullable p.cut
  | .item before p _ => .item before p.cut []
  | .field f hf before p _ => .field f hf before p.cut []
  | .place f before hf p _ => .place f before hf p.cut []

variable {s : Shape} {k : RecordKind} {j j' : Json}

theorem fill_ne_null (p : Site s k) (h : j ≠ .null) : p.fill j ≠ .null := by
  induction p with
  | here => exact h
  | nullable _ ih => exact ih
  | _ => exact Json.noConfusion

/-- A document can be written if what is at the site and what stands around it can be. -/
theorem isWritable_of_fill (p : Site s k) (h : (p.fill j).IsWritable) :
    j.IsWritable ∧ ∀ j', j'.IsWritable → (p.fill j').IsWritable ∧ (p.cut.fill j').IsWritable := by
  induction p with
  | here => exact ⟨h, fun _ h' => ⟨h', h'⟩⟩
  | nullable _ ih => exact ih h
  | item before p after ih | field f hf before p after ih | place f before hf p after ih =>
    simp only [fill, cut, IsWritable, allNumbers_array, allNumbers_object, List.forall_mem_append,
      List.forall_mem_cons] at h ⊢
    obtain ⟨hbefore, hp, hafter⟩ := h
    obtain ⟨hj, hfill⟩ := ih hp
    exact ⟨hj, fun j' hj' => ⟨⟨hbefore, (hfill j' hj').1, hafter⟩, hbefore, (hfill j' hj').2, by simp⟩⟩

end Site

/-! ### Taking one part after the other -/

theorem fit_succ_listOf (n : Nat) (s : Shape) (items : List Json) :
    fit (n + 1) (.listOf s) (.array items) = items.mapM (fit n s) := rfl

section

variable {fit : ShapeFit} {f : Field} {v v' : Json}

/-- Putting a value into a field fails whatever the value is, or it is up to how the value fits. -/
theorem Slots.put_field (fit : ShapeFit) {fs : List Field} (hfs : (fs.map (·.name)).Nodup) (hf : f ∈ fs)
    (slots : Slots fs) : (∃ e, ∀ v, Slots.put fit f.name v fs slots = some (.error e)) ∨
      ∃ set : f.shape.Val → Slots fs, ∀ v, Slots.put fit f.name v fs slots = some ((fit f.shape v).map set) := by
  induction fs with
  | nil => exact absurd hf (by simp)
  | cons g gs ih =>
    obtain ⟨slot, slots⟩ := slots
    rw [List.map_cons, List.nodup_cons] at hfs
    obtain rfl | hgs := List.mem_cons.mp hf
    · cases slot with
      | some _ => exact .inl ⟨.mismatch (.duplicateField f.name), fun v => by simp [Slots.put]⟩
      | none => exact .inr ⟨fun a => (some a, slots), fun v => by simp [Slots.put]⟩
    · have hname : g.name ≠ f.name := by
        intro heq
        exact hfs.1 (heq ▸ List.mem_map_of_mem hgs)
      obtain ⟨e, he⟩ | ⟨set, hset⟩ := ih hfs.2 hgs slots
      · exact .inl ⟨e, fun v => by simp [Slots.put, hname, he]⟩
      · refine .inr ⟨fun a => (slot, set a), fun v => ?_⟩
        simp only [Slots.put, if_neg hname, hset, Option.map_some]
        cases fit f.shape v <;> rfl

/-- The members of an object are taken one after the other. -/
theorem fitKeyed_append (fs : List Field) (slots : Slots fs) (ms ns : List (String × Json)) :
    fitKeyed fit fs slots (ms ++ ns) = fitKeyed fit fs slots ms >>= fun slots => fitKeyed fit fs slots ns := by
  induction ms generalizing slots with
  | nil => rfl
  | cons m ms ih =>
    obtain ⟨name, v⟩ := m
    rw [List.cons_append, fitKeyed, fitKeyed]
    cases Slots.put fit name v fs slots with
    | none => exact ih slots
    | some r =>
      cases r with
      | error e => rfl
      | ok slots => exact ih slots

/-! ### Parts that fit alike -/

theorem fitKeyed_congr {fs : List Field} (hfs : (fs.map (·.name)).Nodup) (hf : f ∈ fs)
    (h : fit f.shape v = fit f.shape v') (slots : Slots fs) (before after : List (String × Json)) :
    fitKeyed fit fs slots (before ++ (f.name, v) :: after) =
      fitKeyed fit fs slots (before ++ (f.name, v') :: after) := by
  rw [fitKeyed_append, fitKeyed_append]
  refine congrArg _ (funext fun next => ?_)
  rw [fitKeyed, fitKeyed]
  obtain ⟨e, he⟩ | ⟨set, hset⟩ := Slots.put_field fit hfs hf next
  · rw [he, he]
  · rw [hset, hset, h]

theorem fitPositional_congr {fs : List Field} {before : List Json} (hf : fs[before.length]? = some f)
    (h : fit f.shape v = fit f.shape v') (after : List Json) :
    fitPositional fit fs (before ++ v :: after) = fitPositional fit fs (before ++ v' :: after) := by
  obtain ⟨e, he⟩ | ⟨rest, hrest, -⟩ := fitPositional_place fit hf
  · rw [he, he]
  · rw [hrest, hrest, h]

end

/-- Documents that fit a record alike make documents that fit alike, errors included. -/
theorem Site.fit_fill_congr {s : Shape} {k : RecordKind} (p : Site s k) {j j' : Json} (hj : j ≠ .null)
    (hj' : j' ≠ .null) (h : ∀ n, fit n (.record k) j = fit n (.record k) j') (n : Nat) :
    fit n s (p.fill j) = fit n s (p.fill j') := by
  induction p generalizing n with
  | here => exact h n
  | nullable p ih =>
    rw [fill, fill, fit_nullable, fitNullable_of_ne_null _ (p.fill_ne_null hj), ih h n,
      fitNullable_of_ne_null _ (p.fill_ne_null hj')]
  | item before p after ih =>
    cases n with
    | zero => rfl
    | succ n =>
      rw [fill, fill, fit_succ_listOf, fit_succ_listOf, List.mapM_append, List.mapM_append, List.mapM_cons,
        List.mapM_cons, ih h n]
  | field f hf before p after ih =>
    cases n with
    | zero => rfl
    | succ n => rw [fill, fill, fit_succ_object, fit_succ_object, fitKeyed_congr (nodup_fields _) hf (ih h n)]
  | place f before hf p after ih =>
    cases n with
    | zero => rfl
    | succ n => rw [fill, fill, fit_succ_array, fit_succ_array, fitPositional_congr hf (ih h n)]

/-! ### Errors behind what is accepted -/

section

variable {fit : ShapeFit} {f : Field} {v v' : Json} {e : ReadError}

theorem fitKeyed_error {fs : List Field} (hfs : (fs.map (·.name)).Nodup) (hf : f ∈ fs)
    (h : ∀ a, fit f.shape v = .ok a → fit f.shape v' = .error e) {slots slots' : Slots fs}
    {before : List (String × Json)} (hfit : fitKeyed fit fs slots (before ++ [(f.name, v)]) = .ok slots')
    (after : List (String × Json)) : fitKeyed fit fs slots (before ++ (f.name, v') :: after) = .error e := by
  rw [fitKeyed_append] at hfit ⊢
  obtain ⟨next, hbefore, hv⟩ := bind_eq_ok.mp hfit
  rw [hbefore, ok_bind, fitKeyed]
  rw [fitKeyed] at hv
  obtain ⟨e', he'⟩ | ⟨set, hset⟩ := Slots.put_field fit hfs hf next
  · rw [he'] at hv
    exact absurd hv (by simp)
  · rw [hset] at hv ⊢
    obtain ⟨_, hput, -⟩ := bind_eq_ok.mp hv
    obtain ⟨a, ha, -⟩ := map_eq_ok.mp hput
    rw [h a ha]
    rfl

theorem fitPositional_error {fs : List Field} {before : List Json} (hf : fs[before.length]? = some f)
    (h : ∀ a, fit f.shape v = .ok a → fit f.shape v' = .error e) {slots : Slots fs}
    (hfit : fitPositional fit fs (before ++ [v]) = .ok slots) (after : List Json) :
    fitPositional fit fs (before ++ v' :: after) = .error e := by
  obtain ⟨e', he'⟩ | ⟨rest, hrest, -⟩ := fitPositional_place fit hf
  · rw [he'] at hfit
    exact absurd hfit (by simp)
  · rw [hrest] at hfit ⊢
    obtain ⟨a, ha, -⟩ := bind_eq_ok.mp hfit
    rw [h a ha, error_bind]

end

/-- Where the document up to the site is accepted with one record there, another gives its error. -/
theorem Site.fit_fill_error {s : Shape} {k : RecordKind} (p : Site s k) {j j' : Json} (hj : j ≠ .null)
    (hj' : j' ≠ .null) {e : ReadError} (h : ∀ n r, fit n (.record k) j = .ok r → fit n (.record k) j' = .error e)
    {n : Nat} {v : s.Val} (hv : fit n s (p.cut.fill j) = .ok v) : fit n s (p.fill j') = .error e := by
  induction p generalizing n with
  | here => exact h n v hv
  | nullable p ih =>
    rw [cut, fill, fit_nullable, fitNullable_of_ne_null _ (p.cut.fill_ne_null hj)] at hv
    obtain ⟨a, ha, -⟩ := map_eq_ok.mp hv
    rw [fill, fit_nullable, fitNullable_of_ne_null _ (p.fill_ne_null hj'), ih h ha, map_error]
  | item before p after ih =>
    obtain ⟨m, items, rfl, hitems, hmap⟩ := fit_listOf_eq_ok.mp hv
    obtain rfl := Json.array.inj hitems
    have hall := exists_mapM_eq_ok_iff.mp ⟨v, hmap⟩
    obtain ⟨a, ha⟩ := hall (p.cut.fill j) (by simp)
    exact mapM_eq_error_iff.mpr ⟨before, _, after, rfl, fun b hb => hall b (by simp [hb]), ih h ha⟩
  | field f hf before p after ih =>
    obtain ⟨m, slots, rfl, hfilled, -⟩ := fit_object_eq_ok.mp hv
    have hslots := (fitKeyed_eq_ok (nodup_fields _)).mpr hfilled
    rw [fill, fit_succ_object, fitKeyed_error (nodup_fields _) hf (fun a ha => ih h ha) hslots, map_error]
  | place f before hf p after ih =>
    obtain ⟨m, slots, rfl, hslots, -⟩ := fit_array_eq_ok.mp hv
    rw [fill, fit_succ_array, fitPositional_error hf (fun a ha => ih h ha) hslots, map_error]

/-! ### What values hold at a site -/

def RecordKind.contents (k : RecordKind) (r : k.Val) : List ((f : Field) × Option f.shape.Val) :=
  Slots.toList k.fields (k.slots r)

theorem map_fst_toList (fs : List Field) (slots : Slots fs) : (Slots.toList fs slots).map (·.1) = fs := by
  induction fs with
  | nil => rfl
  | cons f fs ih => rw [Slots.toList, List.map_cons, ih]

theorem mem_of_mem_toList {fs : List Field} {slots : Slots fs} {e : (f : Field) × Option f.shape.Val}
    (h : e ∈ Slots.toList fs slots) : e.1 ∈ fs :=
  map_fst_toList fs slots ▸ List.mem_map_of_mem h

/-- A record has one thing in a field. -/
theorem eq_of_mem_contents {k : RecordKind} {r : k.Val} {f : Field} {a b : f.shape.Val}
    (ha : ⟨f, some a⟩ ∈ k.contents r) (hb : ⟨f, some b⟩ ∈ k.contents r) : a = b := by
  have hnodup : ((k.contents r).map (·.1)).Nodup := by
    rw [RecordKind.contents, map_fst_toList]
    exact (nodup_fields k).of_map
  simpa using List.inj_on_of_nodup_map hnodup ha hb rfl

/-- The value has the record at the site. -/
def Site.Holds {s : Shape} {k : RecordKind} : Site s k → s.Val → k.Val → Prop
  | .here, v, r => v = r
  | .nullable p, v, r => ∃ a, v = some a ∧ p.Holds a r
  | .item before p _, vs, r => ∃ a, vs[before.length]? = some a ∧ p.Holds a r
  | @field outer _ f _ _ p _, v, r => ∃ a, ⟨f, some a⟩ ∈ outer.contents v ∧ p.Holds a r
  | @place outer _ f _ _ p _, v, r => ∃ a, ⟨f, some a⟩ ∈ outer.contents v ∧ p.Holds a r

/-- A value has one record at a site. -/
theorem Site.Holds.unique {s : Shape} {k : RecordKind} {p : Site s k} {v : s.Val} {r r' : k.Val} (h : p.Holds v r)
    (h' : p.Holds v r') : r = r' := by
  induction p with
  | here => exact Eq.trans h.symm h'
  | nullable p ih =>
    obtain ⟨a, rfl, ha⟩ := h
    obtain ⟨b, hab, hb⟩ := h'
    obtain rfl := Option.some.inj hab
    exact ih ha hb
  | item before p after ih =>
    obtain ⟨a, hplace, ha⟩ := h
    obtain ⟨b, hab, hb⟩ := h'
    obtain rfl := Option.some.inj (hplace.symm.trans hab)
    exact ih ha hb
  | field f hf before p after ih | place f before hf p after ih =>
    obtain ⟨a, hmem, ha⟩ := h
    obtain ⟨b, hmem', hb⟩ := h'
    obtain rfl := eq_of_mem_contents hmem hmem'
    exact ih ha hb

def Shape.holdsRecords : Shape → Bool
  | .nullable s => s.holdsRecords
  | .listOf s => s.holdsRecords
  | .record _ => true
  | _ => false

theorem Site.holdsRecords {s : Shape} {k : RecordKind} (p : Site s k) : s.holdsRecords = true := by
  induction p with
  | nullable _ ih => exact ih
  | item _ _ _ ih => exact ih
  | _ => rfl

/-- A field with records in it tells null apart, so the record has there what was given. -/
theorem mem_contents_buildRecord {k : RecordKind} {slots : Slots k.fields} {f : Field} {a : f.shape.Val}
    (hf : f.shape.holdsRecords = true) (h : ⟨f, some a⟩ ∈ Slots.toList k.fields slots) :
    ⟨f, some a⟩ ∈ k.contents (buildRecord k slots) := by
  rw [RecordKind.contents]
  have hmem := mem_of_mem_toList h
  cases k with
  | tweet =>
    obtain ⟨id, idText, createdAt, text, source, language, user, retweeted, inReplyTo, geo, entities,
      extendedEntities, limitNotice, deleteNotice, ⟨⟩⟩ := slots
    simp only [RecordKind.fields, Slots.toList, RecordKind.slots, buildRecord, List.mem_cons] at h ⊢
    -- whatever place it is, the field has no records in it, or the record has what was given there
    rcases h with h | h | h | h | h | h | h | h | h | h | h | h | h | h | h <;> cases h <;>
      first | exact absurd hf (by decide) | simp
  | entities =>
    obtain ⟨hashtags, media, ⟨⟩⟩ := slots
    simpa only [RecordKind.slots, buildRecord, slot_presence] using h
  | extendedEntities =>
    obtain ⟨media, ⟨⟩⟩ := slots
    simpa only [RecordKind.slots, buildRecord, slot_presence] using h
  | _ =>
    have hnone := List.any_eq_false.mp (by decide : (RecordKind.fields _).any (·.shape.holdsRecords) = false) f hmem
    exact absurd hf hnone

section

variable {fit : ShapeFit} {f : Field} {v : Json}

theorem exists_mem_of_filled {members : List (String × Json)} {fs : List Field} {slots : Slots fs}
    (h : Slots.Filled fit members fs (Slots.empty fs) slots) (hf : f ∈ fs) (hv : (f.name, v) ∈ members) :
    ∃ a, fit f.shape v = .ok a ∧ ⟨f, some a⟩ ∈ Slots.toList fs slots := by
  induction fs with
  | nil => exact absurd hf (by simp)
  | cons g gs ih =>
    obtain ⟨slot, slots⟩ := slots
    obtain rfl | hgs := List.mem_cons.mp hf
    · obtain ⟨hnone, -⟩ | ⟨w, a, hone, ha, rfl⟩ := fillsSlot_none.mp h.1
      · exact absurd (mem_valuesOf.mpr hv) (by simp [hnone])
      · obtain rfl : v = w := by simpa [hone] using mem_valuesOf.mpr hv
        exact ⟨a, ha, List.mem_cons_self⟩
    · obtain ⟨a, ha, hmem⟩ := ih h.2 hgs
      exact ⟨a, ha, List.mem_cons_of_mem _ hmem⟩

theorem exists_mem_of_fitPositional {fs : List Field} {before after : List Json} {slots : Slots fs}
    (h : fitPositional fit fs (before ++ v :: after) = .ok slots) (hf : fs[before.length]? = some f) :
    ∃ a, fit f.shape v = .ok a ∧ ⟨f, some a⟩ ∈ Slots.toList fs slots := by
  obtain ⟨e, he⟩ | ⟨rest, hrest, hmem⟩ := fitPositional_place fit hf
  · rw [he] at h
    exact absurd h (by simp)
  · rw [hrest] at h
    obtain ⟨a, ha, hslots⟩ := bind_eq_ok.mp h
    exact ⟨a, ha, hmem after a slots hslots⟩

end

/-- What a document fits holds at the site what the document there fits. -/
theorem Site.exists_holds {s : Shape} {k : RecordKind} (p : Site s k) {j : Json} (hj : j ≠ .null) {n : Nat}
    {v : s.Val} (h : fit n s (p.fill j) = .ok v) : ∃ m r, fit m (.record k) j = .ok r ∧ p.Holds v r := by
  induction p generalizing n with
  | here => exact ⟨n, v, h, rfl⟩
  | nullable p ih =>
    rw [fill, fit_nullable, fitNullable_of_ne_null _ (p.fill_ne_null hj)] at h
    obtain ⟨a, ha, rfl⟩ := map_eq_ok.mp h
    obtain ⟨m, r, hr, hholds⟩ := ih ha
    exact ⟨m, r, hr, a, rfl, hholds⟩
  | item before p after ih =>
    obtain ⟨m, items, rfl, hitems, hmap⟩ := fit_listOf_eq_ok.mp h
    obtain rfl := Json.array.inj hitems
    obtain ⟨a, hplace, ha⟩ := exists_of_mapM_middle hmap
    obtain ⟨m, r, hr, hholds⟩ := ih ha
    exact ⟨m, r, hr, a, hplace, hholds⟩
  | field f hf before p after ih =>
    obtain ⟨m, slots, rfl, hfilled, rfl⟩ := fit_object_eq_ok.mp h
    obtain ⟨a, ha, hmem⟩ := exists_mem_of_filled (v := p.fill j) hfilled hf (by simp)
    obtain ⟨m, r, hr, hholds⟩ := ih ha
    exact ⟨m, r, hr, a, mem_contents_buildRecord p.holdsRecords hmem, hholds⟩
  | place f before hf p after ih =>
    obtain ⟨m, slots, rfl, hslots, rfl⟩ := fit_array_eq_ok.mp h
    obtain ⟨a, ha, hmem⟩ := exists_mem_of_fitPositional hslots hf
    obtain ⟨m, r, hr, hholds⟩ := ih ha
    exact ⟨m, r, hr, a, mem_contents_buildRecord p.holdsRecords hmem, hholds⟩

end FeedSieve.Wire
