import FeedSieve.Proofs.Json.Nested
import FeedSieve.Proofs.Wire.Regular

/-! Reading by shapes and the nesting of texts. Whatever is read is regular, at one depth more than its text:
the lists that are always written can add one level to a record that had none, and nothing adds more. -/

namespace FeedSieve.Wire

open Json

/-! ### Fields -/

section

variable {read : ShapeReader} {P : Nat → (s : Shape) → s.Val → Prop}

theorem Slots.all_empty {P : (s : Shape) → s.Val → Prop} (fs : List Field) : Slots.All P fs (Slots.empty fs) := by
  induction fs with
  | nil => trivial
  | cons f fs ih => exact ⟨by rintro v ⟨⟩, ih⟩

/-- A field is filled with what was read for it, the other fields stay as they are. -/
theorem within_fill (hread : ∀ s, Within (read s) fun k v => P k s v) {name : String} {cs rest : List Char}
    {fs : List Field} {slots slots' : Slots fs} (h : Slots.fill read name cs fs slots = some (.ok (slots', rest)))
    (n : Nat) : deepest .outside n rest ≤ deepest .outside n cs ∧
      ∀ b, deepest .outside n cs ≤ n + b → Slots.All (P b) fs slots → Slots.All (P b) fs slots' := by
  induction fs generalizing rest with
  | nil => exact absurd h (by simp [Slots.fill])
  | cons f fs ih =>
    obtain ⟨slot, slots⟩ := slots
    simp only [Slots.fill] at h
    split at h
    · cases slot with
      | some _ => exact absurd h (by simp)
      | none =>
        obtain ⟨ds, hcolon, h⟩ := bind_eq_ok.mp (Option.some.inj h)
        obtain ⟨⟨v, es⟩, hv, h⟩ := bind_eq_ok.mp h
        obtain ⟨rfl, rfl⟩ := Prod.mk.inj (Except.ok.inj h)
        obtain ⟨hes, hP⟩ := hread f.shape _ _ _ hv n
        rw [passes_skipColon hcolon n] at hes hP
        refine ⟨hes, fun b hb hall => ⟨?_, hall.2⟩⟩
        rintro w ⟨⟩
        exact hP b hb
    · obtain ⟨r, hr, h⟩ := Option.map_eq_some_iff.mp h
      obtain ⟨⟨slots'', es⟩, rfl, heq⟩ := map_eq_ok.mp h
      obtain ⟨rfl, rfl⟩ := Prod.mk.inj heq
      obtain ⟨hes, hP⟩ := ih hr
      exact ⟨hes, fun b hb hall => ⟨hall.1, hP b hb hall.2⟩⟩

theorem within_readKeyedWithin (hread : ∀ s, Within (read s) fun k v => P k s v) {fs : List Field} {k : Nat}
    {first : Bool} {cs rest : List Char} {slots slots' : Slots fs}
    (h : readKeyedWithin read fs k first slots cs = .ok (slots', rest)) (n : Nat) :
    deepest .outside n rest ≤ deepest .outside (n + 1) cs ∧
      ∀ b, deepest .outside (n + 1) cs ≤ n + 1 + b → Slots.All (P b) fs slots → Slots.All (P b) fs slots' := by
  induction k generalizing first cs slots with
  | zero => exact absurd h (by simp [readKeyedWithin])
  | succ k ih =>
    obtain ⟨ahead, hnext, h⟩ := bind_eq_ok.mp h
    have hds := deepest_nextMember hnext
    cases ahead with
    | close ds =>
      obtain ⟨rfl, rfl⟩ := Prod.mk.inj (Except.ok.inj h)
      exact ⟨hds n, fun b _ hall => hall⟩
    | item ds =>
      obtain ⟨⟨name, es⟩, hname, h⟩ := bind_eq_ok.mp h
      have hes : deepest .outside (n + 1) es = deepest .outside (n + 1) cs :=
        (deepest_readString hname (n + 1)).trans (hds (n + 1))
      dsimp only at h
      split at h
      · next filled hfilled =>
        obtain ⟨⟨slots'', fs⟩, rfl, h⟩ := bind_eq_ok.mp h
        obtain ⟨hfs, hP⟩ := within_fill hread hfilled (n + 1)
        obtain ⟨hrest, hPs⟩ := ih h
        rw [hes] at hfs hP
        exact ⟨hrest.trans hfs, fun b hb hall => hPs b (hfs.trans hb) (hP b hb hall)⟩
      · obtain ⟨fs, hcolon, h⟩ := bind_eq_ok.mp h
        obtain ⟨gs, hskip, h⟩ := bind_eq_ok.mp h
        have hgs := deepest_skipDocument hskip (n + 1)
        obtain ⟨hrest, hPs⟩ := ih h
        rw [passes_skipColon hcolon (n + 1), hes] at hgs
        exact ⟨hrest.trans hgs, fun b hb hall => hPs b (hgs.trans hb) hall⟩

theorem within_readPositional (hread : ∀ s, Within (read s) fun k v => P k s v) {fs : List Field} {first : Bool}
    {cs rest : List Char} {slots : Slots fs} (h : readPositional read fs first cs = .ok (slots, rest)) (n : Nat) :
    deepest .outside n rest ≤ deepest .outside (n + 1) cs ∧
      ∀ b, deepest .outside (n + 1) cs ≤ n + 1 + b → Slots.All (P b) fs slots := by
  induction fs generalizing first cs with
  | nil =>
    obtain ⟨ds, hclose, heq⟩ := map_eq_ok.mp h
    obtain ⟨rfl, rfl⟩ := Prod.mk.inj heq
    exact ⟨deepest_closeList hclose n, fun _ _ => trivial⟩
  | cons f fs ih =>
    obtain ⟨ahead, hnext, h⟩ := bind_eq_ok.mp h
    have hds := deepest_nextItem hnext
    cases ahead with
    | close ds =>
      obtain ⟨rfl, rfl⟩ := Prod.mk.inj (Except.ok.inj h)
      exact ⟨hds n, fun _ _ => Slots.all_empty _⟩
    | item ds =>
      obtain ⟨⟨v, es⟩, hv, h⟩ := bind_eq_ok.mp h
      obtain ⟨⟨slots, fs⟩, hslots, h⟩ := bind_eq_ok.mp h
      obtain ⟨rfl, rfl⟩ := Prod.mk.inj (Except.ok.inj h)
      obtain ⟨hes, hP⟩ := hread f.shape _ _ _ hv (n + 1)
      obtain ⟨hrest, hPs⟩ := ih hslots
      rw [hds (n + 1)] at hes hP
      refine ⟨hrest.trans hes, fun b hb => ⟨?_, hPs b (hes.trans hb)⟩⟩
      rintro w ⟨⟩
      exact hP b hb

end

/-! ### Shapes -/

theorem within_readScalar {α : Type} {accept : Found → Except Mismatch α} (ha : OnlyScalars accept)
    {P : Nat → α → Prop} (hP : ∀ k a, P k a) : Within (readScalar accept) P := by
  intro cs a rest h n
  obtain ⟨⟨f, ds⟩, hfound, h⟩ := bind_eq_ok.mp h
  have hds := deepest_readFound hfound n
  dsimp only at h
  split at h
  · next a' haccept =>
    obtain ⟨rfl, rfl⟩ := Prod.mk.inj (Except.ok.inj h)
    obtain ⟨harray, hobject⟩ := ha f _ haccept
    have hopened : f.opened = 0 := by cases f <;> simp_all [Found.opened]
    rw [hopened, Nat.add_zero] at hds
    exact ⟨hds.le, fun k _ => hP k _⟩
  · exact absurd h (by simp)

theorem within_readNullable {α : Type} {read : Reader α} {P : Nat → α → Prop} (hread : Within read P) :
    Within (readNullable read) fun k v => ∀ a ∈ v, P k a := by
  intro cs v rest h n
  have hspace := passes_skipSpace cs
  unfold readNullable at h
  split at h
  · next heq =>
    rw [heq] at hspace
    obtain ⟨ds, hword, hpair⟩ := map_eq_ok.mp h
    obtain ⟨rfl, rfl⟩ := Prod.mk.inj hpair
    exact ⟨(hspace.trans (passes_skipWord rfl hword) n).le, by simp⟩
  · obtain ⟨⟨a, ds⟩, ha, hpair⟩ := map_eq_ok.mp h
    obtain ⟨rfl, rfl⟩ := Prod.mk.inj hpair
    obtain ⟨hds, hP⟩ := hread _ _ _ ha n
    rw [hspace n] at hds hP
    refine ⟨hds, fun k hk => ?_⟩
    rintro b ⟨⟩
    exact hP k hk

section

variable {inner : Option ShapeReader}

theorem regular_nullable_iff {n : Nat} {s : Shape} {v : Option s.Val} :
    (Shape.nullable s).Regular n v ↔ ∀ a ∈ v, s.Regular n a := by
  cases v with
  | none => simp [Shape.Regular, Shape.toJson, Shape.Settled, depth]
  | some a =>
    have hjson : (Shape.nullable s).toJson (some a) = s.toJson a := rfl
    rw [Shape.Regular, hjson]
    simp [Shape.Regular, Shape.Settled]

/-- A record is regular at one depth more than its fields, if there is room for an empty list in it. -/
theorem regular_buildRecord {n : Nat} {k : RecordKind} {slots : Slots k.fields}
    (h : Slots.All (Shape.Regular (n + 1)) k.fields slots) :
    (Shape.record k).Regular (n + 2) (buildRecord k slots) := by
  refine regular_record_iff.mpr (h.slots_buildRecord ?_ ?_ ?_ ?_)
  · exact ⟨Nat.zero_le _, fun _ _ => trivial⟩
  · exact ⟨Nat.zero_le _, trivial⟩
  · exact regular_listOf_iff.mpr (by simp)
  · exact regular_listOf_iff.mpr (by simp)

theorem within_readRecord (hinner : ∀ read ∈ inner, ∀ s, Within (read s) fun k v => s.Regular (k + 1) v)
    (kind : RecordKind) : Within (readRecord inner kind) fun k r => (Shape.record kind).Regular (k + 1) r := by
  intro cs r rest h n
  obtain ⟨⟨f, ds⟩, hfound, h⟩ := bind_eq_ok.mp h
  have hds := deepest_readFound hfound n
  cases inner with
  | none => cases f <;> exact absurd h (by simp)
  | some read =>
    have hread := hinner read rfl
    cases f with
    | array =>
      obtain ⟨⟨slots, es⟩, hslots, heq⟩ := map_eq_ok.mp h
      obtain ⟨rfl, rfl⟩ := Prod.mk.inj heq
      obtain ⟨hes, hall⟩ := within_readPositional hread hslots n
      exact within_bracket hds hes fun b hb => regular_buildRecord (hall b hb)
    | object =>
      obtain ⟨⟨slots, es⟩, hslots, heq⟩ := map_eq_ok.mp h
      obtain ⟨rfl, rfl⟩ := Prod.mk.inj heq
      obtain ⟨hes, hall⟩ := within_readKeyedWithin hread hslots n
      exact within_bracket hds hes fun b hb => regular_buildRecord (hall b hb (Slots.all_empty _))
    | _ => exact absurd h (by simp)

theorem within_readListOf (hinner : ∀ read ∈ inner, ∀ s, Within (read s) fun k v => s.Regular (k + 1) v)
    (s : Shape) : Within (readListOf (inner.map (· s))) fun k vs => (Shape.listOf s).Regular (k + 1) vs := by
  intro cs vs rest h n
  obtain ⟨⟨f, ds⟩, hfound, h⟩ := bind_eq_ok.mp h
  have hds := deepest_readFound hfound n
  cases inner with
  | none => cases f <;> exact absurd h (by simp)
  | some read =>
    cases f with
    | array =>
      obtain ⟨hes, hall⟩ := (hinner read rfl s).readItemsWithin h n
      exact within_bracket hds hes fun b hb => regular_listOf_iff.mpr (hall b hb)
    | _ => exact absurd h (by simp)

theorem within_readShape {tree : Reader Json} (htree : Within tree fun k j => j.depth ≤ k)
    (hinner : ∀ read ∈ inner, ∀ s, Within (read s) fun k v => s.Regular (k + 1) v) (s : Shape) :
    Within (readShape tree inner s) fun k v => s.Regular (k + 1) v := by
  induction s with
  | word size =>
    refine within_readScalar (onlyScalars_accept size) fun k w => ⟨?_, trivial⟩
    cases size <;> exact Nat.zero_le _
  | real => exact within_readScalar onlyScalars_acceptReal fun k x => ⟨Nat.zero_le _, trivial⟩
  | text => exact within_readScalar onlyScalars_acceptText fun k s => ⟨Nat.zero_le _, trivial⟩
  | flag => exact within_readScalar onlyScalars_acceptFlag fun k b => ⟨Nat.zero_le _, trivial⟩
  | anything =>
    intro cs v rest h n
    obtain ⟨⟨j, ds⟩, hj, heq⟩ := map_eq_ok.mp h
    obtain ⟨rfl, rfl⟩ := Prod.mk.inj heq
    obtain ⟨hds, hdepth⟩ := htree _ _ _ hj n
    exact ⟨hds, fun k hk => ⟨depth_normal_le (Nat.le_succ_of_le (hdepth k hk)), isNormal_normal j⟩⟩
  | nullable s ih =>
    intro cs v rest h n
    obtain ⟨hds, hall⟩ := within_readNullable ih cs v rest h n
    exact ⟨hds, fun k hk => regular_nullable_iff.mpr (hall k hk)⟩
  | listOf s => exact within_readListOf hinner s
  | record k => exact within_readRecord hinner k

end

/-- What is read is regular, at one depth more than its text. -/
theorem within_read (n : Nat) (s : Shape) : Within (read n s) fun k v => s.Regular (k + 1) v := by
  induction n generalizing s with
  | zero => exact within_readShape (within_readTree 0) (by simp) s
  | succ n ih => exact within_readShape (within_readTree (n + 1)) (by simpa using ih) s

end FeedSieve.Wire
