import Mathlib.Order.Nat
import FeedSieve.Proofs.Json.Nesting
import FeedSieve.Proofs.Json.Reread

/-! Readers and the nesting of their texts. A reader of one value lifts to readers of lists and objects of
such values one bracket further in; so a tree is nested no deeper than its text, and, read back from its
written form, neither is the written form. -/

namespace FeedSieve.Json

/-- Reading never leaves a text nested deeper than it was, and what is read has the property at any depth that
the text does not exceed. -/
def Within {α : Type} (read : Reader α) (P : Nat → α → Prop) : Prop :=
  ∀ cs a rest, read cs = .ok (a, rest) → ∀ n, deepest .outside n rest ≤ deepest .outside n cs ∧
    ∀ k, deepest .outside n cs ≤ n + k → P k a

/-! ### Skipping -/

/-- Skipping leaves so many brackets, and never a text nested deeper than it was. -/
def Leaves (brackets : Nat) (skip : List Char → Except ReadError (List Char)) : Prop :=
  ∀ cs rest, skip cs = .ok rest → ∀ n, deepest .outside n rest ≤ deepest .outside (n + brackets) cs

section

variable {k : Nat}

theorem leaves_skipWithin_succ (hitems : Leaves 1 (skipItemsWithin k true))
    (hmembers : Leaves 1 (skipMembersWithin k true)) : Leaves 0 (skipWithin (k + 1)) := by
  intro cs rest h n
  unfold skipWithin at h
  rw [Nat.add_zero, ← passes_skipSpace cs n]
  split at h
  · exact absurd h (by simp)
  · next heq =>
    rw [heq]
    exact (passes_skipWord rfl h n).le
  · next heq =>
    rw [heq]
    exact (passes_skipWord rfl h n).le
  · next heq =>
    rw [heq]
    exact (passes_skipWord rfl h n).le
  · next heq =>
    rw [heq]
    exact (deepest_skipString h n).le
  · next heq =>
    rw [heq]
    exact hitems _ _ h n
  · next heq =>
    rw [heq]
    exact hmembers _ _ h n
  · next heq =>
    rw [heq]
    split at h
    · obtain ⟨⟨l, ds⟩, hliteral, rfl⟩ := map_eq_ok.mp h
      exact (passes_readLiteral hliteral n).le
    · exact absurd h (by simp)

theorem leaves_skipItemsWithin_succ (hskip : Leaves 0 (skipWithin k)) (hitems : Leaves 1 (skipItemsWithin k false))
    (first : Bool) : Leaves 1 (skipItemsWithin (k + 1) first) := by
  intro cs rest h n
  obtain ⟨a, hnext, h⟩ := bind_eq_ok.mp h
  have hds := deepest_nextItem hnext
  cases a with
  | close ds =>
    obtain rfl := Except.ok.inj h
    exact hds n
  | item ds =>
    obtain ⟨es, hes, h⟩ := bind_eq_ok.mp h
    calc deepest .outside n rest ≤ deepest .outside (n + 1) es := hitems _ _ h n
      _ ≤ deepest .outside (n + 1) ds := hskip _ _ hes (n + 1)
      _ = deepest .outside (n + 1) cs := hds (n + 1)

theorem leaves_skipMembersWithin_succ (hskip : Leaves 0 (skipWithin k))
    (hmembers : Leaves 1 (skipMembersWithin k false)) (first : Bool) :
    Leaves 1 (skipMembersWithin (k + 1) first) := by
  intro cs rest h n
  obtain ⟨a, hnext, h⟩ := bind_eq_ok.mp h
  have hds := deepest_nextMember hnext
  cases a with
  | close ds =>
    obtain rfl := Except.ok.inj h
    exact hds n
  | item ds =>
    obtain ⟨es, hname, h⟩ := bind_eq_ok.mp h
    obtain ⟨fs, hcolon, h⟩ := bind_eq_ok.mp h
    obtain ⟨gs, hgs, h⟩ := bind_eq_ok.mp h
    calc deepest .outside n rest ≤ deepest .outside (n + 1) gs := hmembers _ _ h n
      _ ≤ deepest .outside (n + 1) fs := hskip _ _ hgs (n + 1)
      _ = deepest .outside (n + 1) es := passes_skipColon hcolon (n + 1)
      _ = deepest .inside (n + 1) ds := deepest_skipString hname (n + 1)
      _ = deepest .outside (n + 1) cs := hds (n + 1)

end

theorem leaves_skip (k : Nat) :
    Leaves 0 (skipWithin k) ∧ ∀ first, Leaves 1 (skipItemsWithin k first) ∧ Leaves 1 (skipMembersWithin k first) := by
  induction k with
  | zero => simp [Leaves, skipWithin, skipItemsWithin, skipMembersWithin]
  | succ k ih =>
    obtain ⟨hskip, hparts⟩ := ih
    refine ⟨leaves_skipWithin_succ (hparts true).1 (hparts true).2, fun first => ⟨?_, ?_⟩⟩
    · exact leaves_skipItemsWithin_succ hskip (hparts false).1 first
    · exact leaves_skipMembersWithin_succ hskip (hparts false).2 first

theorem deepest_skipDocument {cs rest : List Char} (h : skipDocument cs = .ok rest) (n : Nat) :
    deepest .outside n rest ≤ deepest .outside n cs := (leaves_skip _).1 cs rest h n

/-! ### Lists and objects -/

section

variable {α : Type} {read : Reader α} {P : Nat → α → Prop}

/-- Items are read one bracket further in than the list. -/
theorem Within.readItemsWithin (hread : Within read P) {k : Nat} {first : Bool} {cs rest : List Char}
    {as : List α} (h : readItemsWithin read k first cs = .ok (as, rest)) (n : Nat) :
    deepest .outside n rest ≤ deepest .outside (n + 1) cs ∧
      ∀ b, deepest .outside (n + 1) cs ≤ n + 1 + b → ∀ a ∈ as, P b a := by
  induction k generalizing first cs as with
  | zero => exact absurd h (by simp [Json.readItemsWithin])
  | succ k ih =>
    obtain ⟨ahead, hnext, h⟩ := bind_eq_ok.mp h
    have hds := deepest_nextItem hnext
    cases ahead with
    | close ds =>
      obtain ⟨rfl, rfl⟩ := Prod.mk.inj (Except.ok.inj h)
      exact ⟨hds n, by simp⟩
    | item ds =>
      obtain ⟨⟨a, es⟩, ha, h⟩ := bind_eq_ok.mp h
      obtain ⟨⟨as', fs⟩, has, h⟩ := bind_eq_ok.mp h
      obtain ⟨rfl, rfl⟩ := Prod.mk.inj (Except.ok.inj h)
      obtain ⟨hes, hP⟩ := hread _ _ _ ha (n + 1)
      obtain ⟨hrest, hPs⟩ := ih has
      rw [hds (n + 1)] at hes hP
      refine ⟨hrest.trans hes, fun b hb => ?_⟩
      exact List.forall_mem_cons.mpr ⟨hP b hb, hPs b (hes.trans hb)⟩

/-- Members are read one bracket further in than the object. -/
theorem Within.readMembersWithin (hread : Within read P) {k : Nat} {first : Bool} {cs rest : List Char}
    {ms : List (String × α)} (h : readMembersWithin read k first cs = .ok (ms, rest)) (n : Nat) :
    deepest .outside n rest ≤ deepest .outside (n + 1) cs ∧
      ∀ b, deepest .outside (n + 1) cs ≤ n + 1 + b → ∀ m ∈ ms, P b m.2 := by
  induction k generalizing first cs ms with
  | zero => exact absurd h (by simp [Json.readMembersWithin])
  | succ k ih =>
    obtain ⟨ahead, hnext, h⟩ := bind_eq_ok.mp h
    have hds := deepest_nextMember hnext
    cases ahead with
    | close ds =>
      obtain ⟨rfl, rfl⟩ := Prod.mk.inj (Except.ok.inj h)
      exact ⟨hds n, by simp⟩
    | item ds =>
      obtain ⟨⟨name, es⟩, hname, h⟩ := bind_eq_ok.mp h
      obtain ⟨fs, hcolon, h⟩ := bind_eq_ok.mp h
      obtain ⟨⟨a, gs⟩, ha, h⟩ := bind_eq_ok.mp h
      obtain ⟨⟨ms', hs⟩, hms, h⟩ := bind_eq_ok.mp h
      obtain ⟨rfl, rfl⟩ := Prod.mk.inj (Except.ok.inj h)
      obtain ⟨hgs, hP⟩ := hread _ _ _ ha (n + 1)
      obtain ⟨hrest, hPs⟩ := ih hms
      rw [passes_skipColon hcolon (n + 1), deepest_readString hname (n + 1), hds (n + 1)] at hgs hP
      refine ⟨hrest.trans hgs, fun b hb => ?_⟩
      exact List.forall_mem_cons.mpr ⟨hP b hb, hPs b (hgs.trans hb)⟩

end

/-- What has a property at each depth that the text behind a bracket does not exceed has it, one level further
out, at those that the text with the bracket does not exceed. -/
theorem within_bracket {Q : Nat → Prop} {n : Nat} {cs ds rest : List Char}
    (hds : deepest .outside (n + 1) ds = deepest .outside n cs)
    (hrest : deepest .outside n rest ≤ deepest .outside (n + 1) ds)
    (hQ : ∀ b, deepest .outside (n + 1) ds ≤ n + 1 + b → Q (b + 1)) :
    deepest .outside n rest ≤ deepest .outside n cs ∧ ∀ k, deepest .outside n cs ≤ n + k → Q k := by
  rw [← hds]
  refine ⟨hrest, fun k hk => ?_⟩
  have hbelow := le_deepest .outside (n + 1) ds
  obtain ⟨b, rfl⟩ : ∃ b, k = b + 1 := ⟨k - 1, by omega⟩
  exact hQ b (by omega)

/-! ### Trees -/

theorem within_readNode {inner : Option (Reader Json)}
    (hinner : ∀ read ∈ inner, Within read fun k j => j.depth ≤ k) : Within (readNode inner) fun k j => j.depth ≤ k := by
  intro cs j rest h n
  obtain ⟨⟨f, ds⟩, hfound, h⟩ := bind_eq_ok.mp h
  have hds := deepest_readFound hfound n
  have hscalar : ∀ {j' : Json}, f.opened = 0 → j'.depth = 0 → (.ok (j', ds) : Except ReadError _) = .ok (j, rest) →
      deepest .outside n rest ≤ deepest .outside n cs ∧ ∀ k, deepest .outside n cs ≤ n + k → j.depth ≤ k := by
    intro j' hf hj heq
    obtain ⟨rfl, rfl⟩ := Prod.mk.inj (Except.ok.inj heq)
    rw [hf, Nat.add_zero] at hds
    exact ⟨hds.le, fun k _ => by omega⟩
  cases f with
  | null => exact hscalar rfl rfl h
  | bool b => exact hscalar rfl rfl h
  | number m => exact hscalar rfl rfl h
  | string s => exact hscalar rfl rfl h
  | array =>
    cases inner with
    | none => exact absurd h (by simp)
    | some read =>
      obtain ⟨⟨items, es⟩, hitems, heq⟩ := map_eq_ok.mp h
      obtain ⟨rfl, rfl⟩ := Prod.mk.inj heq
      obtain ⟨hes, hdepth⟩ := (hinner read rfl).readItemsWithin hitems n
      exact within_bracket hds hes fun b hb => depth_array_le.mpr (hdepth b hb)
  | object =>
    cases inner with
    | none => exact absurd h (by simp)
    | some read =>
      obtain ⟨⟨members, es⟩, hmembers, heq⟩ := map_eq_ok.mp h
      obtain ⟨rfl, rfl⟩ := Prod.mk.inj heq
      obtain ⟨hes, hdepth⟩ := (hinner read rfl).readMembersWithin hmembers n
      exact within_bracket hds hes fun b hb => depth_object_le.mpr (hdepth b hb)

/-- A tree is nested no deeper than its text. -/
theorem within_readTree (m : Nat) : Within (readTree m) fun k j => j.depth ≤ k := by
  induction m with
  | zero => exact within_readNode (by simp)
  | succ m ih => exact within_readNode (by simpa using ih)

/-- A document without doubles is nested no deeper than its written form. -/
theorem depth_le_nesting {j : Json} (h : j.IsFloatFree) : j.depth ≤ nesting j.text := by
  have hread := readTree_render h.isWritable j.depth [] (.nil _)
  rw [List.append_nil, reread_eq_ok h j.depth.le_refl, map_ok] at hread
  have hwithin := (within_readTree j.depth _ _ _ hread 0).2 (nesting j.text)
  apply hwithin
  rw [nesting, text, String.toList_ofList, Nat.zero_add]

end FeedSieve.Json
