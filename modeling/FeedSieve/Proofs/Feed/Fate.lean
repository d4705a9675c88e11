import FeedSieve.Feed.Run
import FeedSieve.Proofs.Feed.Decoding
import FeedSieve.Proofs.Sieve.Judging
import Mathlib.Data.List.Forall2

/-! What becomes of the lines of a stream. The sieve keeps a line, drops it for the first rule that its record
fails, or gives it up as malformed; blank lines are idle. The fates of the lines, in their order, determine what
a run gives: its output, the rejections under the numbers of their lines, and the tally. -/

namespace FeedSieve.Feed

inductive Fate where
  | idle
  | malformed
  | kept (raw : String)
  | dropped (rule : String)

/-- What becomes of a line that holds something. -/
inductive Fares (s : Sieve) : Reading → Fate → Prop
  | idle : Fares s .blank .idle
  | notText : Fares s .notText .malformed
  | undecodable (e : Json.ReadError) : Fares s (.undecodable e) .malformed
  | kept {t : Tweet} (raw : String) (h : ∀ r ∈ s.rules, r.condition.holds t = true) :
    Fares s (.record raw t) (.kept raw)
  | dropped {t : Tweet} (raw : String) {before after : List Rule} {r : Rule} (hrules : s.rules = before ++ r :: after)
    (hbefore : ∀ q ∈ before, q.condition.holds t = true) (hr : r.condition.holds t = false) :
    Fares s (.record raw t) (.dropped r.name)

def Course (s : Sieve) (bytes : List UInt8) (fates : List Fate) : Prop :=
  ∃ ls readings, Lined bytes ls ∧ List.Forall₂ Reads ls readings ∧ List.Forall₂ (Fares s) readings fates

namespace Fate

def output : Fate → String
  | .kept raw => raw ++ "\n"
  | _ => ""

/-- The rule for which a line is dropped. -/
def rule? : Fate → Option String
  | .dropped rule => some rule
  | _ => none

def isIdle : Fate → Bool
  | .idle => true
  | _ => false

def isMalformed : Fate → Bool
  | .malformed => true
  | _ => false

def isKept : Fate → Bool
  | .kept _ => true
  | _ => false

def isDropped : Fate → Bool
  | .dropped _ => true
  | _ => false

end Fate

def outputOf (fates : List Fate) : String := String.join (fates.map Fate.output)

/-- The rejections among lines, the first of them having the given number. -/
def rejectionsFrom (number : Nat) (fates : List Fate) : List (Nat × String) :=
  (fates.zipIdx number).filterMap fun p => p.1.rule?.map fun rule => (p.2, rule)

def tallyOf (fates : List Fate) : Tally :=
  ⟨fates.countP Fate.isKept, fates.countP Fate.isDropped, fates.countP Fate.isMalformed⟩

section

variable (fates : List Fate)

@[simp] theorem outputOf_cons (f : Fate) : outputOf (f :: fates) = f.output ++ outputOf fates := String.join_cons

@[simp] theorem tallyOf_idle : tallyOf (.idle :: fates) = tallyOf fates := by
  simp only [tallyOf, List.countP_cons]
  rfl

@[simp] theorem tallyOf_malformed :
    tallyOf (.malformed :: fates) = { tallyOf fates with malformed := (tallyOf fates).malformed + 1 } := by
  simp only [tallyOf, List.countP_cons]
  rfl

@[simp] theorem tallyOf_kept (raw : String) :
    tallyOf (.kept raw :: fates) = { tallyOf fates with kept := (tallyOf fates).kept + 1 } := by
  simp only [tallyOf, List.countP_cons]
  rfl

@[simp] theorem tallyOf_dropped (rule : String) :
    tallyOf (.dropped rule :: fates) = { tallyOf fates with dropped := (tallyOf fates).dropped + 1 } := by
  simp only [tallyOf, List.countP_cons]
  rfl

/-- Every line that is not idle is in the tally, once. -/
theorem tallyOf_total : (tallyOf fates).kept + (tallyOf fates).dropped + (tallyOf fates).malformed =
    fates.countP fun f => !f.isIdle := by
  induction fates with
  | nil => rfl
  | cons f fates ih =>
    rw [List.countP_cons, ← ih]
    cases f <;> simp [Fate.isIdle] <;> omega

end

/-! ### Fates determined -/

def fate (s : Sieve) : Reading → Fate
  | .notText | .undecodable _ => .malformed
  | .blank => .idle
  | .record raw t =>
    match s.rejectedBy t with
    | none => .kept raw
    | some rule => .dropped rule

section

variable {s : Sieve} {r : Reading} {f : Fate}

theorem fate_of_none {raw : String} {t : Tweet} (h : s.rejectedBy t = none) : fate s (.record raw t) = .kept raw := by
  rw [fate, h]

theorem fate_of_some {raw rule : String} {t : Tweet} (h : s.rejectedBy t = some rule) :
    fate s (.record raw t) = .dropped rule := by
  rw [fate, h]

theorem fares_iff : Fares s r f ↔ f = fate s r := by
  constructor
  · intro h
    cases h with
    | idle => rfl
    | notText => rfl
    | undecodable e => rfl
    | kept raw hall => exact (fate_of_none (Sieve.rejectedBy_eq_none_iff.mpr hall)).symm
    | dropped raw hrules hbefore hr =>
      exact (fate_of_some (Sieve.rejectedBy_eq_some_iff.mpr ⟨_, _, _, hrules, hbefore, hr, rfl⟩)).symm
  · rintro rfl
    cases r with
    | notText => exact .notText
    | blank => exact .idle
    | undecodable e => exact .undecodable e
    | record raw t =>
      cases hreject : s.rejectedBy t with
      | none =>
        rw [fate_of_none hreject]
        exact .kept raw (Sieve.rejectedBy_eq_none_iff.mp hreject)
      | some rule =>
        rw [fate_of_some hreject]
        obtain ⟨before, r, after, hrules, hbefore, hr, rfl⟩ := Sieve.rejectedBy_eq_some_iff.mp hreject
        exact .dropped raw hrules hbefore hr

theorem forall₂_iff_eq_map {α β : Type} {R : α → β → Prop} {g : α → β} {l : List α} {m : List β}
    (h : ∀ a ∈ l, ∀ b, R a b ↔ b = g a) : List.Forall₂ R l m ↔ m = l.map g := by
  induction l generalizing m with
  | nil => simp
  | cons a l ih =>
    have htail := fun m => @ih m fun b hb => h b (List.mem_cons_of_mem a hb)
    rw [List.forall₂_cons_left_iff]
    simp only [h a List.mem_cons_self, htail, List.map_cons]
    constructor
    · rintro ⟨_, _, rfl, rfl, rfl⟩
      rfl
    · rintro rfl
      exact ⟨_, _, rfl, rfl, rfl⟩

/-- Each stream has one course. -/
theorem course_iff {bytes : List UInt8} {fates : List Fate} :
    Course s bytes fates ↔ fates = (lines bytes).map fun line => fate s (reading line) := by
  have hlined : Lined bytes (lines bytes) := lined_iff.mpr rfl
  have hreads : ∀ line ∈ lines bytes, ∀ r, Reads line r ↔ r = reading line := by
    intro line hline r
    rw [reads_iff, and_iff_right (hlined.isLine line hline)]
  have hfates : ∀ readings : List Reading, List.Forall₂ (Fares s) readings fates ↔ fates = readings.map (fate s) :=
    fun readings => forall₂_iff_eq_map fun _ _ _ => fares_iff
  rw [← Function.comp_def, ← List.map_map]
  constructor
  · rintro ⟨ls, readings, hls, hreadings, hcourse⟩
    obtain rfl := lined_iff.mp hls
    rw [← (forall₂_iff_eq_map hreads).mp hreadings]
    exact (hfates readings).mp hcourse
  · intro hcourse
    exact ⟨lines bytes, (lines bytes).map reading, hlined, (forall₂_iff_eq_map hreads).mpr rfl, (hfates _).mpr hcourse⟩

end

/-! ### The run -/

/-- What has come of the lines once more of them have met their fates, the first of these having the given number. -/
def Progress.extend (p : Progress) (number : Nat) (fates : List Fate) : Progress where
  output := p.output ++ outputOf fates
  rejections := p.rejections ++ (rejectionsFrom number fates).toArray
  tally := ⟨p.tally.kept + (tallyOf fates).kept, p.tally.dropped + (tallyOf fates).dropped,
    p.tally.malformed + (tallyOf fates).malformed⟩

namespace Progress

variable (p : Progress) (number : Nat)

theorem extend_nil : p.extend number [] = p := by
  simp [extend, outputOf, rejectionsFrom, tallyOf]

theorem extend_cons (f : Fate) (fates : List Fate) :
    p.extend number (f :: fates) = (p.extend number [f]).extend (number + 1) fates := by
  have hrejections :
      rejectionsFrom number (f :: fates) = rejectionsFrom number [f] ++ rejectionsFrom (number + 1) fates := by
    rw [rejectionsFrom, List.zipIdx_cons, ← List.singleton_append, List.filterMap_append]
    rfl
  rw [extend, hrejections]
  simp only [extend, outputOf, tallyOf, List.map_cons, List.map_nil, List.countP_cons, List.countP_nil,
    String.join_cons, String.join_nil, String.append_empty, String.append_assoc, Array.append_assoc,
    List.append_toArray, Nat.zero_add, mk.injEq, Tally.mk.injEq, true_and]
  omega

theorem extend_idle : p.extend number [.idle] = p := by
  simp [extend, outputOf, rejectionsFrom, tallyOf, Fate.isKept, Fate.isDropped, Fate.isMalformed, Fate.output,
    Fate.rule?]

theorem extend_malformed : p.extend number [.malformed] = { p with tally.malformed := p.tally.malformed + 1 } := by
  simp [extend, outputOf, rejectionsFrom, tallyOf, Fate.isKept, Fate.isDropped, Fate.isMalformed, Fate.output,
    Fate.rule?]

theorem extend_kept (raw : String) : p.extend number [.kept raw] =
    { p with output := p.output ++ raw ++ "\n", tally.kept := p.tally.kept + 1 } := by
  simp [extend, outputOf, rejectionsFrom, tallyOf, Fate.isKept, Fate.isDropped, Fate.isMalformed, Fate.output,
    Fate.rule?, String.append_assoc]

theorem extend_dropped (rule : String) : p.extend number [.dropped rule] =
    { p with rejections := p.rejections.push (number, rule), tally.dropped := p.tally.dropped + 1 } := by
  simp [extend, outputOf, rejectionsFrom, tallyOf, Fate.isKept, Fate.isDropped, Fate.isMalformed, Fate.output,
    Fate.rule?]

end Progress

/-- A line takes the run one step on: to where its fate leads. -/
theorem foldl_item? {s : Sieve} {r : Reading} {f : Fate} (h : Fares s r f) (p : Progress) (number : Nat) :
    (r.item? number).toList.foldl (Progress.step s) p = p.extend number [f] := by
  rw [fares_iff.mp h]
  cases r with
  | notText => exact (p.extend_malformed number).symm
  | blank => exact (p.extend_idle number).symm
  | undecodable e => exact (p.extend_malformed number).symm
  | record raw t =>
    show Progress.step s p (.decoded number raw t) = _
    rw [Progress.step]
    cases hreject : s.rejectedBy t with
    | none =>
      rw [fate_of_none hreject]
      exact (p.extend_kept number raw).symm
    | some rule =>
      rw [fate_of_some hreject]
      exact (p.extend_dropped number rule).symm

/-- Lines take the run to where their fates lead. -/
theorem foldl_itemsFrom {s : Sieve} (ls : List (List UInt8)) (p : Progress) (number : Nat) :
    (itemsFrom number ls).foldl (Progress.step s) p = p.extend number (ls.map fun line => fate s (reading line)) := by
  induction ls generalizing p number with
  | nil => exact (p.extend_nil number).symm
  | cons line ls ih =>
    rw [itemsFrom, List.foldl_append, item?_eq, foldl_item? (fares_iff.mpr rfl), ih, List.map_cons,
      ← Progress.extend_cons]

/-- The course of a stream determines what a run gives. -/
theorem run_eq {s : Sieve} {bytes : List UInt8} {fates : List Fate} (h : Course s bytes fates) :
    run s bytes = ⟨outputOf fates, (rejectionsFrom 1 fates).toArray, tallyOf fates⟩ := by
  rw [run, items, foldl_itemsFrom, ← course_iff.mp h]
  simp [Progress.extend]

end FeedSieve.Feed
