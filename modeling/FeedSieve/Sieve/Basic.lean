import FeedSieve.Rule.Condition

/-! Sieves: rules in the order in which they were added, all of which a record has to meet. An open
sieve takes further rules; once sealed it only judges. Rules are asked in their order, and none after
the first that fails. -/

namespace FeedSieve

/-- What asking the rules about a record has shown. -/
structure Verdict where
  /-- The name of the first rule that fails. -/
  rejectedBy : Option String
  /-- How many rules have been asked. -/
  asked : Nat
deriving DecidableEq, Repr

def Verdict.kept (v : Verdict) : Bool := v.rejectedBy.isNone

/-- Asks rules about a record, up to the first that fails. -/
def judge (t : Tweet) : List Rule → Verdict
  | [] => ⟨none, 0⟩
  | r :: rs =>
    if r.condition.holds t then
      let v := judge t rs
      ⟨v.rejectedBy, v.asked + 1⟩
    else ⟨some r.name, 1⟩

theorem kept_judge (t : Tweet) (rs : List Rule) :
    (judge t rs).kept = rs.all (·.condition.holds t) := by
  induction rs with
  | nil => rfl
  | cons r rs ih =>
    rw [judge, List.all_cons, ← ih]
    cases r.condition.holds t <;> simp [Verdict.kept]

theorem rejectedBy_judge_append (t : Tweet) (rs ss : List Rule) :
    (judge t (rs ++ ss)).rejectedBy = (judge t rs).rejectedBy.or (judge t ss).rejectedBy := by
  induction rs with
  | nil => simp [judge]
  | cons r rs ih =>
    rw [List.cons_append, judge, judge]
    split
    · exact ih
    · rfl

/-- Rules and whether there may be more of them. -/
structure Sieve where
  rules : List Rule := []
  isSealed : Bool := false

namespace Sieve

def empty : Sieve := {}

def names (s : Sieve) : List String := s.rules.map (·.name)

def size (s : Sieve) : Nat := s.rules.length

def isEmpty (s : Sieve) : Bool := s.rules.isEmpty

/-! ### Changing a sieve -/

def push (s : Sieve) (r : Rule) : Sieve := { s with rules := s.rules ++ [r] }

def truncate (s : Sieve) (size : Nat) : Sieve := { s with rules := s.rules.take size }

def sealed (s : Sieve) : Sieve := { s with isSealed := true }

/-- Adds a rule to an open sieve; a sealed one stays as it is. -/
def add (s : Sieve) (r : Rule) : Sieve × Except RuleError Unit :=
  if s.isSealed then (s, .error (.alreadySealed r.name)) else (s.push r, .ok ())

@[simp] theorem rules_push (s : Sieve) (r : Rule) : (s.push r).rules = s.rules ++ [r] := rfl

@[simp] theorem isSealed_push (s : Sieve) (r : Rule) : (s.push r).isSealed = s.isSealed := rfl

@[simp] theorem rules_truncate (s : Sieve) (n : Nat) : (s.truncate n).rules = s.rules.take n := rfl

@[simp] theorem isSealed_truncate (s : Sieve) (n : Nat) : (s.truncate n).isSealed = s.isSealed := rfl

@[simp] theorem rules_sealed (s : Sieve) : s.sealed.rules = s.rules := rfl

@[simp] theorem isSealed_sealed (s : Sieve) : s.sealed.isSealed = true := rfl

/-! ### Judging records -/

def verdict (s : Sieve) (t : Tweet) : Verdict := judge t s.rules

def rejectedBy (s : Sieve) (t : Tweet) : Option String := (s.verdict t).rejectedBy

/-- Whether a record meets all rules. -/
def keeps (s : Sieve) (t : Tweet) : Bool := (s.verdict t).kept

def verdicts (s : Sieve) (ts : List Tweet) : List Verdict := ts.map s.verdict

def keepsEach (s : Sieve) (ts : List Tweet) : List Bool := (s.verdicts ts).map Verdict.kept

def retain (s : Sieve) (ts : List Tweet) : List Tweet := ts.filter s.keeps

end Sieve

end FeedSieve
