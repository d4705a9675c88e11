import FeedSieve.Rule.Config
import FeedSieve.Sieve.Basic

/-! Drafts: steps that declare rules, one after another, to be adopted by an open sieve. A draft is all or
nothing. If a step fails, the rules declared before it are dropped again and the sieve stays open; if
none does, the sieve is sealed. A sealed sieve does not look at a draft. -/

namespace FeedSieve

/-- The direct declaration of a rule, with its argument as a value. -/
inductive Call where
  | flag (f : Flag)
  | alias (a : Alias)
  | keywords (f : KeywordForm) (words : List String)
  /-- Any language at all, or none. -/
  | anyLanguage (kept : Bool)
  | hashtags (exactly : Option UInt64)
deriving DecidableEq, Repr

def Call.rule : Call → Rule
  | .flag f => f.rule
  | .alias a => a.flag.rule
  | .keywords f words => f.rule (.ofList words)
  | .anyLanguage kept => (KeywordForm.language kept).rule .none
  | .hashtags exactly => hashtagRule (.of exactly)

inductive Step where
  | call (c : Call)
  /-- A rule of the caller's own. -/
  | custom (r : Rule)
  | declare (d : Declaration)
  /-- A declaration whose failure is passed over. -/
  | attempt (d : Declaration)
  /-- The draft is given up. -/
  | fail (e : RuleError)

/-- The rule that a step declares; none if it is passed over. -/
def Step.rule? : Step → Except RuleError (Option Rule)
  | .call c => .ok (some c.rule)
  | .custom r => .ok (some r)
  | .declare d => d.rule.map some
  | .attempt d =>
    match d.rule with
    | .ok r => .ok (some r)
    | .error _ => .ok none
  | .fail e => .error e

structure Adoption where
  outcome : Except RuleError Unit
  /-- Whether the draft was looked at. -/
  started : Bool
  /-- The number of rules after each step that declared one. -/
  sizes : List Nat

namespace Sieve

/-- Takes steps up to the first that fails. -/
def takeSteps (s : Sieve) : List Step → Sieve × Except RuleError Unit × List Nat
  | [] => (s, .ok (), [])
  | step :: steps =>
    match step.rule? with
    | .error e => (s, .error e, [])
    | .ok none => s.takeSteps steps
    | .ok (some r) =>
      let next := s.push r
      let (final, outcome, sizes) := next.takeSteps steps
      (final, outcome, next.size :: sizes)

/-- The name under which a draft is refused by a sealed sieve. -/
def draftName : String := "filters"

def adopt (s : Sieve) (steps : List Step) : Sieve × Adoption :=
  if s.isSealed then (s, ⟨.error (.alreadySealed draftName), false, []⟩)
  else match s.takeSteps steps with
    | (final, .error e, sizes) => (final.truncate s.size, ⟨.error e, true, sizes⟩)
    | (final, .ok (), sizes) => (final.sealed, ⟨.ok (), true, sizes⟩)

def adoptConfig (s : Sieve) (c : Config) : Sieve × Except RuleError Unit :=
  let (s, adoption) := s.adopt (c.declarations.map .declare)
  (s, adoption.outcome)

theorem adopt_of_isSealed {s : Sieve} (h : s.isSealed = true) (steps : List Step) :
    s.adopt steps = (s, ⟨.error (.alreadySealed draftName), false, []⟩) := by
  rw [adopt, if_pos h]

end Sieve

def Config.compile (c : Config) : Except RuleError Sieve :=
  let (s, outcome) := Sieve.empty.adoptConfig c
  outcome.map fun () => s

end FeedSieve
