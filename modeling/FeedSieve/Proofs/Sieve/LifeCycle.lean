import FeedSieve.Proofs.Sieve.Draft

/-! The life of a sieve over whole runs. Every operation that there is on a sieve is one step; what the
steps did is read off their answers alone, and this trace determines the rules and the seal. Only adding
and adopting look at the seal, pushing and cutting back do not, so the laws are invariants of runs. -/

namespace FeedSieve

inductive Operation where
  | add (r : Rule)
  | close
  /-- A draft that cannot fail. -/
  | filters (steps : List { step : Step // step.Passes })
  | tryFilters (steps : List Step)
  | apply (c : Config)
  | judge (ts : List Tweet)

inductive Answer where
  | done (outcome : Except RuleError Unit)
  | adoption (a : Adoption)
  | verdicts (vs : List Verdict)

def Answer.succeeded : Answer → Bool
  | .done outcome => outcome.isOk
  | .adoption a => a.outcome.isOk
  | .verdicts _ => true

namespace Operation

/-- What an operation makes of a sieve, and its answer. -/
def run (s : Sieve) : Operation → Sieve × Answer
  | .add r => ((s.add r).1, .done (s.add r).2)
  | .close => (s.sealed, .done (.ok ()))
  | .filters steps => ((s.adopt (steps.map (·.1))).1, .adoption (s.adopt (steps.map (·.1))).2)
  | .tryFilters steps => ((s.adopt steps).1, .adoption (s.adopt steps).2)
  | .apply c => ((s.adoptConfig c).1, .done (s.adoptConfig c).2)
  | .judge ts => (s, .verdicts (s.verdicts ts))

/-- The rules that an operation appends if it succeeds. -/
def appends : Operation → List Rule
  | .add r => [r]
  | .filters steps => declaredRules (steps.map (·.1))
  | .tryFilters steps => declaredRules steps
  | .apply c => declaredRules (c.declarations.map .declare)
  | _ => []

def seals : Operation → Bool
  | .add _ => false
  | .judge _ => false
  | _ => true

/-- What a sealed sieve answers: whatever would change it is refused without being looked at. -/
def answerSealed (s : Sieve) : Operation → Answer
  | .add r => .done (.error (.alreadySealed r.name))
  | .close => .done (.ok ())
  | .filters _ => .adoption ⟨.error (.alreadySealed "filters"), false, []⟩
  | .tryFilters _ => .adoption ⟨.error (.alreadySealed "filters"), false, []⟩
  | .apply _ => .done (.error (.alreadySealed "filters"))
  | .judge ts => .verdicts (s.verdicts ts)

/-! ### One operation -/

theorem run_of_isSealed {s : Sieve} (h : s.isSealed = true) (op : Operation) :
    op.run s = (s, op.answerSealed s) := by
  have hsealed : s.sealed = s := by rw [Sieve.sealed, ← h]
  cases op with
  | add r => simp [run, Sieve.add, h, answerSealed]
  | close => rw [run, hsealed, answerSealed]
  | judge ts => rfl
  | apply c =>
    rw [run, Sieve.adoptConfig, Sieve.adopt_of_isSealed h]
    rfl
  | _ =>
    rw [run, Sieve.adopt_of_isSealed h]
    rfl

/-- The step of every run: an operation that succeeds appends its rules and seals if it is of that kind, and
one that fails does neither. -/
theorem run_spec (s : Sieve) (op : Operation) :
    (op.run s).1.rules = s.rules ++ (if (op.run s).2.succeeded then op.appends else []) ∧
      (op.run s).1.isSealed = (s.isSealed || op.seals && (op.run s).2.succeeded) := by
  cases op with
  | add r =>
    cases h : s.isSealed <;>
      simp [run, Sieve.add, h, Answer.succeeded, appends, seals, Except.isOk, Except.toBool]
  | close => simp [run, Answer.succeeded, appends, seals, Except.isOk, Except.toBool]
  | judge ts => simp [run, Answer.succeeded, appends, seals]
  | filters steps => exact s.adopt_spec _
  | tryFilters steps => exact s.adopt_spec steps
  | apply c => exact s.adopt_spec _

end Operation

/-! ### Runs -/

namespace Sieve

def after (s : Sieve) (ops : List Operation) : Sieve := ops.foldl (fun s op => (op.run s).1) s

/-- The operations of a run, each with its answer. -/
def trace (s : Sieve) : List Operation → List (Operation × Answer)
  | [] => []
  | op :: ops => (op, (op.run s).2) :: (op.run s).1.trace ops

theorem after_append (s : Sieve) (before later : List Operation) :
    s.after (before ++ later) = (s.after before).after later := List.foldl_append

/-- What the answers of a run say has been appended. -/
def appendedIn (run : List (Operation × Answer)) : List Rule :=
  (run.filter (·.2.succeeded)).flatMap (·.1.appends)

theorem rules_after (s : Sieve) (ops : List Operation) :
    (s.after ops).rules = s.rules ++ appendedIn (s.trace ops) := by
  induction ops generalizing s with
  | nil => simp [after, trace, appendedIn]
  | cons op ops ih =>
    have hstep := (Operation.run_spec s op).1
    have hrest := ih (op.run s).1
    rw [hstep] at hrest
    rw [after, List.foldl_cons, ← after, hrest, trace, appendedIn, appendedIn, List.filter_cons]
    cases (op.run s).2.succeeded <;> simp

theorem isSealed_after (s : Sieve) (ops : List Operation) :
    (s.after ops).isSealed = (s.isSealed || (s.trace ops).any fun e => e.1.seals && e.2.succeeded) := by
  induction ops generalizing s with
  | nil => simp [after, trace]
  | cons op ops ih =>
    have hstep := (Operation.run_spec s op).2
    have hrest := ih (op.run s).1
    rw [hstep] at hrest
    rw [after, List.foldl_cons, ← after, hrest, trace, List.any_cons, Bool.or_assoc]

theorem after_of_isSealed {s : Sieve} (h : s.isSealed = true) (ops : List Operation) : s.after ops = s := by
  induction ops with
  | nil => rfl
  | cons op ops ih => rw [after, List.foldl_cons, Operation.run_of_isSealed h, ← after, ih]

/-- The life cycle of a sieve. After any run that begins with a new sieve, its rules are those which the
additions and drafts that succeeded have appended, in their order, and it is sealed if and only if it was
sealed by hand or some draft succeeded. From the first seal on, whatever would change it is refused
without being looked at, and its rules, their names and its answers about records stay what they were. -/
theorem life_cycle (ops : List Operation) :
    (empty.after ops).rules = appendedIn (empty.trace ops) ∧
    ((empty.after ops).isSealed = true ↔
      ∃ e ∈ empty.trace ops, e.1.seals = true ∧ e.2.succeeded = true) ∧
    ∀ before op later, ops = before ++ op :: later →
      (∃ e ∈ empty.trace before, e.1.seals = true ∧ e.2.succeeded = true) →
        (op.run (empty.after before)).2 = op.answerSealed (empty.after before) ∧
        (empty.after ops).rules = (empty.after before).rules ∧
        (empty.after ops).names = (empty.after before).names ∧
        ∀ t, (empty.after ops).keeps t = (empty.after before).keeps t ∧
          (empty.after ops).rejectedBy t = (empty.after before).rejectedBy t := by
  have hseal : ∀ ops, (empty.after ops).isSealed = true ↔
      ∃ e ∈ empty.trace ops, e.1.seals = true ∧ e.2.succeeded = true := by
    intro ops
    rw [isSealed_after]
    simp [empty]
  refine ⟨?_, hseal ops, ?_⟩
  · rw [rules_after]
    rfl
  · rintro before op later rfl hbefore
    have hsealed := (hseal before).mpr hbefore
    have hrest : empty.after (before ++ op :: later) = empty.after before := by
      rw [after_append, after_of_isSealed hsealed]
    rw [hrest, Operation.run_of_isSealed hsealed]
    exact ⟨rfl, rfl, rfl, fun t => ⟨rfl, rfl⟩⟩

/-- A draft that is given up, a rule by hand, and the seal. -/
def earlyRun : List Operation :=
  [.tryFilters [.call (.flag .withGeo), .fail (.unknownDeclaration "withGeoo")],
    .add (Flag.rule .withoutRetweets), .close]

theorem life_cycle_late_rule :
    ((Operation.add (Flag.rule .onlyVerified)).run (empty.after earlyRun)).2 =
      .done (.error (.alreadySealed "onlyVerified")) ∧
    (empty.after (earlyRun ++ [.add (Flag.rule .onlyVerified)])).names = (empty.after earlyRun).names := by
  have hclosed : ∃ e ∈ empty.trace earlyRun, e.1.seals = true ∧ e.2.succeeded = true :=
    ⟨(.close, .done (.ok ())), by simp [earlyRun, trace, Operation.run], rfl, rfl⟩
  have hlate := (life_cycle _).2.2 earlyRun (.add (Flag.rule .onlyVerified)) [] rfl hclosed
  exact ⟨hlate.1, hlate.2.2.1⟩

end Sieve

end FeedSieve
