import FeedSieve.Json.Token
import FeedSieve.Proofs.Outcome

/-! Numbers in writing. A literal has a text, and reading that text from the front of a longer one
gives the literal back, provided the longer one does not go on with the number. Every number is
written as the text of a literal. An integer then reads back as itself; which double a written
double reads back as depends on two roundings, and nothing is said about it. -/

namespace FeedSieve.Json

/-! ### Runs of digits -/

/-- A text that does not begin with a character of the kind. -/
def StartsWithout (p : Char → Bool) (cs : List Char) : Prop := ∀ c ∈ cs.head?, p c = false

theorem StartsWithout.nil (p : Char → Bool) : StartsWithout p [] := by simp [StartsWithout]

theorem StartsWithout.cons {p : Char → Bool} {c : Char} (h : p c = false) (cs : List Char) :
    StartsWithout p (c :: cs) := by simpa [StartsWithout] using h

theorem StartsWithout.mono {p q : Char → Bool} {cs : List Char} (h : StartsWithout q cs)
    (hpq : ∀ c, p c = true → q c = true) : StartsWithout p cs := by
  intro c hc
  have hq := h c hc
  cases hp : p c with
  | false => rfl
  | true => rw [hpq c hp] at hq; exact hq

theorem StartsWithout.takeWhile {p : Char → Bool} {cs : List Char} (h : StartsWithout p cs) :
    cs.takeWhile p = [] := by
  cases cs with
  | nil => rfl
  | cons c cs => simp [h c (by simp)]

theorem StartsWithout.dropWhile {p : Char → Bool} {cs : List Char} (h : StartsWithout p cs) :
    cs.dropWhile p = cs := by
  cases cs with
  | nil => rfl
  | cons c cs => simp [h c (by simp)]

/-- A nonempty run of digits. -/
def IsRun (ds : List Char) : Prop := ds ≠ [] ∧ ∀ c ∈ ds, c.isDigit = true

theorem isRun_toDigits (n : Nat) : IsRun (Nat.toDigits 10 n) :=
  ⟨Nat.toDigits_ne_nil, fun _ h => Nat.isDigit_of_mem_toDigits (by decide) (by decide) h⟩

theorem readDigits_append {ds rest : List Char} (e : ReadError) (h : IsRun ds)
    (hr : StartsWithout Char.isDigit rest) : readDigits e (ds ++ rest) = .ok (ds, rest) := by
  obtain ⟨hne, hd⟩ := h
  have ht : (ds ++ rest).takeWhile Char.isDigit = ds := by
    rw [List.takeWhile_append_of_pos hd, hr.takeWhile, List.append_nil]
  have hw : (ds ++ rest).dropWhile Char.isDigit = rest := by
    rw [List.dropWhile_append_of_pos hd, hr.dropWhile]
  cases ds with
  | nil => exact absurd rfl hne
  | cons d ds =>
    rw [List.cons_append] at ht hw ⊢
    rw [readDigits, if_pos (hd d (by simp)), ht, hw]

/-! ### Literals -/

/-- Whether a number could go on with the character. -/
def continuesNumber (c : Char) : Bool := c.isDigit || c = '.' || c = 'e' || c = 'E'

/-- A text that a number written before it does not run into. -/
abbrev Stops (cs : List Char) : Prop := StartsWithout continuesNumber cs

theorem Stops.noDigit {cs : List Char} (h : Stops cs) : StartsWithout Char.isDigit cs :=
  h.mono fun c hc => by simp [continuesNumber, hc]

/-- The written form of a power of ten, which always shows its sign. -/
def powerText : Option Int → List Char
  | none => []
  | some p => 'e' :: (if p < 0 then '-' else '+') :: Nat.toDigits 10 p.natAbs

/-- The written form of what follows the digits before the point. -/
def fractionText : Option (List Char) → List Char
  | none => []
  | some ds => '.' :: ds

def Literal.text (l : Literal) : List Char :=
  (if l.negative then ['-'] else []) ++ (l.whole ++ (fractionText l.fraction ++ powerText l.power))

/-- A literal that can be written: its runs are runs of digits, and the first one has no needless
zero in front. -/
structure Literal.WellFormed (l : Literal) : Prop where
  whole : IsRun l.whole
  zero : l.whole.head? = some '0' → l.whole = ['0']
  fraction : ∀ ds ∈ l.fraction, IsRun ds

/-- The sign and the digits of an integer give it back. -/
theorem signed_natAbs (n : Int) : (if n < 0 then -(n.natAbs : Int) else n.natAbs) = n := by
  split <;> omega

theorem readPowerDigits_toDigits {rest : List Char} (e : ReadError) (p : Int) (hr : Stops rest) :
    readPowerDigits e (p < 0) (Nat.toDigits 10 p.natAbs ++ rest) = .ok (some p, rest) := by
  rw [readPowerDigits, readDigits_append e (isRun_toDigits _) hr.noDigit, map_ok]
  simp only [Nat.ofDigitChars_ten_toDigits, decide_eq_true_eq, signed_natAbs]

theorem readPower_text {p : Option Int} {rest : List Char} (e : ReadError) (hr : Stops rest) :
    readPower e (powerText p ++ rest) = .ok (p, rest) := by
  cases p with
  | none =>
    cases rest with
    | nil => rfl
    | cons c cs =>
      have hc := hr c (by simp)
      simp only [continuesNumber, Bool.or_eq_false_iff, decide_eq_false_iff_not] at hc
      simp [powerText, readPower, hc.1.2, hc.2]
  | some p =>
    have hdigits := readPowerDigits_toDigits e p hr
    by_cases hp : p < 0
    · rw [decide_eq_true hp] at hdigits
      simp [powerText, readPower, hp, hdigits]
    · rw [decide_eq_false hp] at hdigits
      simp [powerText, readPower, hp, hdigits]

theorem powerText_append_noDigit (p : Option Int) {rest : List Char} (hr : Stops rest) :
    StartsWithout Char.isDigit (powerText p ++ rest) := by
  cases p with
  | none => exact hr.noDigit
  | some p => exact .cons (by decide) _

theorem readFraction_text {f : Option (List Char)} (hf : ∀ ds ∈ f, IsRun ds) (p : Option Int)
    {rest : List Char} (e : ReadError) (hr : Stops rest) :
    readFraction e (fractionText f ++ (powerText p ++ rest)) = .ok (f, powerText p ++ rest) := by
  cases f with
  | some ds =>
    have hd := readDigits_append e (hf ds rfl) (powerText_append_noDigit p hr)
    simp [fractionText, readFraction, hd]
  | none =>
    cases p with
    | some p => simp [fractionText, powerText, readFraction]
    | none =>
      cases rest with
      | nil => rfl
      | cons c cs =>
        have hc : c ≠ '.' := by rintro rfl; exact absurd (hr '.' rfl) (by decide)
        simp only [fractionText, powerText, List.nil_append]
        unfold readFraction
        split
        · next h => simp_all
        · rfl

theorem readWhole_append {ds rest : List Char} (e : ReadError) (h : IsRun ds)
    (hz : ds.head? = some '0' → ds = ['0']) (hr : StartsWithout Char.isDigit rest) :
    readWhole e (ds ++ rest) = .ok (ds, rest) := by
  cases ds with
  | nil => exact absurd rfl h.1
  | cons d ds =>
    by_cases hd : d = '0'
    · obtain rfl : ds = [] := by simpa [hd] using hz
      subst hd
      cases rest with
      | nil => rfl
      | cons c cs => simp [readWhole, hr c (by simp)]
    · rw [List.cons_append, readWhole, ← List.cons_append, readDigits_append e h hr]
      · exact List.cons_ne_nil d (ds ++ rest)
      · intro cs hcs
        exact hd (List.cons.inj hcs).1

theorem head_text (l : Literal) (h : l.WellFormed) :
    ∃ c cs, l.text = c :: cs ∧ startsNumber c = true := by
  obtain ⟨d, ds, hds⟩ := List.exists_cons_of_ne_nil h.whole.1
  have hd : d.isDigit = true := h.whole.2 d (by simp [hds])
  cases hn : l.negative with
  | true =>
    exact ⟨'-', l.whole ++ (fractionText l.fraction ++ powerText l.power), by simp [Literal.text, hn],
      by decide⟩
  | false =>
    exact ⟨d, ds ++ (fractionText l.fraction ++ powerText l.power), by simp [Literal.text, hn, hds],
      by simp [startsNumber, hd]⟩

/-- A literal is read back from its text, and the text after it is left. -/
theorem readLiteral_text (l : Literal) (h : l.WellFormed) {rest : List Char} (e : ReadError)
    (hr : Stops rest) : readLiteral e (l.text ++ rest) = .ok (l, rest) := by
  obtain ⟨negative, whole, fraction, power⟩ := l
  have hf : StartsWithout Char.isDigit (fractionText fraction ++ (powerText power ++ rest)) := by
    cases fraction with
    | none => exact powerText_append_noDigit power hr
    | some ds => exact .cons (by decide) _
  have hw := readWhole_append e h.whole h.zero hf
  have hfr := readFraction_text h.fraction power e hr
  have hp := readPower_text (p := power) e hr
  cases negative with
  | true => simp [Literal.text, readLiteral, hw, hfr, hp]
  | false =>
    obtain ⟨d, ds, rfl⟩ := List.exists_cons_of_ne_nil h.whole.1
    have hd : d ≠ '-' := by
      rintro rfl
      exact absurd (h.whole.2 '-' (by simp)) (by decide)
    simp [Literal.text, readLiteral, hd] at hw ⊢
    simp [hw, hfr, hp]

end FeedSieve.Json
