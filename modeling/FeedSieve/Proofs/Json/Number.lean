import FeedSieve.Proofs.Json.Literal

/-! Every number that has a written form is written as the text of a literal. -/

namespace FeedSieve.Json

/-! ### Doubles -/

theorem head?_append_of_ne_nil {cs ds : List Char} (h : cs ≠ []) : (cs ++ ds).head? = cs.head? := by
  obtain ⟨c, cs, rfl⟩ := List.exists_cons_of_ne_nil h
  rfl

theorem head_toDigits {n : Nat} (h : (Nat.toDigits 10 n).head? = some '0') : n = 0 := by
  induction n using Nat.strongRecOn with
  | ind n ih =>
    by_cases hn : n < 10
    · rw [Nat.toDigits_of_lt_base hn] at h
      simpa using h
    · rw [Nat.toDigits_of_base_le (by decide) (by omega)] at h
      have hq : (Nat.toDigits 10 (n / 10)).head? = some '0' := by
        rwa [head?_append_of_ne_nil Nat.toDigits_ne_nil] at h
      have := ih (n / 10) (by omega) hq
      omega

namespace Number

open Decimal

variable {ds : List Char} {place : Int}

theorem isRun_zeros_append (n : Nat) (h : IsRun ds) : IsRun (List.replicate n '0' ++ ds) := by
  refine ⟨by simp [h.1], fun c hc => ?_⟩
  rcases List.mem_append.mp hc with hc | hc
  · rw [(List.mem_replicate.mp hc).2]
    decide
  · exact h.2 c hc

theorem isRun_append_zeros (n : Nat) (h : IsRun ds) : IsRun (ds ++ List.replicate n '0') := by
  refine ⟨by simp [h.1], fun c hc => ?_⟩
  rcases List.mem_append.mp hc with hc | hc
  · exact h.2 c hc
  · rw [(List.mem_replicate.mp hc).2]
    decide

/-- A literal without a sign that has the given text. -/
def Unsigned (text : List Char) : Prop := ∃ l : Literal, l.WellFormed ∧ l.negative = false ∧ l.text = text

theorem unsigned_plain (h : IsRun ds) (hz : ds.head? = some '0' → ds = ['0'] ∧ place = 0) :
    Unsigned (layout.plain ds place) := by
  unfold Layout.plain
  split
  · refine ⟨⟨false, ['0'], some (List.replicate (-place - 1).toNat '0' ++ ds), none⟩, ⟨?_, ?_, ?_⟩, rfl, ?_⟩
    · exact isRun_toDigits 0
    · exact fun _ => rfl
    · rintro _ ⟨⟩
      exact isRun_zeros_append _ h
    · simp [Literal.text, fractionText, powerText]
  · next hp =>
    have hc : 1 ≤ place.toNat + 1 := by omega
    generalize hcount : place.toNat + 1 = count at hc
    dsimp only
    split
    · refine ⟨⟨false, ds ++ List.replicate (count - ds.length) '0', some ['0'], none⟩, ⟨?_, ?_, ?_⟩, rfl, ?_⟩
      · exact isRun_append_zeros _ h
      · intro hhead
        rw [head?_append_of_ne_nil h.1] at hhead
        obtain ⟨rfl, rfl⟩ := hz hhead
        simp [← hcount]
      · rintro _ ⟨⟩
        exact isRun_toDigits 0
      · simp [Literal.text, fractionText, powerText, layout]
    · next hlen =>
      obtain ⟨d, ds, rfl⟩ := List.exists_cons_of_ne_nil h.1
      obtain ⟨k, rfl⟩ := Nat.exists_eq_add_of_le' hc
      refine ⟨⟨false, (d :: ds).take (k + 1), some ((d :: ds).drop (k + 1)), none⟩, ⟨?_, ?_, ?_⟩, rfl, ?_⟩
      · exact ⟨by simp, fun c hc => h.2 c (List.mem_of_mem_take hc)⟩
      · intro hhead
        have := (hz (by simpa using hhead)).1
        simp [this] at hlen
      · rintro _ ⟨⟩
        refine ⟨?_, fun c hc => h.2 c (List.mem_of_mem_drop hc)⟩
        intro hnil
        exact hlen (List.drop_eq_nil_iff.mp hnil)
      · simp [Literal.text, fractionText, powerText]

theorem unsigned_scientific (h : IsRun ds) (hz : ds.head? ≠ some '0') :
    Unsigned (layout.scientific ds place) := by
  have hmark : (if place < 0 then layout.exponentMarks.2 else layout.exponentMarks.1).toList ++
      Nat.toDigits 10 place.natAbs = powerText (some place) := by
    unfold powerText layout
    split <;> simp_all
  have hrun : ∀ c ∈ ds, IsRun [c] := fun c hc => ⟨by simp, by simpa using h.2 c hc⟩
  match ds, h, hz, hrun with
  | d :: e :: rest, h, hz, hrun =>
    refine ⟨⟨false, [d], some (e :: rest), some place⟩, ⟨hrun d (by simp), ?_, ?_⟩, rfl, ?_⟩
    · intro hd
      exact absurd hd (by simpa using hz)
    · rintro _ ⟨⟩
      exact ⟨by simp, fun c hc => h.2 c (List.mem_cons_of_mem _ hc)⟩
    · simp [Literal.text, fractionText, Layout.scientific, ← hmark]
  | [d], h, hz, hrun =>
    refine ⟨⟨false, [d], none, some place⟩, ⟨h, ?_, by simp⟩, rfl, ?_⟩
    · intro hd
      exact absurd hd hz
    · simp [Literal.text, fractionText, Layout.scientific, ← hmark]
  | [], h, _, _ => exact absurd rfl h.1

theorem unsigned_write (h : IsRun ds) (hz : ds.head? = some '0' → ds = ['0'] ∧ place = 0) :
    Unsigned (layout.write ds place) := by
  unfold Layout.write
  split
  · exact unsigned_plain h hz
  · next hout =>
    refine unsigned_scientific h fun hd => hout ?_
    rw [(hz hd).2]
    decide

/-- The numbers that have a written form of their own. -/
def IsFinite : Number → Prop
  | .integer _ _ => True
  | .real x => x.isFinite = true

theorem exists_literal_writeFloat (x : Float) :
    ∃ l : Literal, l.WellFormed ∧ l.text = layout.writeFloat x := by
  obtain ⟨l, hl, hneg, htext⟩ : Unsigned (if (Binary.ofBits x.toBits.toNat).shortest.1 = 0 then
      layout.write ['0'] 0 else layout.write (Nat.toDigits 10 (Binary.ofBits x.toBits.toNat).shortest.1)
        ((Binary.ofBits x.toBits.toNat).shortest.2 +
          (Nat.toDigits 10 (Binary.ofBits x.toBits.toNat).shortest.1).length - 1)) := by
    split
    · exact unsigned_write (isRun_toDigits 0) fun _ => ⟨rfl, rfl⟩
    · next hd => exact unsigned_write (isRun_toDigits _) fun hz => absurd (head_toDigits hz) hd
  refine ⟨{ l with negative := decide (0x8000000000000000 ≤ x.toBits.toNat) }, ⟨hl.whole, hl.zero, hl.fraction⟩, ?_⟩
  unfold Layout.writeFloat
  simp only [← htext]
  simp [Literal.text, hneg]

theorem exists_literal_renderInt (n : Int) (h : fitsInteger n) :
    ∃ l : Literal, l.WellFormed ∧ l.text = renderInt n ∧ l.number? = some (.integer n h) := by
  refine ⟨⟨decide (n < 0), Nat.toDigits 10 n.natAbs, none, none⟩, ⟨isRun_toDigits _, ?_, by simp⟩, ?_, ?_⟩
  · intro hz
    simp [head_toDigits hz]
  · by_cases hn : n < 0 <;> simp [Literal.text, renderInt, hn, fractionText, powerText]
  · have hzero : ¬(n < 0 ∧ n = 0) := by omega
    simp only [Literal.number?, Nat.ofDigitChars_ten_toDigits, decide_eq_true_eq, signed_natAbs]
    simp [h, hzero]

/-- Every number that has a written form of its own is written as a literal. -/
theorem exists_literal {n : Number} (h : n.IsFinite) : ∃ l : Literal, l.WellFormed ∧ l.text = n.render := by
  cases n with
  | integer n hn =>
    obtain ⟨l, hl, htext, -⟩ := exists_literal_renderInt n hn
    exact ⟨l, hl, htext⟩
  | real x =>
    obtain ⟨l, hl, htext⟩ := exists_literal_writeFloat x
    refine ⟨l, hl, ?_⟩
    have hx : x.isFinite = true := h
    rw [htext, render, if_pos hx]

/-- The number that is read where a number is written. -/
def reread (n : Number) : Except ReadError Number := (readNumber n.render).map (·.1)

theorem readNumber_text {l : Literal} (h : l.WellFormed) {rest : List Char} (hr : Stops rest) :
    readNumber (l.text ++ rest) =
      (match l.number? with | some n => .ok n | none => .error (.malformed .tooLarge) : Except ReadError Number).map
        (·, rest) := by
  rw [readNumber, readLiteral_text l h .truncated hr, ok_bind]
  cases hn : l.number? <;> simp [hn]

/-- What is read where a number is written does not depend on what follows, unless the text goes on
with the number. -/
theorem readNumber_render {n : Number} (h : n.IsFinite) {rest : List Char} (hr : Stops rest) :
    readNumber (n.render ++ rest) = n.reread.map (·, rest) := by
  obtain ⟨l, hl, htext⟩ := exists_literal h
  have halone := readNumber_text hl (.nil continuesNumber)
  rw [List.append_nil] at halone
  rw [reread, ← htext, halone, readNumber_text hl hr]
  cases hn : l.number? <;> rfl

/-- An integer is read back. -/
@[simp] theorem reread_integer (n : Int) (h : fitsInteger n) : (integer n h).reread = .ok (.integer n h) := by
  obtain ⟨l, hl, htext, hvalue⟩ := exists_literal_renderInt n h
  have halone := readNumber_text hl (.nil continuesNumber)
  rw [List.append_nil, hvalue] at halone
  rw [reread, render, ← htext, halone]
  rfl

end Number

end FeedSieve.Json
