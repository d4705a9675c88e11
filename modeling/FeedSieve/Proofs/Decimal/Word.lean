import FeedSieve.Decimal.Word
import FeedSieve.Proofs.Json.Literal

/-! What digits are read as a word. A run of digits whose number fits is read as that number, and nothing else is
read. So a run that is not read has a number that is too large, and taking the greatest word for it cuts the number off
there. -/

namespace FeedSieve.Decimal

open Json (IsRun)

theorem le_ofDigitChars (cs : List Char) (n : Nat) : n ≤ Nat.ofDigitChars 10 cs n := by
  rw [Nat.ofDigitChars_eq_ofDigitChars_zero]
  exact Nat.le_add_right_of_le (Nat.le_mul_of_pos_left n (Nat.pow_pos (by decide)))

theorem appendDigit?_eq_some_iff {w n : UInt64} {c : Char} :
    appendDigit? w c = some n ↔ c.isDigit = true ∧ 10 * w.toNat + (c.toNat - 48) = n.toNat := by
  simp only [appendDigit?, Option.ite_none_right_eq_some, Option.some.injEq, and_assoc]
  refine and_congr_right fun _ => ⟨?_, fun h => ⟨h ▸ n.toNat_lt_size, by rw [h, UInt64.ofNat_toNat]⟩⟩
  rintro ⟨hlt, rfl⟩
  exact (UInt64.toNat_ofNat_of_lt' hlt).symm

/-- Digits behind those of a word are read up to the end just if the number of all of them is a word; then so are the
numbers on the way there. -/
theorem foldlM_appendDigit?_eq_some_iff {cs : List Char} {w n : UInt64} :
    cs.foldlM appendDigit? w = some n ↔
      (∀ c ∈ cs, c.isDigit = true) ∧ Nat.ofDigitChars 10 cs w.toNat = n.toNat := by
  induction cs generalizing w with
  | nil => simp [UInt64.toNat_inj]
  | cons c cs ih =>
    rw [List.foldlM_cons, Option.bind_eq_bind, Option.bind_eq_some_iff, Nat.ofDigitChars_cons, List.forall_mem_cons]
    simp only [appendDigit?_eq_some_iff, ih]
    constructor
    · rintro ⟨v, ⟨hc, hv⟩, hcs, hn⟩
      exact ⟨⟨hc, hcs⟩, by rwa [← hv] at hn⟩
    · rintro ⟨⟨hc, hcs⟩, hn⟩
      have hlt : 10 * w.toNat + (c.toNat - 48) < UInt64.size :=
        Nat.lt_of_le_of_lt (le_ofDigitChars cs _) (hn ▸ n.toNat_lt_size)
      refine ⟨UInt64.ofNat (10 * w.toNat + (c.toNat - 48)), ⟨hc, ?_⟩, hcs, ?_⟩ <;> rw [UInt64.toNat_ofNat_of_lt' hlt]
      exact hn

theorem wordOfDigits?_eq_some_iff {cs : List Char} {n : UInt64} :
    wordOfDigits? cs = some n ↔ IsRun cs ∧ Nat.ofDigitChars 10 cs 0 = n.toNat := by
  cases cs with
  | nil => simp [wordOfDigits?, IsRun]
  | cons c cs =>
    rw [wordOfDigits?, foldlM_appendDigit?_eq_some_iff, IsRun]
    · simp
    · simp

/-- A run of digits is not read as a word just if its number is too large for one. -/
theorem wordOfDigits?_eq_none_iff {ds : List Char} (h : IsRun ds) :
    wordOfDigits? ds = none ↔ UInt64.size ≤ Nat.ofDigitChars 10 ds 0 := by
  rw [Option.eq_none_iff_forall_ne_some, ← Nat.not_lt]
  simp only [ne_eq, wordOfDigits?_eq_some_iff, h, true_and]
  constructor
  · intro hnone hlt
    exact hnone (UInt64.ofNat _) (UInt64.toNat_ofNat_of_lt' hlt).symm
  · intro hlarge n hn
    exact hlarge (hn ▸ n.toNat_lt_size)

/-- With the greatest word for those that are too large, a run of digits gives its number, cut off at the greatest
word. -/
theorem toNat_wordOfDigits?_getD {ds : List Char} (h : IsRun ds) :
    ((wordOfDigits? ds).getD greatestWord).toNat = min (Nat.ofDigitChars 10 ds 0) (UInt64.size - 1) := by
  have hgreatest : greatestWord.toNat = UInt64.size - 1 := rfl
  cases hds : wordOfDigits? ds with
  | none =>
    have hlarge := (wordOfDigits?_eq_none_iff h).mp hds
    rw [Option.getD_none, hgreatest]
    omega
  | some n =>
    have hn := (wordOfDigits?_eq_some_iff.mp hds).2
    have hlt := n.toNat_lt_size
    rw [Option.getD_some, hn]
    omega

end FeedSieve.Decimal
