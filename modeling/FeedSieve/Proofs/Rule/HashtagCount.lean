import FeedSieve.Proofs.Decimal.Sign
import FeedSieve.Proofs.Rule.Arguments

/-! What number of hashtags an argument asks for. A text asks for the number that it begins with, cut off at the
greatest word, and an integer for itself; what comes to zero or less asks for no number. -/

namespace FeedSieve.HashtagCount

open Documented (AsksFor)

variable {cs : List Char} {s : String} {D : Nat}

/-! ### Texts -/

/-- A text that writes a word begins with it. -/
theorem leadingNumber_of_writesWord {n : UInt64} (h : Declaration.WritesWord n cs) : LeadingNumber cs n.toNat := by
  cases h with
  | plain hrun hvalue =>
    have hnumber := LeadingNumber.of [] [] cs [] (by simp) (.inl rfl) hrun (.nil _)
    rwa [hvalue, List.append_nil] at hnumber
  | @plus ds hrun hvalue =>
    have hnumber := LeadingNumber.of [] ['+'] ds [] (by simp) (.inr rfl) hrun (.nil _)
    rwa [hvalue, List.append_nil] at hnumber

/-- Where a text writes a word, it asks for the same number as the word does. -/
theorem ofArgument_of_writesWord {n : UInt64} (h : Declaration.WritesWord n s.toList) :
    ofArgument (.string s) = ofArgument (.number (.ofWord n)) := by
  obtain ⟨k, hk, hvalue⟩ := leadingCount?_of_leadingNumber (leadingNumber_of_writesWord h)
  have hlt := n.toNat_lt_size
  obtain rfl : k = n := UInt64.toNat_inj.mp (by omega)
  rw [ofArgument_ofWord, ofArgument, argumentCount?, hk]

/-! ### The number that an argument gives -/

theorem argumentCount?_integer_of_neg {n : Int} (h : Json.fitsInteger n) (hn : n < 0) :
    argumentCount? (.number (.integer n h)) = none := by
  have hbelow : ¬(1 : Float) ≤ (Json.Number.integer n h).toFloat := by
    rw [Json.Number.toFloat, if_pos hn]
    exact Decimal.not_one_le_neg_toFloat _
  simp only [argumentCount?, Json.Number.natural?, if_neg (Int.not_le.mpr hn), if_neg hbelow]

theorem exists_argumentCount?_natural (k : Nat) (h : Json.fitsInteger k) :
    ∃ w, argumentCount? (.number (.integer k h)) = some w ∧ w.toNat = k := by
  have hlt : k < UInt64.size := by
    have := h.2
    simp only [UInt64.size]
    omega
  exact ⟨UInt64.ofNat k, by simp [argumentCount?, Json.Number.natural?], UInt64.toNat_ofNat_of_lt' hlt⟩

/-- What is read off an argument is the number that it gives. -/
theorem asksFor_iff {a : Json} {k : Nat} : AsksFor a k ↔ ∃ w, argumentCount? a = some w ∧ w.toNat = k := by
  constructor
  · intro h
    cases h with
    | text h => exact leadingCount?_of_leadingNumber h
    | integer k h => exact exists_argumentCount?_natural k h
    | double h => exact ⟨_, if_pos h, rfl⟩
    | yes => exact ⟨1, rfl, rfl⟩
  · rintro ⟨w, hw, rfl⟩
    cases a with
    | null | array items | object members => cases hw
    | bool b =>
      cases b with
      | false => cases hw
      | true =>
        obtain rfl := Option.some.inj hw
        exact .yes
    | string s =>
      by_cases hnumber : ∃ D, LeadingNumber s.toList D
      · obtain ⟨D, hD⟩ := hnumber
        obtain ⟨v, hv, hvalue⟩ := leadingCount?_of_leadingNumber hD
        obtain rfl : v = w := Option.some.inj (hv.symm.trans hw)
        rw [hvalue]
        exact .text hD
      · rw [argumentCount?, leadingCount?_of_no_number (not_exists.mp hnumber)] at hw
        cases hw
    | number n =>
      cases n with
      | integer n h =>
        obtain hn | hn := lt_or_ge n 0
        · rw [argumentCount?_integer_of_neg h hn] at hw
          cases hw
        · obtain ⟨k, rfl⟩ := Int.eq_ofNat_of_zero_le hn
          obtain ⟨v, hv, hvalue⟩ := exists_argumentCount?_natural k h
          obtain rfl : v = w := Option.some.inj (hv.symm.trans hw)
          rw [hvalue]
          exact .integer k h
      | real x =>
        obtain ⟨hx, hw⟩ := Option.ite_none_right_eq_some.mp hw
        obtain rfl := Option.some.inj hw
        exact .double hx

/-! ### The demand -/

theorem exactly_of_some (k : UInt64) :
    (of (some k)).exactly.map UInt64.toNat = if k.toNat = 0 then none else some k.toNat := by
  by_cases hk : k = 0
  · simp [of, hk]
  · have hk' : k.toNat ≠ 0 := fun h => hk (UInt64.toNat_inj.mp h)
    simp [of, hk, hk']

/-- The number that an argument gives is asked for, unless it is zero. -/
theorem exactly_ofArgument_of_asksFor {a : Json} {k : Nat} (h : AsksFor a k) :
    (ofArgument a).exactly.map UInt64.toNat = if k = 0 then none else some k := by
  obtain ⟨w, hw, rfl⟩ := asksFor_iff.mp h
  rw [ofArgument, hw, exactly_of_some]

theorem exactly_ofArgument_of_nothing {a : Json} (h : ∀ k, ¬AsksFor a k) : (ofArgument a).exactly = none := by
  have hnone : argumentCount? a = none :=
    Option.eq_none_iff_forall_ne_some.mpr fun w hw => h _ (asksFor_iff.mpr ⟨w, hw, rfl⟩)
  rw [ofArgument, hnone]
  rfl

theorem exactly_ofArgument_of_leadingNumber (h : LeadingNumber s.toList D) :
    (ofArgument (.string s)).exactly.map UInt64.toNat = if D = 0 then none else some (min D (UInt64.size - 1)) := by
  have hsize : 1 < UInt64.size := by decide
  have hzero : min D (UInt64.size - 1) = 0 ↔ D = 0 := by omega
  rw [exactly_ofArgument_of_asksFor (.text h)]
  simp only [hzero]

theorem exactly_ofArgument_of_no_number (h : ∀ D, ¬LeadingNumber s.toList D) :
    (ofArgument (.string s)).exactly = none := by
  refine exactly_ofArgument_of_nothing fun k hk => ?_
  cases hk with
  | text hD => exact h _ hD

theorem exactly_ofArgument_integer {n : Int} (h : Json.fitsInteger n) :
    (ofArgument (.number (.integer n h))).exactly.map UInt64.toNat = if 1 ≤ n then some n.toNat else none := by
  obtain hn | hn := lt_or_ge n 0
  · have hnone : ¬1 ≤ n := by omega
    rw [ofArgument, argumentCount?_integer_of_neg h hn, if_neg hnone]
    rfl
  · obtain ⟨k, rfl⟩ := Int.eq_ofNat_of_zero_le hn
    have hone : 1 ≤ (k : Int) ↔ ¬k = 0 := by omega
    simp only [exactly_ofArgument_of_asksFor (.integer k h), Int.toNat_natCast, hone, ite_not]

/-- A text asks for the number that it begins with, cut off at the greatest word, unless it is zero; if it begins with
none it asks for no number. An integer asks for itself if it is positive and otherwise for no number, and one that is
not negative asks for what its digits ask for. Of all else only true asks for a number, for one. -/
theorem exactly_ofArgument :
    (∀ (s : String) (D : Nat), LeadingNumber s.toList D →
      (ofArgument (.string s)).exactly.map UInt64.toNat = if D = 0 then none else some (min D (UInt64.size - 1))) ∧
    (∀ s : String, (∀ D, ¬LeadingNumber s.toList D) → (ofArgument (.string s)).exactly = none) ∧
    (∀ (n : Int) (h : Json.fitsInteger n),
      (ofArgument (.number (.integer n h))).exactly.map UInt64.toNat = if 1 ≤ n then some n.toNat else none) ∧
    (∀ n : UInt64, ofArgument (.number (.ofWord n)) = ofArgument (.string n.toNat.repr)) ∧
    (ofArgument (.bool true)).exactly = some 1 ∧ (ofArgument (.bool false)).exactly = none ∧
    (ofArgument .null).exactly = none ∧ (∀ items, (ofArgument (.array items)).exactly = none) ∧
    ∀ members, (ofArgument (.object members)).exactly = none := by
  refine ⟨fun _ _ => exactly_ofArgument_of_leadingNumber, fun _ => exactly_ofArgument_of_no_number,
    fun _ => exactly_ofArgument_integer, fun n => ?_, rfl, rfl, rfl, fun _ => rfl, fun _ => rfl⟩
  have hwrites : Declaration.WritesWord n n.toNat.repr.toList := by
    rw [Nat.repr, String.toList_ofList]
    exact .plain (Json.isRun_toDigits _) Nat.ofDigitChars_ten_toDigits
  exact (ofArgument_of_writesWord hwrites).symm

/-- Zeros in front and a text behind a number that is too large, and a number with a minus. -/
theorem exactly_ofArgument_large :
    (ofArgument (.string "\u2003+0099999999999999999999 tags")).exactly.map UInt64.toNat = some (UInt64.size - 1) ∧
    (ofArgument (.string "-3")).exactly = none ∧
    (ofArgument (.number (.integer (-3) (by decide)))).exactly.map UInt64.toNat = none := by
  have hlarge : LeadingNumber "\u2003+0099999999999999999999 tags".toList 99999999999999999999 :=
    leadingNumber_iff.mpr ⟨by decide, by decide +kernel⟩
  have hminus : ∀ D, ¬LeadingNumber "-3".toList D := fun D h => absurd (leadingNumber_iff.mp h).1 (by decide)
  exact ⟨exactly_ofArgument.1 _ _ hlarge, exactly_ofArgument.2.1 _ hminus, exactly_ofArgument.2.2.1 (-3) (by decide)⟩

end FeedSieve.HashtagCount
