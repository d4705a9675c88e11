import FeedSieve.Json.Number
import Mathlib

/-! Signs of doubles. Laying a double out in bits and taking it up again keeps its sign, and negating it turns the sign
round. So a whole number with a minus, which is rounded as a natural number first, is below one as a double too. -/

namespace FeedSieve.Decimal

open Float.Model Float.Model.UnpackedFloat

/-- The number has the given sign, unless it is none at all. -/
def HasSign (s : Sign) : UnpackedFloat → Prop
  | .notANumber => True
  | .infinity r => r = s
  | .zero r => r = s
  | .finite r _ _ _ => r = s

/-! ### Signs in bits -/

theorem hasSign_unpack {spec : Format} (b : BitVec spec.numBits) :
    HasSign (Sign.ofBitVec (unpackSign b)) (unpack spec b) := by
  simp only [UnpackedFloat.unpack]
  split
  · split
    · rfl
    · trivial
  · split
    · split <;> rfl
    · rfl

theorem hasSign_unpack_packComponents {spec : Format} (s : Sign) (e : BitVec spec.exponentBits)
    (m : BitVec spec.mantissaBitsWithoutImplicit) : HasSign s (unpack spec (packComponents spec s e m)) := by
  have h := hasSign_unpack (packComponents spec s e m)
  rwa [unpackSign_packComponents, Sign.ofBitVec_toBitVec] at h

/-- A double that has been laid out in bits has the sign it had before. -/
theorem hasSign_unpack_pack {s : Sign} {x : UnpackedFloat} (h : HasSign s x) : HasSign s (pack x).unpack := by
  cases x with
  | notANumber => trivial
  | infinity r => exact h ▸ hasSign_unpack_packComponents r _ _
  | zero r => exact h ▸ hasSign_unpack_packComponents r _ _
  | finite r m e hm =>
    obtain rfl : r = s := h
    show HasSign r (unpack Format.binary64 (UnpackedFloat.pack Format.binary64 (.finite r m e hm)))
    simp only [UnpackedFloat.pack]
    split
    · exact hasSign_unpack_packComponents r _ _
    · split <;> exact hasSign_unpack_packComponents r _ _

/-! ### Whole numbers -/

theorem hasSign_round (spec : Format) (s : Sign) (m : Nat) (e : Int) : HasSign s (UnpackedFloat.round spec s m e) := by
  simp only [UnpackedFloat.round, UnpackedFloat.roundWithAccuracy]
  split <;> rfl

theorem hasSign_ofNat (spec : Format) (n : Nat) : HasSign .positive (UnpackedFloat.ofNat spec n) := by
  rw [UnpackedFloat.ofNat, UnpackedFloat.ofInt, UnpackedFloat.normalize]
  split
  · next h => exact absurd (Int.compare_eq_lt.mp h) (Int.not_lt.mpr (Int.natCast_nonneg n))
  · rfl
  · exact hasSign_round spec .positive _ _

theorem hasSign_neg {s : Sign} {x : UnpackedFloat} (h : HasSign s x) : HasSign (-s) x.neg := by
  cases x with
  | notANumber => trivial
  | _ => exact congrArg Neg.neg h

theorem unpack_one : (1 : Float).toModel.unpack = .finite .positive 0x10000000000000 (-52) (by decide) := by
  rfl

/-- What has a minus is not at least one. -/
theorem not_one_le_of_hasSign {x : Float} (h : HasSign .negative x.toModel.unpack) : ¬(1 : Float) ≤ x := by
  show ¬decide ((1 : Float).toModel.unpack.le x.toModel.unpack = true) = true
  rw [unpack_one]
  generalize x.toModel.unpack = y at h ⊢
  cases y with
  | notANumber => decide
  | infinity r => obtain rfl : r = .negative := h; decide
  | zero r => simp [UnpackedFloat.le, UnpackedFloat.compare]
  | finite r m e hm => obtain rfl : r = .negative := h; simp [UnpackedFloat.le, UnpackedFloat.compare]

/-- The double of a word, with a minus before it, is not at least one. -/
theorem not_one_le_neg_toFloat (w : UInt64) : ¬(1 : Float) ≤ -w.toFloat := by
  refine not_one_le_of_hasSign (hasSign_unpack_pack ?_)
  exact hasSign_neg (hasSign_unpack_pack (hasSign_ofNat Format.binary64 w.toNat))

end FeedSieve.Decimal
