import Mathlib.Algebra.Field.Rat
import Mathlib.Algebra.Order.Field.Power
import Mathlib.Algebra.Order.Field.Rat
import MountCensus.Number.Reading

/-!
Numbers and readings by the rational number that they stand for. Comparing numbers compares what
they stand for (`Double.less_iff`), so that the positive part of a reading is its maximum with zero
(`Reading.value_positivePart`). A difference of whole readings is always exact; one of fractions is
rounded, and `Reading.SubIsExact` says that the rounding has changed nothing.
-/

set_option autoImplicit false

namespace MountCensus

namespace Double

inductive IsFinite : Double → Prop where
  | intro (negative : Bool) (mantissa : Nat) (exponent : Int) :
    IsFinite (.finite negative mantissa exponent)

instance : DecidablePred IsFinite
  | .finite negative mantissa exponent => isTrue (.intro negative mantissa exponent)
  | .infinite _ => isFalse nofun
  | .nan => isFalse nofun

/-- The number itself, as a fraction; zero if it is not finite. -/
def value : Double → ℚ
  | .finite negative mantissa exponent =>
    (if negative then -1 else 1) * mantissa * (2 : ℚ) ^ exponent
  | _ => 0

/-- Over a common power of two, the whole number stands for the same. -/
theorem scaled_mul_zpow (negative : Bool) (mantissa : Nat) {least exponent : Int}
    (h : least ≤ exponent) :
    (scaled negative mantissa (exponent - least).toNat : ℚ) * (2 : ℚ) ^ least =
      (finite negative mantissa exponent).value := by
  have hshift : (2 : ℚ) ^ (exponent - least).toNat * (2 : ℚ) ^ least = (2 : ℚ) ^ exponent := by
    rw [← zpow_natCast, Int.toNat_of_nonneg (Int.sub_nonneg.mpr h),
      ← zpow_add₀ (two_ne_zero' ℚ), Int.sub_add_cancel]
  rw [value, ← hshift, ← mul_assoc, scaled]
  cases negative <;> simp

theorem less_iff {x y : Double} (hx : x.IsFinite) (hy : y.IsFinite) :
    x.less y = true ↔ x.value < y.value := by
  obtain ⟨s, m, e⟩ := hx
  obtain ⟨s', m', e'⟩ := hy
  rw [← scaled_mul_zpow s m (min_le_left e e'), ← scaled_mul_zpow s' m' (min_le_right e e'),
    mul_lt_mul_iff_of_pos_right (zpow_pos two_pos _), Int.cast_lt, less, decide_eq_true_iff]

end Double

namespace Reading

inductive IsFinite : Reading → Prop where
  | whole (n : Int) : IsFinite (.whole n)
  | fraction {x : Double} (h : x.IsFinite) : IsFinite (.fraction x)

instance : DecidablePred IsFinite
  | .whole n => isTrue (.whole n)
  | .fraction x => decidable_of_iff x.IsFinite ⟨.fraction, fun | .fraction h => h⟩

def value : Reading → ℚ
  | .whole n => n
  | .fraction x => x.value

/-- The difference of the readings is that of the numbers, without any rounding. -/
structure SubIsExact (a b : Reading) : Prop where
  finite : (a.sub b).IsFinite
  value_sub : (a.sub b).value = a.value - b.value

instance (a b : Reading) : Decidable (SubIsExact a b) :=
  decidable_of_iff ((a.sub b).IsFinite ∧ (a.sub b).value = a.value - b.value)
    ⟨fun h ↦ ⟨h.1, h.2⟩, fun h ↦ ⟨h.finite, h.value_sub⟩⟩

theorem subIsExact_whole (a b : Int) : SubIsExact (.whole a) (.whole b) :=
  ⟨.whole (a - b), Int.cast_sub a b⟩

theorem value_positivePart {reading : Reading} (h : reading.IsFinite) :
    reading.positivePart.IsFinite ∧ reading.positivePart.value = max 0 reading.value := by
  cases h with
  | whole n =>
    refine ⟨.whole _, ?_⟩
    rw [positivePart, value, value, Int.cast_max, Int.cast_zero]
  | @fraction x hx =>
    have hzero : (Double.finite false 0 0).value = 0 := by simp [Double.value]
    have hless := Double.less_iff (.intro false 0 0) hx
    rw [hzero] at hless
    rw [positivePart]
    split
    · rename_i hpos
      exact ⟨.fraction hx, (max_eq_right (hless.mp hpos).le).symm⟩
    · rename_i hpos
      refine ⟨.whole 0, ?_⟩
      rw [value, value, Int.cast_zero, max_eq_left (not_lt.mp (hless.not.mp hpos))]

end Reading

end MountCensus
