import CallWatch.Number.Shortest
import Mathlib.Data.List.DropRight

/-! The shortest decimal of a double that is not zero has digits that are not all zero. A decimal
that rounds to the double is not below a bound that is positive, and the decimal in place of all of
these is as large as the double up to its seventeenth digit. -/

namespace CallWatch

namespace Rounding

variable {r : Rounding} {k : Int}

theorem boundFactor_pos (r : Rounding) (k : Int) : 0 < r.boundFactor k :=
  Nat.mul_pos (Nat.pow_pos (by decide)) (Nat.pow_pos (by decide))

theorem gridFactor_pos (r : Rounding) (k : Int) : 0 < r.gridFactor k :=
  Nat.mul_pos (Nat.pow_pos (by decide)) (Nat.pow_pos (by decide))

theorem ne_zero_of_contains {d : Nat} (hlow : 0 < r.low) (h : r.contains k d) : d ≠ 0 := by
  rintro rfl
  have hbound : 0 < r.low * r.boundFactor k := Nat.mul_pos hlow (r.boundFactor_pos k)
  simp only [contains, Nat.zero_mul] at h
  split at h
  · exact absurd (of_decide_eq_true h).1 (Nat.not_le_of_gt hbound)
  · exact absurd (of_decide_eq_true h).1 (Nat.not_lt_zero _)

theorem contains_of_onGrid? {d : Nat} (h : r.onGrid? k = some d) : r.contains k d := by
  rw [onGrid?] at h
  split at h
  · next hdown hup => exact Option.some.inj h ▸ hdown
  · next hdown hup => exact Option.some.inj h ▸ hup
  · exact nomatch h
  · next hdown hup =>
    dsimp only at h
    split at h
    · exact Option.some.inj h ▸ hdown
    · exact Option.some.inj h ▸ hup

/-- The digits of a number reach as far as the number. -/
theorem pow_length_toDigits_le {n : Nat} (hn : n ≠ 0) :
    Nat.pow 10 ((Nat.toDigits 10 n).length - 1) ≤ n := by
  by_cases hlength : (Nat.toDigits 10 n).length - 1 = 0
  · rw [hlength]
    exact Nat.pos_of_ne_zero hn
  · have hlt : ¬(Nat.toDigits 10 n).length ≤ (Nat.toDigits 10 n).length - 1 := by omega
    rw [Nat.length_toDigits_le_iff (by decide) (by omega)] at hlt
    exact Nat.le_of_not_lt hlt

theorem pow_mul_le {unit value reach low high up down : Nat}
    (h : Nat.pow 10 reach * unit ≤ value * Nat.pow 10 low) (hlow : low ≤ high)
    (hpower : up + high = reach + down) : Nat.pow 10 up * unit ≤ value * Nat.pow 10 down := by
  have hadd (m n : Nat) : Nat.pow 10 (m + n) = Nat.pow 10 m * Nat.pow 10 n := Nat.pow_add 10 m n
  have hhigh : Nat.pow 10 low ≤ Nat.pow 10 high := Nat.pow_le_pow_right (by decide) hlow
  have hpos : 0 < Nat.pow 10 high := Nat.pow_pos (by decide)
  refine Nat.le_of_mul_le_mul_right ?_ hpos
  calc Nat.pow 10 up * unit * Nat.pow 10 high
      = Nat.pow 10 reach * unit * Nat.pow 10 down := by
        rw [Nat.mul_right_comm, ← hadd, hpower, hadd, Nat.mul_right_comm]
    _ ≤ value * Nat.pow 10 low * Nat.pow 10 down := Nat.mul_le_mul_right _ h
    _ ≤ value * Nat.pow 10 high * Nat.pow 10 down :=
        Nat.mul_le_mul_right _ (Nat.mul_le_mul_left value hhigh)
    _ = value * Nat.pow 10 down * Nat.pow 10 high := Nat.mul_right_comm ..

theorem le_floor_iff {n : Nat} :
    n ≤ r.floor k ↔ n * r.gridFactor k ≤ r.centre * r.boundFactor k :=
  Nat.le_div_iff_mul_le (r.gridFactor_pos k)

theorem floor_pos_of_le {places : Nat}
    (h : Nat.pow 2 (-r.exponent).toNat ≤ r.centre * Nat.pow 10 places) :
    0 < r.floor (-places : Int) := by
  have hscale : 0 < Nat.pow 2 r.exponent.toNat := Nat.pow_pos (by decide)
  refine le_floor_iff.mpr ?_
  rw [boundFactor, gridFactor, Int.neg_neg, Int.toNat_natCast, Int.toNat_neg_natCast]
  calc 1 * (Nat.pow 10 0 * Nat.pow 2 (-r.exponent).toNat)
      = Nat.pow 2 (-r.exponent).toNat := (Nat.one_mul _).trans (Nat.one_mul _)
    _ ≤ r.centre * Nat.pow 10 places := h
    _ ≤ r.centre * (Nat.pow 2 r.exponent.toNat * Nat.pow 10 places) :=
        Nat.mul_le_mul_left r.centre (Nat.le_mul_of_pos_left _ hscale)

/-- No double but zero is below `10 ^ -342`, as its exponent has a bound. -/
theorem floor_least_pos (hcentre : 4 ≤ r.centre) (hexponent : -1076 ≤ r.exponent) :
    0 < r.floor (-342) := by
  obtain ⟨bound, places, hbound, hplaces, hexact⟩ : ∃ bound places : Nat,
      (-r.exponent).toNat ≤ bound ∧ -342 = (-places : Int) ∧
        Nat.pow 2 bound ≤ 4 * Nat.pow 10 places :=
    ⟨1076, 342, by omega, rfl, by decide +kernel⟩
  have hunit : Nat.pow 2 (-r.exponent).toNat ≤ Nat.pow 2 bound :=
    Nat.pow_le_pow_right (by decide) hbound
  rw [hplaces]
  exact floor_pos_of_le (Nat.le_trans hunit (Nat.le_trans hexact (Nat.mul_le_mul_right _ hcentre)))

/-- The double is not below the grid of its seventeenth digit. -/
theorem floor_magnitude_pos (hcentre : 4 ≤ r.centre) (hexponent : -1076 ≤ r.exponent) :
    0 < r.floor (r.magnitude - 16) := by
  have hleast := floor_least_pos hcentre hexponent
  have hreach := le_floor_iff.mp (pow_length_toDigits_le (Nat.ne_of_gt hleast))
  have hlength : 0 < (Nat.toDigits 10 (r.floor (-342))).length :=
    List.length_pos_iff.mpr Nat.toDigits_ne_nil
  have hpower : (r.magnitude - 16).toNat + 358 =
      (Nat.toDigits 10 (r.floor (-342))).length - 1 + (-(r.magnitude - 16)).toNat := by
    rw [magnitude]
    omega
  have hunit : r.gridFactor (-342) = Nat.pow 2 (-r.exponent).toNat := Nat.one_mul _
  rw [hunit, boundFactor, ← Nat.mul_assoc] at hreach
  refine le_floor_iff.mpr ?_
  rw [Nat.one_mul, gridFactor, boundFactor, ← Nat.mul_assoc]
  exact pow_mul_le hreach (by decide) hpower

/-- The shortest decimal of a double that is not zero is not zero. -/
theorem digits_shortest_ne_zero {m : Nat} {e : Int} (hm : m ≠ 0) (he : -1074 ≤ e) :
    (ofMantissa m e).shortest.digits ≠ 0 := by
  have hlow : 0 < (ofMantissa m e).low := by
    simp only [ofMantissa]
    split <;> omega
  have hcentre : 4 ≤ (ofMantissa m e).centre := by
    simp only [ofMantissa]
    omega
  have hexponent : -1076 ≤ (ofMantissa m e).exponent := by
    simp only [ofMantissa]
    omega
  rw [shortest]
  dsimp only
  generalize hfound : (List.range 17).findSome? _ = found
  cases found with
  | none => exact Nat.ne_of_gt (floor_magnitude_pos hcentre hexponent)
  | some d =>
    obtain ⟨n, -, hn⟩ := List.exists_of_findSome?_eq_some hfound
    obtain ⟨digits, hgrid, rfl⟩ := Option.map_eq_some_iff.mp hn
    exact ne_zero_of_contains hlow (contains_of_onGrid? hgrid)

end Rounding

end CallWatch
