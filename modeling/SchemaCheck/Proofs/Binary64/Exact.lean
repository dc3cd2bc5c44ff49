import SchemaCheck.Binary64.Basic

namespace SchemaCheck.Binary64

theorem roundDiv_of_dvd {n d : Nat} (hd : 0 < d) (h : d ∣ n) : roundDiv n d = n / d := by
  rw [roundDiv, if_pos]
  left
  rw [Nat.mod_eq_zero_of_dvd h]
  omega

theorem shiftLeft_spareBits_dvd {u : Nat} (h : Fits u) : 1 <<< spareBits u ∣ u := by
  obtain ⟨m, s, hm, rfl⟩ := h
  rw [Nat.one_shiftLeft] at hm ⊢
  rw [Nat.shiftLeft_eq]
  refine Nat.dvd_trans (Nat.pow_dvd_pow 2 ?_) (Nat.dvd_mul_left (2 ^ s) m)
  rw [spareBits]
  by_cases hz : m * 2 ^ s = 0
  · rw [hz]
    simp
  · have hlt : m * 2 ^ s < 2 ^ (53 + s) := by
      rw [Nat.pow_add]
      exact Nat.mul_lt_mul_of_pos_right hm (Nat.pow_pos (by decide))
    have := (Nat.log2_lt hz).2 hlt
    omega

theorem fits_shiftLeft {m : Nat} (h : m ≤ 1 <<< 53) (s : Nat) : Fits (m <<< s) := by
  rcases Nat.lt_or_eq_of_le h with h | rfl
  · exact ⟨m, s, h, rfl⟩
  · exact ⟨1, 53 + s, by decide, by rw [← Nat.shiftLeft_add]⟩

theorem nearest_of_fits {u : Nat} (h : Fits u) : nearest u 1 = u := by
  have hd := shiftLeft_spareBits_dvd h
  rw [Nat.one_shiftLeft] at hd
  rw [nearest, Nat.div_one, Nat.one_shiftLeft, Nat.shiftLeft_eq,
    roundDiv_of_dvd (Nat.pow_pos (by decide)) hd, Nat.div_mul_cancel hd]

theorem natAbs_truncate (x : Binary64) : x.truncate.natAbs = x.units / unit := by
  rw [truncate]
  split
  · rw [Int.natAbs_neg, Int.natAbs_natCast]
  · rw [Int.natAbs_natCast]

theorem units_ofInt_truncate {x : Binary64} (h : x.isWhole = true) :
    (ofInt x.truncate).units = x.units := by
  have hd : unit ∣ x.units := Nat.dvd_of_mod_eq_zero (by simpa [isWhole] using h)
  rw [units_ofInt, natAbs_truncate, Nat.div_mul_cancel hd, nearest_of_fits x.fits]

/-- A whole double has the same value as its integer part read back. Of the two zeros that is the
positive one. -/
theorem signedUnits_ofInt_truncate {x : Binary64} (h : x.isWhole = true) :
    (ofInt x.truncate).signedUnits = x.signedUnits := by
  have hn : (ofInt x.truncate).negative = decide (x.truncate < 0) := rfl
  rw [signedUnits, signedUnits, units_ofInt_truncate h, hn]
  by_cases hx : x.negative = true
  · rw [if_pos hx, truncate, if_pos hx]
    split
    next => rfl
    next hq =>
      have hz : x.units / unit = 0 := by
        simp only [decide_eq_true_eq] at hq
        generalize x.units / unit = q at hq
        omega
      have hd : unit ∣ x.units := Nat.dvd_of_mod_eq_zero (by simpa [isWhole] using h)
      have hu : x.units = 0 := by rw [← Nat.div_mul_cancel hd, hz, Nat.zero_mul]
      rw [hu]
      rfl
  · rw [if_neg hx, truncate, if_neg hx, if_neg]
    simp only [decide_eq_true_eq]
    exact Int.not_lt.2 (Int.natCast_nonneg _)

theorem mul_unit (n : Nat) : n * unit = n <<< 1074 := by
  rw [unit, Nat.one_shiftLeft, Nat.shiftLeft_eq]

section Whole

variable {i : Int} (h : i.natAbs ≤ 1 <<< 53)
include h

theorem units_ofInt_of_le : (ofInt i).units = i.natAbs * unit := by
  have hf : Fits (i.natAbs * unit) := by
    rw [mul_unit]
    exact fits_shiftLeft h 1074
  rw [units_ofInt, nearest_of_fits hf]

theorem signedUnits_ofInt_of_le : (ofInt i).signedUnits = i * unit := by
  have hn : (ofInt i).negative = decide (i < 0) := rfl
  rw [signedUnits, units_ofInt_of_le h, hn, Int.natCast_mul]
  by_cases hi : i < 0
  · rw [if_pos (decide_eq_true hi), Int.ofNat_natAbs_of_nonpos (Int.le_of_lt hi), Int.neg_mul,
      Int.neg_neg]
  · rw [if_neg (by simpa using hi), Int.natAbs_of_nonneg (Int.not_lt.1 hi)]

theorem isWhole_ofInt : (ofInt i).isWhole = true := by
  rw [isWhole, units_ofInt_of_le h, Nat.mul_mod_left, decide_eq_true_eq]

theorem truncate_ofInt : (ofInt i).truncate = i := by
  have hn : (ofInt i).negative = decide (i < 0) := rfl
  rw [truncate, units_ofInt_of_le h, Nat.mul_div_cancel _ unit_pos, hn]
  split <;> simp only [decide_eq_true_eq] at * <;> omega

end Whole

theorem isMultipleOf_congr {x step other : Binary64} (h : step.units = other.units) :
    x.isMultipleOf step = x.isMultipleOf other := by
  unfold isMultipleOf div? isZero
  rw [h]
  by_cases hz : other.units = 0
  · simp [hz]
  · simp only [hz, decide_false, Bool.false_eq_true, if_false]
    rfl

end SchemaCheck.Binary64
