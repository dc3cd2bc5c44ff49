import Mathlib.Tactic.Ring
import SchemaCheck.Proofs.Binary64.Nearest

namespace SchemaCheck.Binary64

theorem roundDiv_bounds {n d : Nat} (hd : 0 < d) :
    2 * n ≤ (2 * roundDiv n d + 1) * d ∧ 2 * roundDiv n d * d ≤ 2 * n + d := by
  have hn := Nat.div_add_mod n d
  have hr := Nat.mod_lt n hd
  have hexpand : ∀ q, (2 * q + 1) * d = 2 * (d * q) + d ∧ 2 * q * d = 2 * (d * q) ∧
      d * (q + 1) = d * q + d := fun q => ⟨by ring, by ring, by ring⟩
  obtain ⟨h1, h2, h3⟩ := hexpand (n / d)
  obtain ⟨h4, h5, -⟩ := hexpand (n / d + 1)
  unfold roundDiv
  split
  · omega
  · omega

/-- A number is at most half of its last place off its nearest double. -/
theorem nearest_bounds {n d : Nat} (hd : 0 < d) :
    2 * n ≤ (2 * nearest n d + 2 ^ spareBits (n / d)) * d ∧
      2 * nearest n d * d ≤ 2 * n + 2 ^ spareBits (n / d) * d := by
  have hb := roundDiv_bounds (n := n) (Nat.mul_pos hd (Nat.two_pow_pos (spareBits (n / d))))
  rw [nearest_eq]
  generalize spareBits (n / d) = s at hb ⊢
  generalize roundDiv n (d * 2 ^ s) = r at hb ⊢
  refine ⟨hb.1.trans (Nat.le_of_eq (by ring)), (Nat.le_of_eq (by ring)).trans (hb.2.trans ?_)⟩
  exact Nat.le_of_eq (by ring)

theorem two_pow_dvd_nearest (n d : Nat) : 2 ^ spareBits (n / d) ∣ nearest n d := by
  rw [nearest_eq]
  exact Nat.dvd_mul_left ..

/-- A part of the unit. The tolerance is between four and five of them. -/
def part : Nat := 1 <<< 1042

theorem part_pos : 0 < part := by decide

theorem unit_eq : unit = 2 ^ 32 * part := rfl

theorem two_pow_eq {s c : Nat} (h : s = 1042 + c) : 2 ^ s = 2 ^ c * part := by
  rw [Nat.mul_comm, ← Nat.shiftLeft_eq, part, ← Nat.shiftLeft_add, ← h, Nat.one_shiftLeft]

theorem two_pow_le {s c : Nat} (h : s ≤ 1042 + c) : 2 ^ s ≤ 2 ^ c * part := by
  rw [← two_pow_eq rfl]
  exact Nat.pow_le_pow_right (by decide) h

theorem le_two_pow {s c : Nat} (h : 1042 + c ≤ s) : 2 ^ c * part ≤ 2 ^ s := by
  rw [← two_pow_eq rfl]
  exact Nat.pow_le_pow_right (by decide) h

theorem tolerance_bounds : 4 * part ≤ tolerance.units ∧ tolerance.units ≤ 5 * part := by
  have ht : tolerance.units = nearest unit 1000000000 := rfl
  have hf : ∀ c, c < 1 <<< 53 → Fits (c * part) := by
    intro c hc
    refine ⟨c, 1042, hc, ?_⟩
    rw [part, Nat.one_shiftLeft, Nat.shiftLeft_eq]
  rw [ht, unit_eq]
  constructor
  · refine le_nearest (by decide) (hf 4 (by decide)) ?_
    rw [Nat.mul_right_comm]
    exact Nat.mul_le_mul_right _ (by decide)
  · refine nearest_le (by decide) (hf 5 (by decide)) ?_
    rw [Nat.mul_right_comm]
    exact Nat.mul_le_mul_right _ (by decide)

/-- Some whole number is within the tolerance. -/
def NearWhole (u : Nat) : Prop :=
  ∃ m, m * unit ≤ u + tolerance.units ∧ u ≤ m * unit + tolerance.units

theorem min_unitsOff_le_iff (u : Nat) :
    min (u % unit) (unit - u % unit) ≤ tolerance.units ↔ NearWhole u := by
  have hu := Nat.div_add_mod u unit
  have hr := Nat.mod_lt u unit_pos
  have hc := Nat.mul_comm unit (u / unit)
  have hs := Nat.add_one_mul (u / unit) unit
  rw [min_le_iff]
  constructor
  · rintro (h | h)
    · exact ⟨u / unit, by omega, by omega⟩
    · exact ⟨u / unit + 1, by omega, by omega⟩
  · rintro ⟨m, hl, hh⟩
    rcases Nat.lt_or_ge (u / unit) m with hm | hm
    · have := Nat.mul_le_mul_right unit (show u / unit + 1 ≤ m from hm)
      right
      omega
    · have := Nat.mul_le_mul_right unit hm
      left
      omega

theorem le_add_of_dvd {p a b c : Nat} (ha : p ∣ a) (hb : p ∣ b) (h : a < b + (c + 1) * p) :
    a ≤ b + c * p := by
  obtain ⟨x, rfl⟩ := ha
  obtain ⟨y, rfl⟩ := hb
  have hp : p * y + (c + 1) * p = p * (y + c + 1) := by ring
  rw [hp] at h
  have hx := Nat.lt_of_mul_lt_mul_left h
  calc p * x ≤ p * (y + c) := Nat.mul_le_mul_left p (Nat.le_of_lt_succ hx)
    _ = p * y + c * p := by ring

/-- The number is off the multiple by at most 3/2³¹ of the step. -/
def NearMultiple (n k m : Nat) : Prop :=
  2 ^ 31 * n ≤ 2 ^ 31 * (m * k) + 3 * k ∧ 2 ^ 31 * (m * k) ≤ 2 ^ 31 * n + 3 * k

theorem nearMultiple_of_bounds {n k m q p w : Nat} (hl : 2 * (n * unit) ≤ (2 * q + p) * k)
    (hu : 2 * q * k ≤ 2 * (n * unit) + p * k) (hql : q ≤ m * unit + w) (hqu : m * unit ≤ q + w)
    (hw : 2 * w + p ≤ 12 * part) : NearMultiple n k m := by
  rw [unit_eq] at hl hu hql hqu
  have he := part_pos
  generalize part = e at *
  constructor
  · have hk : (2 * q + p) * k ≤ (2 * (m * (2 ^ 32 * e)) + 12 * e) * k :=
      Nat.mul_le_mul_right k (by omega)
    refine Nat.le_of_mul_le_mul_left (?_ : 4 * e * _ ≤ 4 * e * _) (by omega)
    linarith
  · have hk : 2 * (m * (2 ^ 32 * e)) * k ≤ (2 * q + 2 * w) * k :=
      Nat.mul_le_mul_right k (by omega)
    have hp : (2 * w + p) * k ≤ 12 * e * k := Nat.mul_le_mul_right k hw
    refine Nat.le_of_mul_le_mul_left (?_ : 4 * e * _ ≤ 4 * e * _) (by omega)
    linarith

theorem two_pow_spareBits_le {n k : Nat} (hk : 0 < k) (hs : 0 < spareBits (n * unit / k)) :
    2 ^ 52 * (2 ^ spareBits (n * unit / k) * k) ≤ n * unit := by
  rw [← Nat.mul_assoc, ← Nat.pow_add]
  exact (Nat.le_div_iff_mul_le hk).1 (two_pow_le_of_spareBits hs)

/-- No quotient that is not whole becomes whole by rounding alone. -/
theorem dvd_of_nearest_eq {n k m : Nat} (hk : 0 < k) (hn : n ≤ 2 ^ 53)
    (hs : 1045 ≤ spareBits (n * unit / k)) (h : nearest (n * unit) k = m * unit) : k ∣ n := by
  obtain ⟨hl, hu⟩ := nearest_bounds (n := n * unit) hk
  have hsize := two_pow_spareBits_le hk (Nat.lt_of_lt_of_le (by decide) hs)
  have hmost := Nat.mul_le_mul_right unit hn
  rw [h] at hl hu
  generalize spareBits (n * unit / k) = s at *
  by_contra hnd
  -- Only if the step fills the last place exactly can rounding bridge the gap.
  have heq : 2 ^ s * k = 2 * unit := by
    refine Nat.le_antisymm (by linarith) ?_
    rcases Nat.lt_trichotomy n (m * k) with hlt | rfl | hlt
    · have := Nat.mul_le_mul_right (2 * unit) (show n + 1 ≤ m * k from hlt)
      linarith
    · exact absurd (Nat.dvd_mul_left k m) hnd
    · have := Nat.mul_le_mul_right (2 * unit) (show m * k + 1 ≤ n from hlt)
      linarith
  have hlast : n = 2 ^ 53 := by
    refine Nat.le_antisymm hn (Nat.le_of_mul_le_mul_right (?_ : _ ≤ n * unit) unit_pos)
    rw [heq] at hsize
    linarith
  obtain ⟨c, hc⟩ := Nat.exists_eq_add_of_le (show 1042 ≤ s by omega)
  rw [two_pow_eq hc, unit_eq] at heq
  have hpow : 2 ^ c * k = 2 ^ 33 := Nat.mul_right_cancel part_pos (by linarith)
  refine hnd (Nat.dvd_trans (Dvd.intro_left _ hpow) ?_)
  rw [hlast]
  exact Nat.pow_dvd_pow 2 (by decide)

theorem nearest_eq_of_near {n k m : Nat} (hk : 2 ≤ k) (hn : n ≤ 2 ^ 53)
    (hs : 1045 ≤ spareBits (n * unit / k)) (hl : m * unit ≤ nearest (n * unit) k + tolerance.units)
    (hu : nearest (n * unit) k ≤ m * unit + tolerance.units) :
    nearest (n * unit) k = m * unit := by
  have hdvd := two_pow_dvd_nearest (n * unit) k
  have hsize := two_pow_spareBits_le (n := n) (by omega) (Nat.lt_of_lt_of_le (by decide) hs)
  have ht := tolerance_bounds.2
  have hpart := part_pos
  generalize spareBits (n * unit / k) = s at *
  have hunit : 2 ^ s ∣ m * unit := by
    have hle : 2 ^ s ≤ unit := by
      have hmost := Nat.mul_le_mul_right unit hn
      have htwice := Nat.mul_le_mul_left (2 ^ s) hk
      linarith
    obtain ⟨c, hc⟩ := Nat.exists_eq_add_of_le (show 1042 ≤ s by omega)
    rw [two_pow_eq hc, unit_eq] at hle ⊢
    have hc : c ≤ 32 :=
      (Nat.pow_le_pow_iff_right (by decide)).1 (Nat.le_of_mul_le_mul_right hle part_pos)
    exact Nat.dvd_mul_left_of_dvd (Nat.mul_dvd_mul_right (Nat.pow_dvd_pow 2 hc) part) m
  have hp : 2 ^ 3 * part ≤ 2 ^ s := le_two_pow (by omega)
  have h1 := le_add_of_dvd (c := 0) hdvd hunit (by omega)
  have h2 := le_add_of_dvd (c := 0) hunit hdvd (by omega)
  omega

theorem near_multiple {n k : Nat} (hk : 0 < k) (hn : n ≤ 2 ^ 53)
    (h : NearWhole (nearest (n * unit) k)) : ∃ m, NearMultiple n k m := by
  obtain ⟨m, hm, hm'⟩ := h
  have ht := tolerance_bounds.2
  have hpart := part_pos
  obtain ⟨hl, hu⟩ := nearest_bounds (n := n * unit) hk
  have hdvd := two_pow_dvd_nearest (n * unit) k
  by_cases hd : k ∣ n
  · obtain ⟨c, rfl⟩ := hd
    exact ⟨c, by rw [NearMultiple, Nat.mul_comm c]; omega⟩
  rcases Nat.lt_trichotomy (spareBits (n * unit / k)) 1044 with hs | hs | hs
  · have hp : 2 ^ spareBits (n * unit / k) ≤ 2 ^ 1 * part := two_pow_le (by omega)
    exact ⟨m, nearMultiple_of_bounds (w := 5 * part) hl hu (by omega) (by omega) (by omega)⟩
  · -- The last place is four parts, so what is off by at most five is off by at most four.
    have hunit : 2 ^ 2 * part ∣ m * unit := by
      rw [unit_eq]
      exact ⟨m * 2 ^ 30, by ring⟩
    rw [two_pow_eq (c := 2) hs] at hl hu hdvd
    have h1 := le_add_of_dvd (c := 1) hdvd hunit (by omega)
    have h2 := le_add_of_dvd (c := 1) hunit hdvd (by omega)
    exact ⟨m, nearMultiple_of_bounds (w := 4 * part) hl hu (by omega) (by omega) (by omega)⟩
  · have hk2 : k ≠ 1 := fun he => hd (he ▸ Nat.one_dvd n)
    exact absurd (dvd_of_nearest_eq hk hn hs (nearest_eq_of_near (by omega) hn hs hm hm')) hd

theorem nearWhole_of_dvd {n k : Nat} (hk : 0 < k) (hn : n ≤ 2 ^ 53) (h : k ∣ n) :
    NearWhole (nearest (n * unit) k) := by
  obtain ⟨c, rfl⟩ := h
  have hc : c ≤ 1 <<< 53 := (Nat.le_mul_of_pos_left c hk).trans hn
  have hf : Fits (c * unit) := by
    rw [mul_unit]
    exact fits_shiftLeft hc 1074
  have hw : k * c * unit = c * unit * k := by ring
  have hle := nearest_le hk hf (Nat.le_of_eq hw)
  have hge := le_nearest hk hf (Nat.le_of_eq hw.symm)
  exact ⟨c, by omega, by omega⟩

theorem nearWhole_one {k : Nat} (h : 1000000000 ≤ k) : NearWhole (nearest (1 * unit) k) := by
  have hle : nearest (1 * unit) k ≤ tolerance.units := by
    refine nearest_mono (by omega) (by decide) ?_
    rw [Nat.one_mul]
    exact Nat.mul_le_mul_left unit h
  exact ⟨0, by omega, by omega⟩

theorem nearWhole_succ {k : Nat} (hl : 2 ^ 31 ≤ 3 * k) :
    NearWhole (nearest ((2 ^ 22 * k + 1) * unit) k) := by
  have hk : 0 < k := by omega
  have hf : Fits (2 ^ 22 * unit) := by
    rw [mul_unit]
    exact fits_shiftLeft (by decide) 1074
  have hge := le_nearest (n := (2 ^ 22 * k + 1) * unit) hk hf
    (by rw [Nat.mul_right_comm]; exact Nat.mul_le_mul_right unit (by omega))
  refine ⟨2 ^ 22, by omega, ?_⟩
  have hpart := part_pos
  have hs : spareBits ((2 ^ 22 * k + 1) * unit / k) = 1044 := by
    refine spareBits_eq ?_ ?_
    · rw [Nat.le_div_iff_mul_le hk, two_pow_eq (c := 54) rfl, unit_eq]
      linarith
    · rw [Nat.div_lt_iff_lt_mul hk, two_pow_eq (c := 55) rfl, unit_eq]
      nlinarith
  obtain ⟨-, hu⟩ := nearest_bounds (n := (2 ^ 22 * k + 1) * unit) hk
  obtain ⟨j, hj⟩ := two_pow_dvd_nearest ((2 ^ 22 * k + 1) * unit) k
  rw [two_pow_eq (c := 2) hs] at hu hj
  rw [hj, unit_eq] at hu ⊢
  have hlast : j ≤ 2 ^ 52 + 1 := by
    have hj : (2 * part) * (4 * (j * k)) ≤ (2 * part) * (2 ^ 54 * k + 2 ^ 32 + 2 * k) := by
      linarith
    have hj := Nat.le_of_mul_le_mul_left hj (by omega)
    have hj : j * k < (2 ^ 52 + 2) * k := by
      -- No step is a third of a power of two, so the two are not equal.
      omega
    exact Nat.le_of_lt_succ (Nat.lt_of_mul_lt_mul_right hj)
  calc 2 ^ 2 * part * j ≤ 2 ^ 2 * part * (2 ^ 52 + 1) := Nat.mul_le_mul_left _ hlast
    _ = 2 ^ 22 * (2 ^ 32 * part) + 4 * part := by ring
    _ ≤ _ := Nat.add_le_add_left tolerance_bounds.1 _

/-- The steps below a third of 2³¹ are exact, and no others. -/
theorem nearWhole_iff_dvd_iff {k : Nat} (hk : 0 < k) (hmax : k ≤ 2 ^ 53) :
    (∀ n ≤ 2 ^ 53, NearWhole (nearest (n * unit) k) ↔ k ∣ n) ↔ 3 * k < 2 ^ 31 := by
  constructor
  · intro h
    by_contra hl
    rcases Nat.lt_or_ge k 1000000000 with hlt | hge
    · have hd := (h (2 ^ 22 * k + 1) (by omega)).1 (nearWhole_succ (by omega))
      rw [Nat.dvd_add_right (Nat.dvd_mul_left k _), Nat.dvd_one] at hd
      omega
    · have hd := (h 1 (by decide)).1 (nearWhole_one hge)
      rw [Nat.dvd_one] at hd
      omega
  · intro hl n hn
    refine ⟨fun h => ?_, nearWhole_of_dvd hk hn⟩
    obtain ⟨m, h1, h2⟩ := near_multiple hk hn h
    exact ⟨m, by rw [Nat.mul_comm]; omega⟩

theorem isMultipleOf_iff {x step : Binary64} (h : step.units ≠ 0) :
    x.isMultipleOf step = true ↔ NearWhole (nearest (x.units * unit) step.units) := by
  rw [isMultipleOf, div?, isZero, if_neg (by rwa [decide_eq_true_eq])]
  change decide (_ ≤ tolerance.units) = true ↔ _
  rw [decide_eq_true_eq]
  exact min_unitsOff_le_iff _

theorem nearest_mul_mul (n : Nat) {d c : Nat} (hd : 0 < d) (hc : 0 < c) :
    nearest (n * c) (d * c) = nearest n d := by
  exact nearest_congr (Nat.mul_pos hd hc) hd (by ring)

section Step

variable {k : Int} (hk : 0 < k) (hmax : k ≤ 2 ^ 53)
include hk hmax

theorem isMultipleOf_ofInt_iff {n : Int} (hn : n.natAbs ≤ 2 ^ 53) :
    (ofInt n).isMultipleOf (ofInt k) = true ↔
      NearWhole (nearest (n.natAbs * unit) k.natAbs) := by
  have hstep : (ofInt k).units = k.natAbs * unit := units_ofInt_of_le (by omega)
  have hz : (ofInt k).units ≠ 0 := by
    rw [hstep]
    exact Nat.mul_ne_zero (by omega) (Nat.ne_of_gt unit_pos)
  rw [isMultipleOf_iff hz, hstep, units_ofInt_of_le (by omega),
    nearest_mul_mul _ (by omega) unit_pos]

theorem isMultipleOf_of_dvd {n : Int} (hn : n.natAbs ≤ 2 ^ 53) (h : k ∣ n) :
    (ofInt n).isMultipleOf (ofInt k) = true := by
  rw [isMultipleOf_ofInt_iff hk hmax hn]
  exact nearWhole_of_dvd (by omega) hn (Int.natAbs_dvd_natAbs.2 h)

theorem exists_near_of_isMultipleOf {n : Int} (hn : n.natAbs ≤ 2 ^ 53)
    (h : (ofInt n).isMultipleOf (ofInt k) = true) :
    ∃ m, k ∣ m ∧ 2 ^ 31 * (n - m).natAbs ≤ 3 * k.natAbs := by
  obtain ⟨m, hl, hu⟩ := near_multiple (by omega) hn ((isMultipleOf_ofInt_iff hk hmax hn).1 h)
  have hd : k ∣ (m * k.natAbs : Nat) := by
    rw [Int.natCast_mul, Int.natCast_natAbs, abs_of_pos hk]
    exact Int.dvd_mul_left ..
  rcases Int.le_total 0 n with hs | hs
  · exact ⟨(m * k.natAbs : Nat), hd, by omega⟩
  · exact ⟨-(m * k.natAbs : Nat), Int.dvd_neg.2 hd, by omega⟩

/-- The steps below a third of 2³¹ are exact, and no others. -/
theorem isMultipleOf_exact_iff :
    (∀ n : Int, n.natAbs ≤ 2 ^ 53 → ((ofInt n).isMultipleOf (ofInt k) = true ↔ k ∣ n)) ↔
      3 * k < 2 ^ 31 := by
  have hstep : 3 * k < 2 ^ 31 ↔ 3 * k.natAbs < 2 ^ 31 := by omega
  rw [hstep, ← nearWhole_iff_dvd_iff (by omega) (by omega)]
  constructor
  · intro h n hn
    have := h n hn
    rwa [isMultipleOf_ofInt_iff hk hmax (n := n) hn, ← Int.natAbs_dvd_natAbs] at this
  · intro h n hn
    rw [isMultipleOf_ofInt_iff hk hmax hn, ← Int.natAbs_dvd_natAbs]
    exact h n.natAbs hn

end Step

end SchemaCheck.Binary64
