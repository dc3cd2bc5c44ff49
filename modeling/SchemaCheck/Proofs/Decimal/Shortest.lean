import Mathlib.Tactic.Ring
import SchemaCheck.Decimal.Shortest
import SchemaCheck.Proofs.Binary64.Nearest

namespace SchemaCheck.Decimal

open Binary64

theorem holds_iff {i : Interval} {c d : Nat} : i.holds c d = true ↔
    i.low * d ≤ c ∧ c ≤ i.high * d ∧ (i.closed = true ∨ i.low * d < c ∧ c < i.high * d) := by
  unfold Interval.holds
  cases i.closed
  · simp
    omega
  · simp

/-- Half a last place on either side, without its ends if the last digit is odd, and a quarter of
it below a power of two. -/
theorem bounds_of_holds {n a d s m : Nat} (hs : spareBits n = s) (hm : n = m * 2 ^ s)
    (h : (roundingInterval n).holds (4 * a) d = true) :
    2 * m * (d * 2 ^ s) ≤ 2 * a + d * 2 ^ s ∧ 2 * a ≤ (2 * m + 1) * (d * 2 ^ s) ∧
      (m % 2 = 0 ∨
        2 * m * (d * 2 ^ s) < 2 * a + d * 2 ^ s ∧ 2 * a < (2 * m + 1) * (d * 2 ^ s)) ∧
      (0 < s → n = 2 ^ n.log2 → 4 * m * (d * 2 ^ s) ≤ 4 * a + d * 2 ^ s) := by
  obtain ⟨hlow, hhigh, htie⟩ := holds_iff.1 h
  have hg : 0 < 2 ^ s := Nat.two_pow_pos s
  simp only [roundingInterval, Nat.one_shiftLeft, hs, decide_eq_true_eq] at hlow hhigh htie
  rw [hm, Nat.mul_div_cancel m hg] at htie
  rw [hm] at hlow hhigh
  have hlower : ∀ l,
      (4 * (m * 2 ^ s) - l * 2 ^ s) * d = 4 * (m * (d * 2 ^ s)) - l * (d * 2 ^ s) := by
    intro l
    rw [Nat.sub_mul]
    congr 1 <;> ring
  have hupper : (4 * (m * 2 ^ s) + 2 * 2 ^ s) * d = 4 * (m * (d * 2 ^ s)) + 2 * (d * 2 ^ s) := by
    ring
  have hexpand : 2 * m * (d * 2 ^ s) = 2 * (m * (d * 2 ^ s)) ∧
      4 * m * (d * 2 ^ s) = 4 * (m * (d * 2 ^ s)) ∧
      (2 * m + 1) * (d * 2 ^ s) = 2 * (m * (d * 2 ^ s)) + d * 2 ^ s := ⟨by ring, by ring, by ring⟩
  obtain ⟨h2, h4, h1⟩ := hexpand
  rw [hlower, hupper] at htie
  rw [hlower] at hlow
  rw [hupper] at hhigh
  rw [h1, h2, h4]
  refine ⟨?_, by omega, ?_, fun hpos hpow => ?_⟩
  · split at hlow <;> omega
  · refine htie.imp_right fun ht => ?_
    split at ht <;> omega
  · have hone : 1 < 2 ^ s := Nat.one_lt_two_pow (by omega)
    rw [← hm, if_pos ⟨hone, hpow⟩] at hlow
    omega

/-- The numbers that the interval of a double holds round to it. -/
theorem nearest_of_holds {n a d : Nat} (hn : Fits n) (hd : 0 < d)
    (h : (roundingInterval n).holds (4 * a) d = true) : nearest a d = n := by
  obtain ⟨m, hm, hm53⟩ := exists_significand hn
  generalize hs : spareBits n = s at hm
  obtain ⟨hlow, hhigh, htie, hpow⟩ := bounds_of_holds hs hm h
  have hD : 0 < d * 2 ^ s := Nat.mul_pos hd (Nat.two_pow_pos s)
  have hlt : a / d < 2 ^ (53 + s) := by
    rw [Nat.div_lt_iff_lt_mul hd]
    have hle := Nat.mul_le_mul_right (d * 2 ^ s) (show 2 * m + 1 ≤ 2 * 2 ^ 53 - 1 by omega)
    rw [Nat.sub_mul] at hle
    have hexpand : 2 ^ (53 + s) * d = 2 ^ 53 * (d * 2 ^ s) := by
      rw [Nat.pow_add]
      ring
    omega
  by_cases hsame : spareBits (a / d) = s
  · rw [nearest_eq, hsame, roundDiv_eq hD hlow hhigh htie, hm]
  · -- Only a power of two is the nearest double to smaller numbers of another size.
    obtain ⟨t, rfl⟩ : ∃ t, s = t + 1 := by
      refine Nat.exists_eq_succ_of_ne_zero fun hz => hsame ?_
      subst hz
      exact spareBits_eq_zero hlt
    have hexp : 52 + (t + 1) = 53 + t := by omega
    have hbelow : a / d < 2 ^ (53 + t) := by
      by_contra hge
      exact hsame (spareBits_eq (by rw [hexp]; exact Nat.not_lt.1 hge) hlt)
    have ha : a < 2 ^ 53 * (d * 2 ^ t) := by
      rw [Nat.div_lt_iff_lt_mul hd, Nat.pow_add] at hbelow
      exact Nat.lt_of_lt_of_eq hbelow (by ring)
    have hdouble : d * 2 ^ (t + 1) = 2 * (d * 2 ^ t) := by ring
    rw [hdouble] at hlow hpow
    generalize hE : d * 2 ^ t = E at ha hlow hpow
    have hE0 : 0 < E := hE ▸ Nat.mul_pos hd (Nat.two_pow_pos t)
    obtain rfl : m = 2 ^ 52 := by
      have hge := two_pow_le_of_spareBits (q := n) (by omega)
      rw [hs, hm, Nat.pow_add] at hge
      have hle : 2 ^ 52 ≤ m := Nat.le_of_mul_le_mul_right hge (Nat.two_pow_pos _)
      by_contra hne
      have hmul := Nat.mul_le_mul_right E (show 2 ^ 52 + 1 ≤ m by omega)
      rw [show 2 * m * (2 * E) = 4 * (m * E) by ring] at hlow
      omega
    have hn53 : n = 2 ^ (53 + t) := by
      rw [hm, ← Nat.pow_add, hexp]
    have hquarter := hpow (by omega) (by rw [hn53, Nat.log2_two_pow])
    have hbits : spareBits (a / d) = t := by
      refine spareBits_eq ((Nat.le_div_iff_mul_le hd).2 ?_) hbelow
      have hprod : 2 ^ (52 + t) * d = 2 ^ 52 * E := by
        rw [← hE, Nat.pow_add]
        ring
      omega
    rw [nearest_eq, hbits, hE, hn53, Nat.pow_add]
    congr 1
    exact roundDiv_eq hE0 (by omega) (by omega) (.inl rfl)

/-- The units of the double nearest to the decimal. -/
def Scientific.nearest (s : Scientific) : Nat :=
  Binary64.nearest (s.coefficient * (unit * 10 ^ s.exponent.toNat)) (10 ^ (-s.exponent).toNat)

theorem ten_pow_pos (k : Nat) : 0 < 10 ^ k := Nat.pow_pos (by decide)

section Grid

variable {tie : Tie} {n : Nat} {e : Int} {s : Scientific}

theorem nearest_of_onGrid? (hn : Fits n) (h : onGrid? tie n e = some s) : s.nearest = n := by
  have hpoint : ∀ c, (roundingInterval n).holds (4 * c * (unit * Nat.pow 10 e.toNat))
      (Nat.pow 10 (-e).toNat) = true → (Scientific.mk c e).nearest = n := by
    intro c hc
    rw [Nat.mul_assoc] at hc
    exact nearest_of_holds hn (ten_pow_pos _) hc
  simp only [onGrid?] at h
  split at h
  next hf hs =>
    cases h
    refine hpoint _ ?_
    have heven : ∀ q : Nat, q + q % 2 = q ∨ q + q % 2 = q + 1 := by omega
    split
    · exact hf
    · split
      · exact hs
      · cases tie with
        | up => exact hs
        | even =>
            rcases heven (n * Nat.pow 10 (-e).toNat / (unit * Nat.pow 10 e.toNat)) with he | he
            · simp only [he]
              exact hf
            · simp only [he]
              exact hs
  next hf _ =>
    cases h
    exact hpoint _ hf
  next _ hs =>
    cases h
    exact hpoint _ hs
  next => cases h

end Grid

theorem holds_of_lt {i : Interval} {c d : Nat} (hl : i.low * d < c) (hh : c < i.high * d) :
    i.holds c d = true :=
  holds_iff.2 ⟨hl.le, hh.le, .inr ⟨hl, hh⟩⟩

/-- A grid is fine enough if its steps are shorter than the intervals, which are three quarters of
a last place below a power of two and a last place elsewhere. -/
theorem exists_holds {n p den : Nat} (hn : Fits n) (hp : 0 < p) (hden : 0 < den)
    (hfine : 10 ^ 16 * den ≤ n * p) :
    (roundingInterval n).holds (4 * (n * p / den) * den) p = true ∨
      (roundingInterval n).holds (4 * (n * p / den + 1) * den) p = true := by
  obtain ⟨m, hm, hm53⟩ := exists_significand hn
  have hfloor := Nat.div_mul_le_self (n * p) den
  have hnext := Nat.lt_mul_div_succ (n * p) hden
  generalize n * p / den = q at hfloor hnext ⊢
  rw [Nat.mul_comm den] at hnext
  by_contra hno
  obtain ⟨hno, hno'⟩ := not_or.1 hno
  have hG : 0 < 2 ^ spareBits n * p := Nat.mul_pos (Nat.two_pow_pos _) hp
  simp only [roundingInterval, Nat.one_shiftLeft] at hno hno'
  generalize hg : 2 ^ spareBits n = g at hm hno hno' hG
  generalize hl : (if 1 < g ∧ n = 2 ^ n.log2 then 1 else 2) = l at hno hno'
  have hlow : (4 * n - l * g) * p = 4 * (n * p) - l * (g * p) := by
    rw [Nat.sub_mul, Nat.mul_assoc, Nat.mul_assoc]
  have hhigh : (4 * n + 2 * g) * p = 4 * (n * p) + 2 * (g * p) := by ring
  have hbelow : 4 * (q * den) ≤ 4 * (n * p) - l * (g * p) := by
    by_contra hlt
    refine hno (holds_of_lt ?_ ?_)
    · rw [hlow, Nat.mul_assoc]
      exact Nat.not_le.1 hlt
    · rw [hhigh, Nat.mul_assoc]
      omega
  have habove : 4 * (n * p) + 2 * (g * p) ≤ 4 * ((q + 1) * den) := by
    by_contra hlt
    refine hno' (holds_of_lt ?_ ?_)
    · rw [hlow, Nat.mul_assoc]
      omega
    · rw [hhigh, Nat.mul_assoc]
      exact Nat.not_le.1 hlt
  rw [Nat.add_mul] at habove
  have hnp : n * p = m * (g * p) := by rw [hm, Nat.mul_assoc]
  rw [hnp] at hfine hbelow habove
  generalize g * p = G at hfine hG hbelow habove
  have hsmall : m * G ≤ (2 ^ 53 - 1) * G := Nat.mul_le_mul_right G (by omega)
  subst hl
  split at hbelow
  next hpow =>
    have hm52 : m = 2 ^ 52 := by
      have hs : 0 < spareBits n := by
        by_contra hz
        rw [← hg, Nat.eq_zero_of_not_pos hz] at hpow
        exact absurd hpow.1 (by decide)
      have hlog : n.log2 = 52 + spareBits n := by
        rw [spareBits] at hs ⊢
        omega
      have hmul : m * 2 ^ spareBits n = 2 ^ 52 * 2 ^ spareBits n := by
        rw [hg, ← hm, hpow.2, hlog, Nat.pow_add, hg]
      exact Nat.mul_right_cancel (Nat.two_pow_pos _) hmul
    subst hm52
    omega
  next => omega

section Shortest

variable {tie : Tie} {n : Nat}

theorem isSome_onGrid? {e : Int} (hn : Fits n)
    (hfine : 10 ^ 16 * (unit * 10 ^ e.toNat) ≤ n * 10 ^ (-e).toNat) :
    (onGrid? tie n e).isSome = true := by
  have hholds := exists_holds hn (ten_pow_pos _) (Nat.mul_pos unit_pos (ten_pow_pos _)) hfine
  simp only [onGrid?]
  split
  case h_1 | h_2 | h_3 => rfl
  case h_4 hf hs =>
    rcases hholds with h | h
    · cases hf.symm.trans h
    · cases hs.symm.trans h

theorem exists_leadingExponent (hn : 0 < n) :
    ∃ k : Nat, leadingExponent n = k - lowestExponent ∧
      unit * 10 ^ k ≤ n * 10 ^ lowestExponent := by
  have hunit : unit ≤ 10 ^ lowestExponent := by decide +kernel
  generalize hq : n * 10 ^ lowestExponent / unit = q
  have hq0 : 0 < q := by
    rw [← hq]
    exact Nat.div_pos (hunit.trans (Nat.le_mul_of_pos_left _ hn)) unit_pos
  have hlead : leadingExponent n = ((Nat.toDigits 10 q).length : Int) - 1 - lowestExponent := by
    simp only [leadingExponent, Nat.pow_eq, hq]
  obtain ⟨k, hk⟩ := Nat.exists_eq_succ_of_ne_zero (Nat.length_toDigits_pos (b := 10) (n := q)).ne'
  refine ⟨k, by omega, ?_⟩
  have hpow : 10 ^ k ≤ q := by
    cases k with
    | zero => exact hq0
    | succ k =>
        have hlen := (Nat.length_toDigits_le_iff (b := 10) (n := q) (by decide) k.succ_pos).not
        exact Nat.not_lt.1 (hlen.1 (by omega))
  calc unit * 10 ^ k ≤ unit * q := Nat.mul_le_mul_left _ hpow
    _ ≤ n * 10 ^ lowestExponent := by
      rw [← hq]
      exact Nat.mul_div_le ..

/-- The double has a point on the last grid, so the search ends there at the latest. -/
theorem nearest_firstGrid (hn : Fits n) {lead : Int} (fuel digits : Nat)
    (hlast : (onGrid? tie n (lead + 1 - (digits + fuel : Nat))).isSome = true) :
    (firstGrid tie n lead (fuel + 1) digits).nearest = n := by
  induction fuel generalizing digits with
  | zero =>
      rw [firstGrid]
      split
      next s hs => exact nearest_of_onGrid? hn hs
      next hs =>
        rw [Nat.add_zero, hs] at hlast
        cases hlast
  | succ fuel ih =>
      rw [firstGrid]
      split
      next s hs => exact nearest_of_onGrid? hn hs
      next =>
        refine ih (digits + 1) ?_
        rwa [Nat.add_right_comm, Nat.add_assoc]

theorem nearest_scale (c k : Nat) (e : Int) :
    (Scientific.mk (c * 10 ^ k) e).nearest = (Scientific.mk c (e + k)).nearest := by
  refine nearest_congr (ten_pow_pos _) (ten_pow_pos _) ?_
  have hexp : 10 ^ k * 10 ^ e.toNat * 10 ^ (-(e + k)).toNat =
      10 ^ (e + k).toNat * 10 ^ (-e).toNat := by
    rw [← Nat.pow_add, ← Nat.pow_add, ← Nat.pow_add]
    congr 1
    omega
  calc c * 10 ^ k * (unit * 10 ^ e.toNat) * 10 ^ (-(e + k)).toNat
      = c * unit * (10 ^ k * 10 ^ e.toNat * 10 ^ (-(e + k)).toNat) := by ring
    _ = c * (unit * 10 ^ (e + k).toNat) * 10 ^ (-e).toNat := by
      rw [hexp]
      ring

theorem nearest_dropTrailingZeros (fuel c : Nat) (e : Int) :
    (dropTrailingZeros fuel c e).nearest = (Scientific.mk c e).nearest := by
  induction fuel generalizing c e with
  | zero => rfl
  | succ fuel ih =>
      rw [dropTrailingZeros]
      split
      next h =>
        obtain ⟨d, rfl⟩ := Nat.dvd_of_mod_eq_zero h
        rw [ih, Nat.mul_div_cancel_left d (by decide), Nat.mul_comm 10]
        exact (nearest_scale d 1 e).symm
      next => rfl

/-- The digits that are written for a double read back as it. -/
theorem nearest_shortest (hn : Fits n) : (shortest tie n).nearest = n := by
  rw [shortest]
  split
  next h =>
    rw [h]
    rfl
  next h =>
    rw [nearest_dropTrailingZeros]
    obtain ⟨k, hk, hle⟩ := exists_leadingExponent (Nat.pos_of_ne_zero h)
    refine nearest_firstGrid hn 16 1 (isSome_onGrid? hn ?_)
    generalize he : leadingExponent n + 1 - ((1 + 16 : Nat) : Int) = e
    refine Nat.le_of_mul_le_mul_right ?_ (ten_pow_pos lowestExponent)
    have hexp : 10 ^ 16 * 10 ^ e.toNat * 10 ^ lowestExponent = 10 ^ k * 10 ^ (-e).toNat := by
      rw [← Nat.pow_add, ← Nat.pow_add, ← Nat.pow_add]
      congr 1
      omega
    calc 10 ^ 16 * (unit * 10 ^ e.toNat) * 10 ^ lowestExponent
        = unit * (10 ^ 16 * 10 ^ e.toNat * 10 ^ lowestExponent) := by ring
      _ = unit * 10 ^ k * 10 ^ (-e).toNat := by rw [hexp, Nat.mul_assoc]
      _ ≤ n * 10 ^ lowestExponent * 10 ^ (-e).toNat := Nat.mul_le_mul_right _ hle
      _ = n * 10 ^ (-e).toNat * 10 ^ lowestExponent := by ring

end Shortest

end SchemaCheck.Decimal
