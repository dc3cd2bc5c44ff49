import Mathlib.Tactic.Linarith
import Mathlib.Tactic.Ring
import SchemaCheck.Proofs.Binary64.Exact

namespace SchemaCheck.Binary64

theorem div_le_div_of_mul_le {n d n' d' : Nat} (hd : 0 < d) (hd' : 0 < d') (h : n * d' ≤ n' * d) :
    n / d ≤ n' / d' := by
  rw [Nat.le_div_iff_mul_le hd']
  refine Nat.le_of_mul_le_mul_right (Nat.le_trans ?_ h) hd
  calc n / d * d' * d = n / d * d * d' := Nat.mul_right_comm ..
    _ ≤ n * d' := Nat.mul_le_mul_right d' (Nat.div_mul_le_self n d)

theorem roundDiv_mono {n d n' d' : Nat} (hd : 0 < d) (hd' : 0 < d') (h : n * d' ≤ n' * d) :
    roundDiv n d ≤ roundDiv n' d' := by
  have hq := div_le_div_of_mul_le hd hd' h
  rcases Nat.lt_or_eq_of_le hq with hlt | heq
  · have hle := roundDiv_le n d
    have hge : n' / d' ≤ roundDiv n' d' := by
      unfold roundDiv
      split <;> omega
    omega
  · -- With equal whole parts the remainders are ordered as the numbers are.
    have hr : n % d * d' ≤ n' % d' * d := by
      have hn := Nat.div_add_mod n d
      have hn' := Nat.div_add_mod n' d'
      rw [heq] at hn
      generalize n' / d' = q at hn hn'
      generalize n % d = r at hn ⊢
      generalize n' % d' = r' at hn' ⊢
      subst hn hn'
      nlinarith
    unfold roundDiv
    rw [heq]
    split
    next => split <;> omega
    next hup =>
      rw [if_neg]
      rintro (hdown | ⟨hdown, heven⟩)
      · have : 2 * (n % d) < d := by nlinarith
        omega
      · have : 2 * (n % d) ≤ d := by nlinarith
        omega

theorem roundDiv_mul_self (j : Nat) {d : Nat} (hd : 0 < d) : roundDiv (j * d) d = j := by
  rw [roundDiv_of_dvd hd (Nat.dvd_mul_left d j), Nat.mul_div_cancel j hd]

theorem roundDiv_le_of_le_mul {n d j : Nat} (hd : 0 < d) (h : n ≤ j * d) : roundDiv n d ≤ j := by
  have hm := roundDiv_mono hd hd (Nat.mul_le_mul_right d h)
  rwa [roundDiv_mul_self j hd] at hm

theorem le_roundDiv_of_mul_le {n d j : Nat} (hd : 0 < d) (h : j * d ≤ n) : j ≤ roundDiv n d := by
  have hm := roundDiv_mono hd hd (Nat.mul_le_mul_right d h)
  rwa [roundDiv_mul_self j hd] at hm

theorem roundDiv_eq {n d m : Nat} (hd : 0 < d) (hlow : 2 * m * d ≤ 2 * n + d)
    (hhigh : 2 * n ≤ (2 * m + 1) * d)
    (htie : m % 2 = 0 ∨ 2 * m * d < 2 * n + d ∧ 2 * n < (2 * m + 1) * d) : roundDiv n d = m := by
  have hn := Nat.div_add_mod n d
  have hr := Nat.mod_lt n hd
  unfold roundDiv
  generalize n / d = q at hn ⊢
  generalize n % d = r at hn hr ⊢
  have h1 : (2 * m + 1) * d = 2 * (m * d) + d := by ring
  have h2 : 2 * m * d = 2 * (m * d) := by ring
  rw [h1] at hhigh htie
  rw [h2] at hlow htie
  rw [Nat.mul_comm d] at hn
  have hle : m ≤ q + 1 := by
    by_contra h
    have hm := Nat.mul_le_mul_right d (show q + 2 ≤ m by omega)
    rw [Nat.add_mul] at hm
    omega
  have hge : q ≤ m := by
    by_contra h
    have hm := Nat.mul_le_mul_right d (show m + 1 ≤ q by omega)
    rw [Nat.add_mul] at hm
    omega
  rcases Nat.lt_or_eq_of_le hge with hlt | rfl
  · obtain rfl : m = q + 1 := by omega
    rw [Nat.add_mul] at hlow htie
    rw [if_neg (by omega)]
  · rw [if_pos (by omega)]

theorem nearest_eq (n d : Nat) : nearest n d =
    roundDiv n (d * 2 ^ spareBits (n / d)) * 2 ^ spareBits (n / d) := by
  rw [nearest, Nat.shiftLeft_eq, Nat.shiftLeft_eq]

theorem spareBits_mono {u q : Nat} (h : u ≤ q) : spareBits u ≤ spareBits q := by
  have hlog : u.log2 ≤ q.log2 := by
    by_cases hu : u = 0
    · subst hu
      exact Nat.zero_le _
    · rw [Nat.le_log2 (by omega)]
      exact Nat.le_trans (Nat.log2_self_le hu) h
  exact Nat.sub_le_sub_right hlog 52

theorem two_pow_le_of_spareBits {q : Nat} (h : 0 < spareBits q) : 2 ^ (52 + spareBits q) ≤ q := by
  have hq : q ≠ 0 := by
    rintro rfl
    cases h
  rw [← Nat.le_log2 hq, spareBits]
  rw [spareBits] at h
  omega

theorem lt_two_pow_spareBits (q : Nat) : q < 2 ^ (53 + spareBits q) := by
  refine Nat.lt_of_lt_of_le Nat.lt_log2_self (Nat.pow_le_pow_right (by decide) ?_)
  rw [spareBits]
  omega

theorem spareBits_eq {q s : Nat} (hl : 2 ^ (52 + s) ≤ q) (hu : q < 2 ^ (53 + s)) :
    spareBits q = s := by
  have hq : q ≠ 0 := by
    have := Nat.two_pow_pos (52 + s)
    omega
  have hlog : q.log2 = 52 + s := (Nat.log2_eq_iff hq).2 ⟨hl, by rwa [Nat.add_right_comm]⟩
  rw [spareBits, hlog]
  omega

theorem spareBits_eq_zero {q : Nat} (h : q < 2 ^ 53) : spareBits q = 0 := by
  by_cases hq : q = 0
  · subst hq
    rfl
  · have hlog := (Nat.log2_lt hq).2 h
    rw [spareBits]
    omega

theorem two_pow_dvd {u s : Nat} (hu : Fits u) (h : s ≤ spareBits u) : 2 ^ s ∣ u := by
  have hd := shiftLeft_spareBits_dvd hu
  rw [Nat.one_shiftLeft] at hd
  exact Nat.dvd_trans (Nat.pow_dvd_pow 2 h) hd

theorem exists_significand {u : Nat} (hu : Fits u) : ∃ m, u = m * 2 ^ spareBits u ∧ m < 2 ^ 53 := by
  obtain ⟨m, hm⟩ := two_pow_dvd hu le_rfl
  refine ⟨m, by rwa [Nat.mul_comm] at hm, ?_⟩
  have hlt := lt_two_pow_spareBits u
  rw [Nat.pow_add] at hlt
  by_contra hge
  have hle := Nat.mul_le_mul_right (2 ^ spareBits u) (Nat.not_lt.1 hge)
  rw [Nat.mul_comm m] at hle
  omega

section Between

variable {n d u : Nat} (hd : 0 < d) (hu : Fits u)
include hd hu

theorem nearest_le (h : n ≤ u * d) : nearest n d ≤ u := by
  have hq : n / d ≤ u := Nat.div_le_of_le_mul (by rwa [Nat.mul_comm])
  obtain ⟨j, hj⟩ := two_pow_dvd hu (spareBits_mono hq)
  rw [nearest_eq]
  generalize spareBits (n / d) = s at hj ⊢
  rw [Nat.mul_comm] at hj
  subst hj
  refine Nat.mul_le_mul_right _ (roundDiv_le_of_le_mul (Nat.mul_pos hd (Nat.two_pow_pos s)) ?_)
  rwa [Nat.mul_comm d, ← Nat.mul_assoc]

theorem le_nearest (h : u * d ≤ n) : u ≤ nearest n d := by
  have hq : u ≤ n / d := (Nat.le_div_iff_mul_le hd).2 h
  have hD : 0 < d * 2 ^ spareBits (n / d) := Nat.mul_pos hd (Nat.two_pow_pos _)
  have hgrid : ∀ j, u ≤ j * 2 ^ spareBits (n / d) → j * 2 ^ spareBits (n / d) ≤ n / d →
      u ≤ nearest n d := by
    intro j hlow hhigh
    rw [nearest_eq]
    refine Nat.le_trans hlow (Nat.mul_le_mul_right _ (le_roundDiv_of_mul_le hD ?_))
    rw [Nat.mul_comm d, ← Nat.mul_assoc]
    exact Nat.le_trans (Nat.mul_le_mul_right d hhigh) (Nat.div_mul_le_self n d)
  rcases Nat.lt_or_eq_of_le (spareBits_mono hq) with hlt | heq
  · -- The number is of a greater size, so that the least number of this size lies between.
    refine hgrid (2 ^ 52) ?_ ?_
    · rw [← Nat.pow_add]
      refine Nat.le_trans (Nat.le_of_lt (lt_two_pow_spareBits u)) ?_
      exact Nat.pow_le_pow_right (by decide) (by omega)
    · rw [← Nat.pow_add]
      exact two_pow_le_of_spareBits (Nat.zero_lt_of_lt hlt)
  · obtain ⟨j, hj⟩ := two_pow_dvd hu (Nat.le_of_eq heq.symm)
    rw [Nat.mul_comm] at hj
    exact hgrid j (Nat.le_of_eq hj) (hj ▸ hq)

end Between

theorem nearest_mono {n d n' d' : Nat} (hd : 0 < d) (hd' : 0 < d') (h : n * d' ≤ n' * d) :
    nearest n d ≤ nearest n' d' := by
  have hq := div_le_div_of_mul_le hd hd' h
  rcases Nat.lt_or_eq_of_le (spareBits_mono hq) with hlt | heq
  · -- A power of two lies between numbers of different sizes.
    have hf : Fits (2 ^ (52 + spareBits (n' / d'))) :=
      ⟨1, 52 + spareBits (n' / d'), by decide, by rw [Nat.one_shiftLeft]⟩
    have hbelow : n ≤ 2 ^ (52 + spareBits (n' / d')) * d := by
      have hlt : n / d < 2 ^ (52 + spareBits (n' / d')) := by
        refine Nat.lt_of_lt_of_le (lt_two_pow_spareBits _) ?_
        exact Nat.pow_le_pow_right (by decide) (by omega)
      exact Nat.le_of_lt ((Nat.div_lt_iff_lt_mul hd).1 hlt)
    have habove : 2 ^ (52 + spareBits (n' / d')) * d' ≤ n' :=
      (Nat.le_div_iff_mul_le hd').1 (two_pow_le_of_spareBits (Nat.zero_lt_of_lt hlt))
    exact Nat.le_trans (nearest_le hd hf hbelow) (le_nearest hd' hf habove)
  · rw [nearest_eq, nearest_eq, heq]
    generalize spareBits (n' / d') = s
    have hs : 0 < 2 ^ s := Nat.two_pow_pos s
    refine Nat.mul_le_mul_right _ (roundDiv_mono (Nat.mul_pos hd hs) (Nat.mul_pos hd' hs) ?_)
    calc n * (d' * 2 ^ s) = n * d' * 2 ^ s := (Nat.mul_assoc ..).symm
      _ ≤ n' * d * 2 ^ s := Nat.mul_le_mul_right _ h
      _ = n' * (d * 2 ^ s) := Nat.mul_assoc ..

theorem nearest_congr {n d n' d' : Nat} (hd : 0 < d) (hd' : 0 < d') (h : n * d' = n' * d) :
    nearest n d = nearest n' d' :=
  Nat.le_antisymm (nearest_mono hd hd' (Nat.le_of_eq h)) (nearest_mono hd' hd (Nat.le_of_eq h.symm))

theorem signedUnits_ofInt_mono {i j : Int} (h : i ≤ j) :
    (ofInt i).signedUnits ≤ (ofInt j).signedUnits := by
  have hmono : ∀ {a b : Nat}, a ≤ b → nearest (a * unit) 1 ≤ nearest (b * unit) 1 := fun hab =>
    nearest_mono Nat.one_pos Nat.one_pos (Nat.mul_le_mul_right 1 (Nat.mul_le_mul_right unit hab))
  have hsigned : ∀ k : Int, (ofInt k).signedUnits =
      if k < 0 then -(nearest (k.natAbs * unit) 1 : Int) else nearest (k.natAbs * unit) 1 := by
    intro k
    rw [signedUnits, units_ofInt]
    simp only [ofInt, ofQuotient, decide_eq_true_eq]
  rw [hsigned, hsigned]
  by_cases hi : i < 0
  · by_cases hj : j < 0
    · have := @hmono j.natAbs i.natAbs (by omega)
      rw [if_pos hi, if_pos hj]
      omega
    · rw [if_pos hi, if_neg hj]
      omega
  · have := @hmono i.natAbs j.natAbs (by omega)
    rw [if_neg hi, if_neg (by omega)]
    omega

/-- The nearest doubles have the same value. -/
def Indistinct (i j : Int) : Prop := (ofInt i).sameValue (ofInt j) = true

theorem indistinct_iff {i j : Int} :
    Indistinct i j ↔ (ofInt i).signedUnits = (ofInt j).signedUnits := by
  rw [Indistinct, sameValue, decide_eq_true_eq]

instance (i j : Int) : Decidable (Indistinct i j) := inferInstanceAs (Decidable (_ = true))

theorem Indistinct.symm {i j : Int} (h : Indistinct i j) : Indistinct j i :=
  indistinct_iff.2 (indistinct_iff.1 h).symm

theorem ofInt_le_iff {i j : Int} : ofInt i ≤ ofInt j ↔ i ≤ j ∨ Indistinct i j := by
  change (ofInt i).signedUnits ≤ (ofInt j).signedUnits ↔ _
  rw [indistinct_iff]
  constructor
  · intro h
    by_cases hij : i ≤ j
    · exact .inl hij
    · right
      have := signedUnits_ofInt_mono (Int.le_of_lt (Int.not_le.1 hij))
      omega
  · rintro (h | h)
    · exact signedUnits_ofInt_mono h
    · exact Int.le_of_eq h

theorem ofInt_lt_iff {i j : Int} : ofInt i < ofInt j ↔ i < j ∧ ¬Indistinct i j := by
  have hle : ofInt i < ofInt j ↔ ¬ofInt j ≤ ofInt i := Int.not_le.symm
  have hsymm : Indistinct j i ↔ Indistinct i j := ⟨.symm, .symm⟩
  rw [hle, ofInt_le_iff, not_or, Int.not_le, hsymm]

theorem signedUnits_ofInt_lt_succ {k : Int} (hk : k.natAbs ≤ 1 <<< 53)
    (hs : (k + 1).natAbs ≤ 1 <<< 53) :
    (ofInt k).signedUnits < (ofInt (k + 1)).signedUnits := by
  rw [signedUnits_ofInt_of_le hk, signedUnits_ofInt_of_le hs]
  exact Int.mul_lt_mul_of_pos_right (by omega) (Int.natCast_pos.2 unit_pos)

theorem eq_of_indistinct {i j : Int} (hi : i.natAbs < 1 <<< 53) (h : Indistinct i j) : i = j := by
  rw [indistinct_iff] at h
  rcases Int.lt_trichotomy i j with hlt | heq | hlt
  · have hstep := signedUnits_ofInt_lt_succ (k := i) (by omega) (by omega)
    have hmono := signedUnits_ofInt_mono (i := i + 1) (j := j) hlt
    omega
  · exact heq
  · have hstep := signedUnits_ofInt_lt_succ (k := i - 1) (by omega) (by omega)
    have hmono := signedUnits_ofInt_mono (i := j) (j := i - 1) (by omega)
    rw [Int.sub_add_cancel] at hstep
    omega

/-- The first integer that is no double shares its nearest one with the last that is. -/
theorem indistinct_pow_53 : Indistinct (2 ^ 53) (2 ^ 53 + 1) := by decide +kernel

end SchemaCheck.Binary64
