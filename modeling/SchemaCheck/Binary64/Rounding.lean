namespace SchemaCheck.Binary64

/-- The whole number nearest to `n / d`; a tie goes to the even one. -/
def roundDiv (n d : Nat) : Nat :=
  if 2 * (n % d) < d ∨ (2 * (n % d) = d ∧ n / d % 2 = 0) then n / d else n / d + 1

/-- How many low bits of `u` lie below its 53 leading ones. -/
def spareBits (u : Nat) : Nat := u.log2 - 52

/-- `n / d` rounded to 53 significant bits. -/
def nearest (n d : Nat) : Nat :=
  roundDiv n (d <<< spareBits (n / d)) <<< spareBits (n / d)

def Fits (u : Nat) : Prop := ∃ m s, m < 1 <<< 53 ∧ u = m <<< s

theorem roundDiv_le (n d : Nat) : roundDiv n d ≤ n / d + 1 := by
  unfold roundDiv
  split <;> omega

theorem shiftRight_spareBits_lt (q : Nat) : q >>> spareBits q < 1 <<< 53 := by
  rw [Nat.shiftRight_eq_div_pow, Nat.one_shiftLeft,
    Nat.div_lt_iff_lt_mul (Nat.pow_pos (by decide)), ← Nat.pow_add]
  have h := Nat.lt_log2_self (n := q)
  have hp : 2 ^ (q.log2 + 1) ≤ 2 ^ (53 + spareBits q) :=
    Nat.pow_le_pow_right (by decide) (by unfold spareBits; omega)
  omega

theorem fits_nearest (n d : Nat) : Fits (nearest n d) := by
  have hle : roundDiv n (d <<< spareBits (n / d)) ≤ 1 <<< 53 := by
    have h := roundDiv_le n (d <<< spareBits (n / d))
    rw [Nat.shiftLeft_eq, ← Nat.div_div_eq_div_mul, ← Nat.shiftRight_eq_div_pow] at h
    have := shiftRight_spareBits_lt (n / d)
    rw [Nat.shiftLeft_eq]
    omega
  rcases Nat.lt_or_eq_of_le hle with h | h
  · exact ⟨_, _, h, rfl⟩
  · exact ⟨1, 53 + spareBits (n / d), by decide, by rw [nearest, h, Nat.shiftLeft_add]⟩

theorem fits_zero : Fits 0 := ⟨0, 0, by decide, by simp⟩

end SchemaCheck.Binary64
