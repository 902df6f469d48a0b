import EdgeProxy.Number.Binary64
import EdgeProxy.Proofs.Text.Decimal
import Mathlib.Algebra.Order.Field.Power
import Mathlib.Data.Int.Log
import Mathlib.Data.Rat.Floor
import Mathlib.Tactic.Positivity
import Mathlib.Tactic.Ring
/-!
Rounding to the format.  The exponent that a quotient is given is the binary logarithm of the
quotient as a rational number, so equal quotients are rounded alike, and a quotient that is a number
of the format is rounded to that number.
-/

namespace EdgeProxy.Binary64

theorem cast_twoTo (n : Nat) : ((twoTo n : Nat) : ℚ) = 2 ^ n := by
  rw [twoTo, Nat.pow_eq]
  push_cast
  rfl

theorem twoTo_pos (n : Nat) : 0 < twoTo n := Nat.pow_pos (by decide)

/-- A scaled quotient is the quotient times the power of two. -/
theorem scaleQuotient_eq (num den : Nat) (power : Int) :
    ((scaleQuotient num den power).1 : ℚ) / (scaleQuotient num den power).2 =
      num / den * 2 ^ power := by
  rw [scaleQuotient]
  by_cases hpower : 0 ≤ power
  · obtain ⟨n, rfl⟩ := Int.eq_ofNat_of_zero_le hpower
    simp only [hpower, ↓reduceIte, Nat.cast_mul, cast_twoTo, Int.toNat_natCast, zpow_natCast]
    ring
  · obtain ⟨n, hn⟩ := Int.eq_ofNat_of_zero_le (a := -power) (by omega)
    have hneg : power = -(n : Int) := by omega
    subst hneg
    simp only [hpower, ↓reduceIte, Nat.cast_mul, cast_twoTo, neg_neg, Int.toNat_natCast, zpow_neg,
      zpow_natCast]
    rw [div_mul_eq_div_div, div_eq_mul_inv _ ((2 : ℚ) ^ n)]

theorem scaleQuotient_den_pos {den : Nat} (hden : 0 < den) (num : Nat) (power : Int) :
    0 < (scaleQuotient num den power).2 := by
  rw [scaleQuotient]
  split
  · exact hden
  · exact Nat.mul_pos hden (twoTo_pos _)

/-- The exponent of a quotient is its binary logarithm. -/
theorem quotientLog2_eq_log {num den : Nat} (hnum : 0 < num) (hden : 0 < den) :
    quotientLog2 num den = Int.log 2 ((num : ℚ) / den) := by
  have hquotient : (0 : ℚ) < num / den := by positivity
  have hnumLow : (2 : ℚ) ^ (Nat.log2 num : ℤ) ≤ num := by
    have := Nat.log2_self_le (Nat.pos_iff_ne_zero.mp hnum)
    rw [zpow_natCast]
    exact_mod_cast this
  have hnumHigh : (num : ℚ) < 2 ^ ((Nat.log2 num : ℤ) + 1) := by
    have := Nat.lt_log2_self (n := num)
    rw [← Nat.cast_succ, zpow_natCast]
    exact_mod_cast this
  have hdenLow : (2 : ℚ) ^ (Nat.log2 den : ℤ) ≤ den := by
    have := Nat.log2_self_le (Nat.pos_iff_ne_zero.mp hden)
    rw [zpow_natCast]
    exact_mod_cast this
  have hdenHigh : (den : ℚ) < 2 ^ ((Nat.log2 den : ℤ) + 1) := by
    have := Nat.lt_log2_self (n := den)
    rw [← Nat.cast_succ, zpow_natCast]
    exact_mod_cast this
  have hdenPos : (0 : ℚ) < den := by exact_mod_cast hden
  set k : ℤ := (Nat.log2 num : ℤ) - Nat.log2 den with hk
  have hhigh : (num : ℚ) / den < 2 ^ (k + 1) := by
    rw [div_lt_iff₀ hdenPos]
    calc (num : ℚ) < 2 ^ ((Nat.log2 num : ℤ) + 1) := hnumHigh
      _ = 2 ^ (k + 1) * 2 ^ (Nat.log2 den : ℤ) := by
        rw [← zpow_add₀ (by norm_num)]
        congr 1
        omega
      _ ≤ 2 ^ (k + 1) * den := by gcongr
  have hlow : (2 : ℚ) ^ (k - 1) ≤ num / den := by
    rw [le_div_iff₀ hdenPos]
    calc (2 : ℚ) ^ (k - 1) * den ≤ 2 ^ (k - 1) * 2 ^ ((Nat.log2 den : ℤ) + 1) := by gcongr
      _ = 2 ^ (Nat.log2 num : ℤ) := by
        rw [← zpow_add₀ (by norm_num)]
        congr 1
        omega
      _ ≤ num := hnumLow
  have htest : (scaleQuotient num den (-k)).2 ≤ (scaleQuotient num den (-k)).1 ↔
      (2 : ℚ) ^ k ≤ num / den := by
    have hscaled := scaleQuotient_eq num den (-k)
    have hpos : (0 : ℚ) < (scaleQuotient num den (-k)).2 := by
      exact_mod_cast scaleQuotient_den_pos hden num (-k)
    rw [← Nat.cast_le (α := ℚ), ← one_le_div hpos, hscaled, zpow_neg, ← div_eq_mul_inv,
      one_le_div (by positivity)]
  have hupper : Int.log 2 ((num : ℚ) / den) < k + 1 :=
    (Int.lt_zpow_iff_log_lt (by decide) hquotient).mp hhigh
  have hlower : k - 1 ≤ Int.log 2 ((num : ℚ) / den) :=
    (Int.zpow_le_iff_le_log (by decide) hquotient).mp hlow
  rw [quotientLog2]
  simp only [← hk]
  by_cases hfits : (scaleQuotient num den (-k)).2 ≤ (scaleQuotient num den (-k)).1
  · have hle : k ≤ Int.log 2 ((num : ℚ) / den) :=
      (Int.zpow_le_iff_le_log (by decide) hquotient).mp (htest.mp hfits)
    rw [if_pos hfits]
    omega
  · have hlt : Int.log 2 ((num : ℚ) / den) < k :=
      (Int.lt_zpow_iff_log_lt (by decide) hquotient).mp
        (lt_of_not_ge fun hge => hfits (htest.mpr hge))
    rw [if_neg hfits]
    omega

theorem roundQuotient_mul_right {c : Nat} (hc : 0 < c) (n d : Nat) :
    roundQuotient (n * c) (d * c) = roundQuotient n d := by
  rw [roundQuotient, roundQuotient, Nat.mul_div_mul_right n d hc, Nat.mul_mod_mul_right]
  have hless : d * c < 2 * (n % d * c) ↔ d < 2 * (n % d) := by
    rw [← Nat.mul_assoc, Nat.mul_lt_mul_right hc]
  have htie : (2 * (n % d * c) == d * c) = (2 * (n % d) == d) := by
    rw [← Nat.mul_assoc, Bool.eq_iff_iff, beq_iff_eq, beq_iff_eq,
      Nat.mul_left_inj (Nat.pos_iff_ne_zero.mp hc)]
  simp only [hless, htie]

/-- Equal quotients are rounded alike. -/
theorem roundQuotient_congr {n d n' d' : Nat} (hd : 0 < d) (hd' : 0 < d')
    (h : (n : ℚ) / d = n' / d') : roundQuotient n d = roundQuotient n' d' := by
  have hcross : n * d' = n' * d := by
    rw [div_eq_div_iff (by positivity) (by positivity)] at h
    exact_mod_cast h
  rw [← roundQuotient_mul_right hd' n d, hcross, Nat.mul_comm d d',
    roundQuotient_mul_right hd n' d']

theorem ofQuotient_congr {num den num' den' : Nat} (hden : 0 < den) (hden' : 0 < den')
    (negative : Bool) (h : (num : ℚ) / den = num' / den') :
    ofQuotient negative num den = ofQuotient negative num' den' := by
  by_cases hnum : num = 0
  · have hnum' : num' = 0 := by
      rw [hnum, Nat.cast_zero, zero_div, eq_comm, div_eq_zero_iff] at h
      rcases h with h | h
      · exact_mod_cast h
      · exact absurd (by exact_mod_cast h) (Nat.pos_iff_ne_zero.mp hden')
    simp [ofQuotient, hnum, hnum']
  · have hnum' : num' ≠ 0 := by
      rintro rfl
      rw [Nat.cast_zero, zero_div, div_eq_zero_iff] at h
      rcases h with h | h
      · exact hnum (by exact_mod_cast h)
      · exact absurd (by exact_mod_cast h) (Nat.pos_iff_ne_zero.mp hden)
    have hround : ∀ power : ℤ,
        roundQuotient (scaleQuotient num den power).1 (scaleQuotient num den power).2 =
          roundQuotient (scaleQuotient num' den' power).1 (scaleQuotient num' den' power).2 := by
      intro power
      apply roundQuotient_congr (scaleQuotient_den_pos hden num power)
        (scaleQuotient_den_pos hden' num' power)
      rw [scaleQuotient_eq, scaleQuotient_eq, h]
    simp only [ofQuotient, beq_iff_eq, hnum, hnum', ↓reduceIte, hround,
      quotientLog2_eq_log (Nat.pos_of_ne_zero hnum) hden,
      quotientLog2_eq_log (Nat.pos_of_ne_zero hnum') hden', h]

theorem roundQuotient_exact {n d m : Nat} (hd : 0 < d) (h : n = m * d) :
    roundQuotient n d = m := by
  subst h
  rw [roundQuotient, Nat.mul_div_cancel m hd, Nat.mul_mod_left]
  simp [Ne.symm (Nat.pos_iff_ne_zero.mp hd)]

/-- The exponent of a number of the format is found again from its value. -/
theorem max_log_eq_exponent {m : Nat} {e : Int} (hcanonical : CanonicalBinary64 m e) (hm : 0 < m) :
    max (-1074) (Int.log 2 ((m : ℚ) * 2 ^ e) - 52) = e := by
  obtain ⟨hbelow, hleast, -, hnormal⟩ := hcanonical
  have hvalue : (0 : ℚ) < m * 2 ^ e := by positivity
  have hupper : Int.log 2 ((m : ℚ) * 2 ^ e) < 53 + e := by
    rw [← Int.lt_zpow_iff_log_lt (by decide) hvalue, Nat.cast_ofNat, zpow_add₀ (by norm_num)]
    have hlt : (m : ℚ) < 2 ^ (53 : ℤ) := by exact_mod_cast hbelow
    gcongr
  rcases hnormal with hfull | hlowest
  · have hlower : 52 + e ≤ Int.log 2 ((m : ℚ) * 2 ^ e) := by
      rw [← Int.zpow_le_iff_le_log (by decide) hvalue, Nat.cast_ofNat, zpow_add₀ (by norm_num)]
      have hle : (2 : ℚ) ^ (52 : ℤ) ≤ m := by exact_mod_cast hfull
      gcongr
    omega
  · omega

/-- A quotient that is a number of the format is rounded to that number. -/
theorem ofQuotient_exact {num den m : Nat} {e : Int} (hden : 0 < den) (hm : 0 < m)
    (hcanonical : CanonicalBinary64 m e) (negative : Bool) (h : (num : ℚ) / den = m * 2 ^ e) :
    ofQuotient negative num den = .finite negative m e hcanonical := by
  have hnum : num ≠ 0 := by
    rintro rfl
    have hvalue : (0 : ℚ) < m * 2 ^ e := by positivity
    rw [← h] at hvalue
    simp at hvalue
  have hexponent := max_log_eq_exponent hcanonical hm
  have hscaled := scaleQuotient_eq num den (-e)
  have hpos := scaleQuotient_den_pos hden num (-e)
  have hposCast : (0 : ℚ) < (scaleQuotient num den (-e)).2 := by exact_mod_cast hpos
  have hmultiple : (scaleQuotient num den (-e)).1 = m * (scaleQuotient num den (-e)).2 := by
    rw [h, mul_assoc, ← zpow_add₀ (by norm_num), add_neg_cancel, zpow_zero, mul_one,
      div_eq_iff (ne_of_gt hposCast)] at hscaled
    exact_mod_cast hscaled
  have hround := roundQuotient_exact hpos hmultiple
  have hsmall : (m == twoTo 53) = false := by
    have := hcanonical.1
    rw [beq_eq_false_iff_ne]
    omega
  rw [ofQuotient]
  simp only [beq_iff_eq, hnum, ↓reduceIte, quotientLog2_eq_log (Nat.pos_of_ne_zero hnum) hden, h,
    hexponent, hround, hsmall, Bool.false_eq_true, ofParts, dif_pos hcanonical]

end EdgeProxy.Binary64
