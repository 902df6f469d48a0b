import EdgeProxy.Number.Shortest
import EdgeProxy.Proofs.Number.Rounding
/-!
The shortest decimal number of a binary one reads back as it.  Every decimal that the search returns
was tried; the exact expansion, which stands in if the search finds nothing, is rounded to the number
because it is equal to it.
-/

namespace EdgeProxy.Binary64

theorem readsAs_iff {x : Binary64} {d : Decimal} :
    d.readsAs x = true ↔ ofDecimal x.isNegative d.digits d.exponent = x := by
  rw [Decimal.readsAs, beq_iff_eq]

/-- Rounding picks one of the two neighbours on the grid. -/
theorem roundQuotient_eq_or (n d : Nat) :
    roundQuotient n d = n / d ∨ roundQuotient n d = n / d + 1 := by
  rw [roundQuotient]
  split
  · exact Or.inr rfl
  · exact Or.inl rfl

theorem readsAs_of_onGrid? {x : Binary64} {num den : Nat} {place : Int} {d : Decimal}
    (h : onGrid? x num den place = some d) : d.readsAs x = true := by
  rw [onGrid?] at h
  cases hbelow : Decimal.readsAs x
      ⟨(inUnits num den place).1 / (inUnits num den place).2, place⟩ <;>
    cases habove : Decimal.readsAs x
      ⟨(inUnits num den place).1 / (inUnits num den place).2 + 1, place⟩ <;>
    simp only [hbelow, habove, reduceCtorEq, Option.some.injEq] at h
  · exact h ▸ habove
  · exact h ▸ hbelow
  · rcases roundQuotient_eq_or (inUnits num den place).1 (inUnits num den place).2 with
      hround | hround
    · rw [← h, hround]
      exact hbelow
    · rw [← h, hround]
      exact habove

theorem readsAs_of_searchGrids {x : Binary64} {num den : Nat} {places : Int} {tries count : Nat}
    {d : Decimal} (h : searchGrids x num den places tries count = some d) :
    d.readsAs x = true := by
  induction tries generalizing count with
  | zero => simp [searchGrids] at h
  | succ tries ih =>
      rw [searchGrids] at h
      cases hgrid : onGrid? x num den (places - count) with
      | none =>
          rw [hgrid] at h
          exact ih h
      | some found =>
          simp only [hgrid, Option.some.injEq] at h
          exact h ▸ readsAs_of_onGrid? hgrid

theorem cast_tenTo (n : Nat) : ((tenTo n : Nat) : ℚ) = 10 ^ n := by
  rw [tenTo, Nat.pow_eq]
  push_cast
  rfl

/-- The exact expansion of a number has the number's value. -/
theorem exactDecimal_value (m : Nat) (e : Int) :
    ((exactDecimal m e).digits : ℚ) * 10 ^ (exactDecimal m e).exponent = m * 2 ^ e := by
  rw [exactDecimal]
  by_cases hexponent : 0 ≤ e
  · obtain ⟨n, rfl⟩ := Int.eq_ofNat_of_zero_le hexponent
    simp [cast_twoTo]
  · obtain ⟨n, hn⟩ := Int.eq_ofNat_of_zero_le (a := -e) (by omega)
    have hneg : e = -(n : Int) := by omega
    subst hneg
    simp only [hexponent, ↓reduceIte, neg_neg, Int.toNat_natCast, Nat.pow_eq, Nat.cast_mul,
      Nat.cast_pow, Nat.cast_ofNat, zpow_neg, zpow_natCast]
    rw [show (10 : ℚ) = 5 * 2 by norm_num, mul_pow, mul_inv, mul_assoc,
      mul_inv_cancel_left₀ (by positivity)]

/-- A decimal number of moderate size is rounded as the quotient it denotes. -/
theorem ofDecimal_eq_ofQuotient {digits num den : Nat} {exponent : Int} (hdigits : 0 < digits)
    (hlow : -1200 ≤ exponent) (hhigh : exponent ≤ 400) (hden : 0 < den) (negative : Bool)
    (h : (num : ℚ) / den = digits * 10 ^ exponent) :
    ofDecimal negative digits exponent = ofQuotient negative num den := by
  rw [ofDecimal]
  simp only [beq_iff_eq, Nat.pos_iff_ne_zero.mp hdigits, ↓reduceIte, not_lt.mpr hhigh,
    not_lt.mpr (show -1200 ≤ exponent + ((digits.log2 + 1 : Nat) : Int) by omega)]
  by_cases hexponent : 0 ≤ exponent
  · obtain ⟨n, rfl⟩ := Int.eq_ofNat_of_zero_le hexponent
    rw [if_pos hexponent]
    apply ofQuotient_congr (by decide) hden
    rw [h]
    simp [cast_tenTo]
  · obtain ⟨n, hn⟩ := Int.eq_ofNat_of_zero_le (a := -exponent) (by omega)
    have hneg : exponent = -(n : Int) := by omega
    subst hneg
    rw [if_neg hexponent]
    apply ofQuotient_congr (Text.tenTo_pos _) hden
    rw [h]
    simp [cast_tenTo, div_eq_mul_inv]

theorem readsAs_exactDecimal {negative : Bool} {m : Nat} {e : Int}
    (hcanonical : CanonicalBinary64 m e) (hm : 0 < m) :
    (exactDecimal m e).readsAs (.finite negative m e hcanonical) = true := by
  obtain ⟨-, hleast, hgreatest, -⟩ := hcanonical
  have hvalue := exactDecimal_value m e
  have hdigits : 0 < (exactDecimal m e).digits := by
    rw [exactDecimal]
    split
    · exact Nat.mul_pos hm (twoTo_pos _)
    · exact Nat.mul_pos hm (Nat.pow_pos (by decide))
  have hexponent : -1200 ≤ (exactDecimal m e).exponent ∧ (exactDecimal m e).exponent ≤ 400 := by
    rw [exactDecimal]
    split
    · constructor <;> dsimp only <;> omega
    · constructor <;> dsimp only <;> omega
  have hquotient : ((scaleQuotient m 1 e).1 : ℚ) / (scaleQuotient m 1 e).2 = m * 2 ^ e := by
    rw [scaleQuotient_eq]
    simp
  have hden := scaleQuotient_den_pos (show 0 < 1 by decide) m e
  rw [readsAs_iff, ofDecimal_eq_ofQuotient hdigits hexponent.1 hexponent.2 hden _
    (hquotient.trans hvalue.symm)]
  exact ofQuotient_exact hden hm _ negative hquotient

theorem readsAs_tidy {x : Binary64} {d : Decimal} (h : d.readsAs x = true) :
    (tidy x d).readsAs x = true := by
  rw [tidy]
  split
  next hnormal => exact hnormal
  next => exact h

/-- The shortest decimal number of a number other than zero reads back as it. -/
theorem readsAs_shortest {negative : Bool} {m : Nat} {e : Int}
    (hcanonical : CanonicalBinary64 m e) (hm : 0 < m) :
    (shortest (.finite negative m e hcanonical)).readsAs (.finite negative m e hcanonical) =
      true := by
  rw [shortest, shortestOf]
  cases hsearch : searchGrids (.finite negative m e hcanonical) (scaleQuotient m 1 e).1
      (scaleQuotient m 1 e).2
      (decimalPlaces (scaleQuotient m 1 e).1 (scaleQuotient m 1 e).2) 17 1 with
  | none => exact readsAs_exactDecimal hcanonical hm
  | some d => exact readsAs_tidy (readsAs_of_searchGrids hsearch)

end EdgeProxy.Binary64
