import EdgeProxy.Number.Binary64
import EdgeProxy.Text.Digit
/-!
Decimal digits.  The digits of a number denote it, the first of them is a zero for zero alone, and
there are no more of them than powers of ten the number reaches.
-/

namespace EdgeProxy.Text

theorem digitsInto_eq_append (n : Nat) (rest : List Nat) :
    digitsInto n rest = digits n ++ rest := by
  induction n using Nat.strongRecOn generalizing rest with
  | ind n ih =>
      rw [digits]
      unfold digitsInto
      by_cases hsmall : n < 10
      · simp [hsmall]
      · simp only [hsmall, ↓reduceIte]
        rw [ih (n / 10) (by omega) (n % 10 :: rest), ih (n / 10) (by omega) [n % 10]]
        simp

theorem digits_of_lt {n : Nat} (h : n < 10) : digits n = [n] := by
  rw [digits, digitsInto, if_pos h]

theorem digits_of_ge {n : Nat} (h : 10 ≤ n) : digits n = digits (n / 10) ++ [n % 10] := by
  rw [digits, digitsInto, if_neg (by omega), digitsInto_eq_append]

theorem ofDigits_append_singleton (ds : List Nat) (d : Nat) :
    ofDigits (ds ++ [d]) = 10 * ofDigits ds + d := by
  simp [ofDigits, pushDigit]

/-- The digits of a number denote it. -/
theorem ofDigits_digits (n : Nat) : ofDigits (digits n) = n := by
  induction n using Nat.strongRecOn with
  | ind n ih =>
      by_cases hsmall : n < 10
      · rw [digits_of_lt hsmall]
        simp [ofDigits, pushDigit]
      · rw [digits_of_ge (by omega), ofDigits_append_singleton, ih (n / 10) (by omega)]
        omega

theorem digits_lt_ten (n : Nat) : ∀ d ∈ digits n, d < 10 := by
  induction n using Nat.strongRecOn with
  | ind n ih =>
      intro d hd
      by_cases hsmall : n < 10
      · rw [digits_of_lt hsmall, List.mem_singleton] at hd
        omega
      · rw [digits_of_ge (by omega), List.mem_append, List.mem_singleton] at hd
        rcases hd with hd | rfl
        · exact ih (n / 10) (by omega) d hd
        · omega

theorem digits_ne_nil (n : Nat) : digits n ≠ [] := by
  by_cases hsmall : n < 10
  · simp [digits_of_lt hsmall]
  · simp [digits_of_ge (Nat.le_of_not_lt hsmall)]

/-- Only zero is written with a zero in front. -/
theorem head_digits_ne_zero {n : Nat} (h : n ≠ 0) : (digits n).head? ≠ some 0 := by
  induction n using Nat.strongRecOn with
  | ind n ih =>
      by_cases hsmall : n < 10
      · simpa [digits_of_lt hsmall] using h
      · have hrest := ih (n / 10) (by omega) (by omega)
        rw [digits_of_ge (by omega)]
        cases hds : digits (n / 10) with
        | nil => exact absurd hds (digits_ne_nil _)
        | cons d ds =>
            rw [hds] at hrest
            simpa using hrest

theorem tenTo_succ (k : Nat) : tenTo (k + 1) = 10 * tenTo k := by
  rw [tenTo, tenTo, Nat.pow_eq, Nat.pow_eq, Nat.pow_succ, Nat.mul_comm]

theorem tenTo_le_tenTo {k m : Nat} (h : k ≤ m) : tenTo k ≤ tenTo m :=
  Nat.pow_le_pow_right (by decide) h

theorem tenTo_pos (k : Nat) : 0 < tenTo k := Nat.pow_pos (by decide)

theorem length_digits_le {k n : Nat} (hpos : 0 < k) (h : n < tenTo k) :
    (digits n).length ≤ k := by
  induction k generalizing n with
  | zero => omega
  | succ k ih =>
      by_cases hsmall : n < 10
      · rw [digits_of_lt hsmall]
        simp
      · rw [digits_of_ge (by omega), List.length_append, List.length_singleton]
        rw [tenTo_succ] at h
        have hk : 0 < k := by
          cases k with
          | zero => simp [tenTo] at h; omega
          | succ k => omega
        have hrest := ih (n := n / 10) hk (by omega)
        omega

theorem asciiDigit?_digitChar {d : Nat} (h : d < 10) : asciiDigit? (digitChar d) = some d := by
  have hall : ∀ d < 10, asciiDigit? (digitChar d) = some d := by decide
  exact hall d h

theorem isDigit_digitChar {d : Nat} (h : d < 10) : (digitChar d).isDigit = true := by
  have hall : ∀ d < 10, (digitChar d).isDigit = true := by decide
  exact hall d h

theorem digitChar_ne_zero {d : Nat} (h : d < 10) (hd : d ≠ 0) : digitChar d ≠ '0' := by
  have hall : ∀ d < 10, d ≠ 0 → digitChar d ≠ '0' := by decide
  exact hall d h hd

theorem filterMap_asciiDigit? {ds : List Nat} (h : ∀ d ∈ ds, d < 10) :
    (ds.map digitChar).filterMap asciiDigit? = ds := by
  induction ds with
  | nil => rfl
  | cons d ds ih =>
      rw [List.map_cons, List.filterMap_cons, asciiDigit?_digitChar (h d List.mem_cons_self)]
      simp only [List.cons.injEq, true_and]
      exact ih fun d' hd' => h d' (List.mem_cons_of_mem d hd')

end EdgeProxy.Text
