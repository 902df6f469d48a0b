import EdgeProxy.Json.Reader
import EdgeProxy.Json.Writer
import EdgeProxy.Proofs.Number.Shortest
/-!
Reading written numbers.  An integer that is short enough is read from its digits, and a finite
floating-point number from the text of its shortest decimal, whichever way that is laid out.
-/

namespace EdgeProxy.Json

def digitText (ds : List Nat) : List Char := ds.map Text.digitChar

/-- What follows a number does not continue it. -/
def EndsNumber (rest : List Char) : Prop :=
  ∀ c ∈ rest.head?, c.isDigit = false ∧ c ≠ '.' ∧ c ≠ 'e' ∧ c ≠ 'E'

/-- What follows digits does not continue them. -/
def EndsDigits (rest : List Char) : Prop := ∀ c ∈ rest.head?, c.isDigit = false

theorem EndsNumber.endsDigits {rest : List Char} (h : EndsNumber rest) : EndsDigits rest :=
  fun c hc => (h c hc).1

theorem endsDigits_cons {c : Char} (h : c.isDigit = false) (rest : List Char) :
    EndsDigits (c :: rest) := by
  intro c' hc'
  simp only [List.head?_cons, Option.mem_some_iff] at hc'
  exact hc' ▸ h

theorem isDigit_of_mem_digitText {ds : List Nat} (hlt : ∀ d ∈ ds, d < 10) :
    ∀ c ∈ digitText ds, c.isDigit = true := by
  intro c hc
  simp only [digitText, List.mem_map] at hc
  obtain ⟨d, hd, rfl⟩ := hc
  exact Text.isDigit_digitChar (hlt d hd)

theorem digitText_append (ds ds' : List Nat) :
    digitText (ds ++ ds') = digitText ds ++ digitText ds' := List.map_append

theorem digitText_replicate_zero (k : Nat) :
    digitText (List.replicate k 0) = List.replicate k '0' := by
  rw [digitText, List.map_replicate]
  rfl

theorem spanDigits_append {cs rest : List Char} (hcs : ∀ c ∈ cs, c.isDigit = true)
    (hrest : EndsDigits rest) : spanDigits (cs ++ rest) = (cs, rest) := by
  induction cs with
  | nil =>
      cases rest with
      | nil => rfl
      | cons c rest =>
          have hc := hrest c rfl
          simp [spanDigits, hc]
  | cons c cs ih =>
      have hc := hcs c List.mem_cons_self
      have htail := ih fun c' hc' => hcs c' (List.mem_cons_of_mem c hc')
      simp only [spanDigits, Prod.mk.injEq] at htail ⊢
      simp [hc, htail]

theorem spanDigits_digitText {ds : List Nat} {rest : List Char} (hlt : ∀ d ∈ ds, d < 10)
    (hrest : EndsDigits rest) : spanDigits (digitText ds ++ rest) = (digitText ds, rest) :=
  spanDigits_append (isDigit_of_mem_digitText hlt) hrest

theorem digitsValue_digitText {ds : List Nat} (hlt : ∀ d ∈ ds, d < 10) :
    digitsValue (digitText ds) = Text.ofDigits ds := by
  rw [digitsValue, digitText, Text.filterMap_asciiDigit? hlt]

/-- A whole part is read if it is a zero alone or begins with another digit. -/
theorem spanWhole_digitText {ds : List Nat} {rest : List Char} (hlt : ∀ d ∈ ds, d < 10)
    (hhead : ds = [0] ∨ ds.head? ≠ some 0) (hrest : EndsDigits rest) :
    spanWhole (digitText ds ++ rest) = (digitText ds, rest) := by
  rcases hhead with rfl | hhead
  · rfl
  · have hspan := spanDigits_digitText hlt hrest
    cases ds with
    | nil =>
        cases rest with
        | nil => rfl
        | cons c rest =>
            have hc : c ≠ '0' := by
              rintro rfl
              simpa using hrest '0' rfl
            simpa [digitText, spanWhole, hc] using hspan
    | cons d ds =>
        have hd : Text.digitChar d ≠ '0' := by
          apply Text.digitChar_ne_zero (hlt d List.mem_cons_self)
          rintro rfl
          simp at hhead
        simpa [digitText, spanWhole, hd] using hspan

theorem spanFraction_of_ends {rest : List Char} (h : EndsNumber rest) :
    spanFraction rest = (none, rest) := by
  cases rest with
  | nil => rfl
  | cons c rest =>
      have hc := (h c rfl).2.1
      simp [spanFraction, hc]

theorem spanFraction_point {ds : List Nat} {rest : List Char} (hlt : ∀ d ∈ ds, d < 10)
    (hne : ds ≠ []) (hrest : EndsDigits rest) :
    spanFraction ('.' :: (digitText ds ++ rest)) = (some (digitText ds), rest) := by
  rw [spanFraction, spanDigits_digitText hlt hrest]
  cases ds with
  | nil => exact absurd rfl hne
  | cons d ds => rfl

theorem spanExponent_of_ends {rest : List Char} (h : EndsNumber rest) :
    spanExponent rest = (none, rest) := by
  cases rest with
  | nil => rfl
  | cons c rest =>
      have hc := (h c rfl).2.2
      simp [spanExponent, hc.1, hc.2]

def exponentChars (e : Int) : List Char := 'e' :: (Binary64.exponentText 2 e).toList

theorem ofDigits_zeros_append (k : Nat) (ds : List Nat) :
    Text.ofDigits (List.replicate k 0 ++ ds) = Text.ofDigits ds := by
  induction k with
  | zero => rfl
  | succ k ih =>
      rw [List.replicate_succ, List.cons_append]
      rw [Text.ofDigits] at ih ⊢
      exact ih

theorem toList_exponentText (e : Int) :
    (Binary64.exponentText 2 e).toList = (if e < 0 then '-' else '+') ::
      digitText (List.replicate (2 - (Text.digits e.natAbs).length) 0 ++ Text.digits e.natAbs) := by
  rw [digitText_append, digitText_replicate_zero]
  by_cases he : e < 0 <;>
    simp [Binary64.exponentText, Binary64.zerosText, Text.decimal, digitText, he]

theorem spanExponent_exponentChars {rest : List Char} (hrest : EndsDigits rest) (e : Int) :
    spanExponent (exponentChars e ++ rest) = (some e, rest) := by
  set ds := List.replicate (2 - (Text.digits e.natAbs).length) 0 ++ Text.digits e.natAbs with hds
  have hlt : ∀ d ∈ ds, d < 10 := by
    intro d hd
    rw [hds, List.mem_append, List.mem_replicate] at hd
    rcases hd with ⟨-, rfl⟩ | hd
    · decide
    · exact Text.digits_lt_ten _ d hd
  have hne : ds ≠ [] := by
    rw [hds]
    simp [Text.digits_ne_nil]
  have hvalue : digitsValue (digitText ds) = e.natAbs := by
    rw [digitsValue_digitText hlt, hds, ofDigits_zeros_append, Text.ofDigits_digits]
  have hspan := spanDigits_digitText hlt hrest
  rw [exponentChars, toList_exponentText, ← hds]
  cases hds' : digitText ds with
  | nil => simp [digitText, hne] at hds'
  | cons c cs =>
      rw [hds'] at hspan hvalue
      simp only [List.cons_append] at hspan
      by_cases he : e < 0
      · simp only [he, ↓reduceIte, List.cons_append, spanExponent, beq_self_eq_true, Bool.true_or,
          Text.splitSign, hspan, hvalue]
        simp only [Prod.mk.injEq, Option.some.injEq, and_true]
        omega
      · simp only [he, ↓reduceIte, List.cons_append, spanExponent, beq_self_eq_true, Bool.true_or,
          Text.splitSign, hspan, hvalue, Bool.false_eq_true]
        simp only [Prod.mk.injEq, Option.some.injEq, and_true]
        omega

theorem endsDigits_exponentChars (e : Int) (rest : List Char) :
    EndsDigits (exponentChars e ++ rest) := endsDigits_cons rfl _

/-- The whole part of a written number: a zero alone, or digits that begin with another one. -/
structure WholePart (ds : List Nat) : Prop where
  lt_ten : ∀ d ∈ ds, d < 10
  ne_nil : ds ≠ []
  head : ds = [0] ∨ ds.head? ≠ some 0

theorem WholePart.isEmpty {ds : List Nat} (h : WholePart ds) : (digitText ds).isEmpty = false := by
  simp [digitText, h.ne_nil]

theorem wholePart_zero : WholePart [0] := ⟨by decide, by decide, Or.inl rfl⟩

theorem wholePart_digits (n : Nat) : WholePart (Text.digits n) := by
  refine ⟨Text.digits_lt_ten n, Text.digits_ne_nil n, ?_⟩
  by_cases hn : n = 0
  · subst hn
    exact Or.inl (Text.digits_of_lt (by decide))
  · exact Or.inr (Text.head_digits_ne_zero hn)

theorem readMagnitude_integer {n : Nat} (hn : n < tenTo Text.maxIntegerDigits) {rest : List Char}
    (hrest : EndsNumber rest) (negative : Bool) :
    readMagnitude negative (digitText (Text.digits n) ++ rest) =
      .ok (.int (if negative then -n else n), rest) := by
  have hwhole := wholePart_digits n
  have hlength : ¬ Text.maxIntegerDigits < (digitText (Text.digits n)).length := by
    have hle := Text.length_digits_le (by decide) hn
    rw [digitText, List.length_map]
    omega
  have hvalue : digitsValue (digitText (Text.digits n)) = n := by
    rw [digitsValue_digitText hwhole.lt_ten, Text.ofDigits_digits]
  simp only [readMagnitude, spanWhole_digitText hwhole.lt_ten hwhole.head hrest.endsDigits,
    hwhole.isEmpty, spanFraction_of_ends hrest, spanExponent_of_ends hrest, numberOf, hlength,
    hvalue, Bool.false_eq_true, ↓reduceIte]

theorem readMagnitude_fraction {whole fraction : List Nat} {rest : List Char}
    (hwhole : WholePart whole) (hfraction : ∀ d ∈ fraction, d < 10) (hne : fraction ≠ [])
    (hrest : EndsNumber rest) (negative : Bool) :
    readMagnitude negative (digitText whole ++ '.' :: (digitText fraction ++ rest)) =
      .ok (.float (Binary64.ofDecimal negative (Text.ofDigits (whole ++ fraction))
        (-fraction.length)), rest) := by
  have hall : ∀ d ∈ whole ++ fraction, d < 10 := by
    intro d hd
    exact (List.mem_append.mp hd).elim (hwhole.lt_ten d) (hfraction d)
  have hspan := spanWhole_digitText hwhole.lt_ten hwhole.head
    (endsDigits_cons (c := '.') rfl (digitText fraction ++ rest))
  simp only [readMagnitude, hspan, hwhole.isEmpty, spanFraction_point hfraction hne hrest.endsDigits,
    spanExponent_of_ends hrest, numberOf, Option.getD_some, Option.getD_none, ← digitText_append,
    digitsValue_digitText hall, Bool.false_eq_true, ↓reduceIte, Int.zero_sub]
  rw [digitText, List.length_map]

theorem readMagnitude_exponent {d : Nat} {fraction : List Nat} {rest : List Char} (hd : d < 10)
    (hfraction : ∀ d ∈ fraction, d < 10) (hrest : EndsNumber rest) (negative : Bool) (e : Int) :
    readMagnitude negative (digitText [d] ++ ((if fraction.isEmpty then [] else
        '.' :: digitText fraction) ++ (exponentChars e ++ rest))) =
      .ok (.float (Binary64.ofDecimal negative (Text.ofDigits (d :: fraction))
        (e - fraction.length)), rest) := by
  have hall : ∀ d' ∈ d :: fraction, d' < 10 := by
    intro d' hd'
    exact (List.mem_cons.mp hd').elim (fun h => h ▸ hd) (hfraction d')
  have hwhole : WholePart [d] := by
    refine ⟨by simpa using hd, by simp, ?_⟩
    by_cases hzero : d = 0
    · exact Or.inl (by rw [hzero])
    · exact Or.inr (by simpa using hzero)
  cases fraction with
  | nil =>
      have hspan := spanWhole_digitText hwhole.lt_ten hwhole.head (endsDigits_exponentChars e rest)
      have hfrac : spanFraction (exponentChars e ++ rest) = (none, exponentChars e ++ rest) := rfl
      simp only [List.isEmpty_nil, ↓reduceIte, List.nil_append, readMagnitude, hspan,
        hwhole.isEmpty, hfrac, spanExponent_exponentChars hrest.endsDigits, numberOf,
        Option.getD_none, Option.getD_some, List.append_nil, digitsValue_digitText hall,
        Bool.false_eq_true, List.length_nil]
  | cons f fraction =>
      have hspan := spanWhole_digitText hwhole.lt_ten hwhole.head
        (endsDigits_cons (c := '.') rfl
          (digitText (f :: fraction) ++ (exponentChars e ++ rest)))
      have happend : digitText [d] ++ digitText (f :: fraction) = digitText (d :: f :: fraction) :=
        rfl
      simp only [List.isEmpty_cons, Bool.false_eq_true, ↓reduceIte, List.cons_append,
        readMagnitude, hspan, hwhole.isEmpty,
        spanFraction_point hfraction (by simp) (endsDigits_exponentChars e rest),
        spanExponent_exponentChars hrest.endsDigits, numberOf, Option.getD_some, happend,
        digitsValue_digitText hall]
      rw [digitText, List.length_map]

theorem toList_zerosText (k : Nat) :
    (Binary64.zerosText k).toList = digitText (List.replicate k 0) := by
  rw [Binary64.zerosText, String.toList_ofList, digitText_replicate_zero]

theorem ofDigits_append_zeros (ds : List Nat) (k : Nat) :
    Text.ofDigits (ds ++ List.replicate k 0) = Text.ofDigits ds * tenTo k := by
  induction k with
  | zero => simp [tenTo]
  | succ k ih =>
      rw [List.replicate_succ', ← List.append_assoc, Text.ofDigits_append_singleton, ih,
        Text.tenTo_succ]
      ring

/-- Zeros at the end of the digits count as the exponent does. -/
theorem ofDecimal_shift {digits k : Nat} (hdigits : 0 < digits) (hk : k ≤ 400) (negative : Bool) :
    Binary64.ofDecimal negative (digits * tenTo (k + 1)) (-1) =
      Binary64.ofDecimal negative digits k := by
  have hscaled : ((digits * tenTo k : Nat) : ℚ) / (1 : Nat) =
      (digits * tenTo (k + 1) : Nat) * 10 ^ (-1 : Int) := by
    rw [Text.tenTo_succ, zpow_neg_one]
    push_cast
    ring
  have hplain : ((digits * tenTo k : Nat) : ℚ) / (1 : Nat) = digits * 10 ^ (k : Int) := by
    push_cast
    rw [Binary64.cast_tenTo]
    simp
  rw [Binary64.ofDecimal_eq_ofQuotient (Nat.mul_pos hdigits (Text.tenTo_pos _)) (by decide)
      (by decide) (by decide) negative hscaled,
    Binary64.ofDecimal_eq_ofQuotient hdigits (by omega) (by omega) (by decide) negative hplain]

section Place

variable {d : Decimal} {rest : List Char}

theorem readMagnitude_small (hrest : EndsNumber rest) (negative : Bool)
    (hplaces : (Text.digits d.digits).length + d.exponent ≤ 0) :
    readMagnitude negative (digitText [0] ++ '.' :: (digitText (List.replicate
        (-((Text.digits d.digits).length + d.exponent)).toNat 0 ++ Text.digits d.digits) ++ rest)) =
      .ok (.float (Binary64.ofDecimal negative d.digits d.exponent), rest) := by
  have hlt : ∀ f ∈ List.replicate (-((Text.digits d.digits).length + d.exponent)).toNat 0 ++
      Text.digits d.digits, f < 10 := by
    intro f hf
    rw [List.mem_append, List.mem_replicate] at hf
    rcases hf with ⟨-, rfl⟩ | hf
    · decide
    · exact Text.digits_lt_ten _ f hf
  rw [readMagnitude_fraction wholePart_zero hlt (by simp [Text.digits_ne_nil]) hrest negative]
  have hvalue : Text.ofDigits ([0] ++ (List.replicate
      (-((Text.digits d.digits).length + d.exponent)).toNat 0 ++ Text.digits d.digits)) =
        d.digits := by
    rw [← List.append_assoc]
    change Text.ofDigits (List.replicate (_ + 1) 0 ++ _) = _
    rw [ofDigits_zeros_append, Text.ofDigits_digits]
  have hexponent : -((List.replicate (-((Text.digits d.digits).length + d.exponent)).toNat 0 ++
      Text.digits d.digits).length : Int) = d.exponent := by
    rw [List.length_append, List.length_replicate]
    omega
  rw [hvalue, hexponent]

theorem readMagnitude_large (hdigits : 0 < d.digits) (hrest : EndsNumber rest) (negative : Bool)
    (hexponent : 0 ≤ d.exponent) (hbound : d.exponent ≤ 400) :
    readMagnitude negative (digitText (Text.digits d.digits ++
        List.replicate d.exponent.toNat 0) ++ '.' :: (digitText [0] ++ rest)) =
      .ok (.float (Binary64.ofDecimal negative d.digits d.exponent), rest) := by
  obtain ⟨k, hk⟩ := Int.eq_ofNat_of_zero_le hexponent
  have hwhole : WholePart (Text.digits d.digits ++ List.replicate d.exponent.toNat 0) := by
    refine ⟨?_, by simp [Text.digits_ne_nil], Or.inr ?_⟩
    · intro f hf
      rw [List.mem_append, List.mem_replicate] at hf
      rcases hf with hf | ⟨-, rfl⟩
      · exact Text.digits_lt_ten _ f hf
      · decide
    · have hhead := Text.head_digits_ne_zero (Nat.pos_iff_ne_zero.mp hdigits)
      cases hds : Text.digits d.digits with
      | nil => exact absurd hds (Text.digits_ne_nil _)
      | cons f fs =>
          rw [hds] at hhead
          simpa using hhead
  rw [readMagnitude_fraction hwhole (by decide) (by decide) hrest negative]
  have hvalue : Text.ofDigits (Text.digits d.digits ++ List.replicate d.exponent.toNat 0 ++ [0]) =
      d.digits * tenTo (k + 1) := by
    rw [hk, Int.toNat_natCast, List.append_assoc, ← List.replicate_succ', ofDigits_append_zeros,
      Text.ofDigits_digits]
  rw [hvalue, hk]
  have hshift := ofDecimal_shift hdigits (k := k) (by omega) negative
  simp only [List.length_singleton, Nat.cast_one, hshift]

theorem readMagnitude_split (hdigits : 0 < d.digits) (hrest : EndsNumber rest) (negative : Bool)
    {p : Nat} (hpos : 0 < p) (hp : p < (Text.digits d.digits).length)
    (hplaces : (Text.digits d.digits).length + d.exponent = p) :
    readMagnitude negative (digitText ((Text.digits d.digits).take p) ++
        '.' :: (digitText ((Text.digits d.digits).drop p) ++ rest)) =
      .ok (.float (Binary64.ofDecimal negative d.digits d.exponent), rest) := by
  have hhead := Text.head_digits_ne_zero (Nat.pos_iff_ne_zero.mp hdigits)
  have hwhole : WholePart ((Text.digits d.digits).take p) := by
    refine ⟨fun f hf => Text.digits_lt_ten _ f (List.mem_of_mem_take hf), ?_, Or.inr ?_⟩
    · rw [Ne, List.take_eq_nil_iff]
      intro hnil
      exact hnil.elim (by omega) (Text.digits_ne_nil _)
    · rwa [List.head?_take, if_neg (by omega)]
  have hdrop : (Text.digits d.digits).drop p ≠ [] := by
    rw [Ne, List.drop_eq_nil_iff]
    omega
  rw [readMagnitude_fraction hwhole
    (fun f hf => Text.digits_lt_ten _ f (List.mem_of_mem_drop hf)) hdrop hrest negative]
  have hexponent : -(((Text.digits d.digits).drop p).length : Int) = d.exponent := by
    rw [List.length_drop]
    omega
  rw [List.take_append_drop, Text.ofDigits_digits, hexponent]

/-- A decimal number is read from its text, whichever way it is laid out. -/
theorem readMagnitude_place (hdigits : 0 < d.digits) (hrest : EndsNumber rest) (negative : Bool) :
    readMagnitude negative ((Binary64.documentLayout.place d).toList ++ rest) =
      .ok (.float (Binary64.ofDecimal negative d.digits d.exponent), rest) := by
  have hzero : Text.digitChar 0 = '0' := rfl
  rw [Binary64.Layout.place]
  simp only [Binary64.documentLayout, Binary64.plainLayout]
  by_cases hplain : -3 ≤ ((Text.digits d.digits).length : Int) + d.exponent ∧
      ((Text.digits d.digits).length : Int) + d.exponent ≤ 16
  · rw [if_pos (by
      rw [Bool.and_eq_true]
      exact ⟨decide_eq_true hplain.1, decide_eq_true hplain.2⟩)]
    by_cases hsmall : ((Text.digits d.digits).length : Int) + d.exponent ≤ 0
    · rw [if_pos hsmall]
      have hread := readMagnitude_small hrest negative hsmall
      simpa [toList_zerosText, digitText, hzero] using hread
    · rw [if_neg hsmall]
      by_cases hlarge : ((Text.digits d.digits).length : Int) ≤
          (Text.digits d.digits).length + d.exponent
      · have hzeros : ((Text.digits d.digits).length + d.exponent -
            (Text.digits d.digits).length).toNat = d.exponent.toNat := by omega
        have hread := readMagnitude_large hdigits hrest negative (by omega) (by omega)
        rw [if_pos hlarge, hzeros]
        simpa [toList_zerosText, digitText, hzero] using hread
      · have hread := readMagnitude_split hdigits hrest negative
          (p := ((Text.digits d.digits).length + d.exponent).toNat)
          (by omega) (by omega) (by omega)
        rw [if_neg hlarge]
        simpa [digitText] using hread
  · rw [if_neg fun htest => hplain (by
      rw [Bool.and_eq_true] at htest
      exact ⟨of_decide_eq_true htest.1, of_decide_eq_true htest.2⟩)]
    cases hds : Text.digits d.digits with
    | nil => exact absurd hds (Text.digits_ne_nil _)
    | cons f fraction =>
        have hlt := Text.digits_lt_ten d.digits
        rw [hds] at hlt
        have hread := readMagnitude_exponent (hlt f List.mem_cons_self)
          (fun f' hf' => hlt f' (List.mem_cons_of_mem f hf')) hrest negative
          ((f :: fraction).length + d.exponent - 1)
        have hexponent : ((f :: fraction).length : Int) + d.exponent - 1 - fraction.length =
            d.exponent := by
          rw [List.length_cons]
          omega
        rw [← hds, Text.ofDigits_digits, hds, hexponent] at hread
        cases hempty : fraction.isEmpty <;>
          simpa [digitText, exponentChars, hempty] using hread

end Place

end EdgeProxy.Json
