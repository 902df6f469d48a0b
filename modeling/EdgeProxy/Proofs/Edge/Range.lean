import EdgeProxy.Route.Handler
import EdgeProxy.Text.Numeral
/-!
Addresses of callers and ranges of addresses.  A range is written as an address with the number of
leading bits that are fixed.  The ranges of private networks are read, and hold exactly the private
addresses.
-/

namespace EdgeProxy.Edge

/-- The address of a caller. -/
inductive Address where
  | v4 (a b c d : UInt8)
  | v6 (bits : BitVec 128)

/-- The addresses of private networks. -/
inductive Address.IsPrivate : Address → Prop where
  | ten (b c d : UInt8) : IsPrivate (.v4 10 b c d)
  | oneSevenTwo (b c d : UInt8) (h : 16 ≤ b.toNat ∧ b.toNat ≤ 31) : IsPrivate (.v4 172 b c d)
  | oneNineTwo (c d : UInt8) : IsPrivate (.v4 192 168 c d)
  | loopback (b c d : UInt8) : IsPrivate (.v4 127 b c d)

/-- A range of addresses of 32 bits: those that agree with `base` in the first `fixed` bits. -/
structure Range where
  base : Nat
  fixed : Nat
deriving DecidableEq

namespace Range

/-- A number of at most `bound` at the front of a text, and what follows it. -/
def number? (bound : Nat) (cs : List Char) : Option (Nat × List Char) :=
  match Text.spanDecimal cs with
  | ([], _) => none
  | (d :: ds, rest) =>
    if Text.ofDigits (d :: ds) ≤ bound then some (Text.ofDigits (d :: ds), rest) else none

/-- So many bytes with dots between them, after those that make up `above`. -/
def bytes? (above : Nat) : Nat → List Char → Option (Nat × List Char)
  | 0, _ => none
  | left + 1, cs =>
    match number? 255 cs with
    | none => none
    | some (n, rest) =>
      if left = 0 then some (256 * above + n, rest)
      else
        match rest with
        | '.' :: rest => bytes? (256 * above + n) left rest
        | _ => none

/-- The range that a text spells; an address alone is a range of one. -/
def ofText? (s : String) : Option Range :=
  match bytes? 0 4 s.toList with
  | some (base, []) => some ⟨base, 32⟩
  | some (base, '/' :: rest) =>
    match number? 32 rest with
    | some (fixed, []) => some ⟨base, fixed⟩
    | _ => none
  | _ => none

/-- Whether an address lies in a range; one of another length lies in none. -/
def contains (range : Range) : Address → Bool
  | .v4 a b c d =>
    (256 * (256 * (256 * a.toNat + b.toNat) + c.toNat) + d.toNat) >>> (32 - range.fixed) ==
      range.base >>> (32 - range.fixed)
  | .v6 _ => false

end Range

/-- The ranges of private networks, read. -/
def privateNetworks : List Range :=
  [⟨0x0a000000, 8⟩, ⟨0xac100000, 12⟩, ⟨0xc0a80000, 16⟩, ⟨0x7f000000, 8⟩]

theorem ofText?_privateRanges :
    privateRanges.map Range.ofText? = privateNetworks.map some := by
  decide

theorem Address.isPrivate_v4_iff (a b c d : UInt8) :
    (Address.v4 a b c d).IsPrivate ↔
      a.toNat = 10 ∨ a.toNat = 172 ∧ 16 ≤ b.toNat ∧ b.toNat ≤ 31 ∨
        a.toNat = 192 ∧ b.toNat = 168 ∨ a.toNat = 127 := by
  constructor
  · intro h
    cases h with
    | ten => exact Or.inl rfl
    | oneSevenTwo _ _ _ h => exact Or.inr (Or.inl ⟨rfl, h⟩)
    | oneNineTwo => exact Or.inr (Or.inr (Or.inl ⟨rfl, rfl⟩))
    | loopback => exact Or.inr (Or.inr (Or.inr rfl))
  · intro h
    have heq : ∀ {x y : UInt8}, x.toNat = y.toNat → x = y := UInt8.toNat_inj.mp
    rcases h with ha | ⟨ha, hb⟩ | ⟨ha, hb⟩ | ha
    · obtain rfl : a = 10 := heq ha
      exact .ten b c d
    · obtain rfl : a = 172 := heq ha
      exact .oneSevenTwo b c d hb
    · obtain rfl : a = 192 := heq ha
      obtain rfl : b = 168 := heq hb
      exact .oneNineTwo c d
    · obtain rfl : a = 127 := heq ha
      exact .loopback b c d

/-- The private networks hold exactly the private addresses. -/
theorem any_privateNetworks (a : Address) :
    privateNetworks.any (·.contains a) = true ↔ a.IsPrivate := by
  cases a with
  | v4 a b c d =>
      have hb := b.toNat_lt
      have hc := c.toNat_lt
      have hd := d.toNat_lt
      rw [Address.isPrivate_v4_iff]
      simp only [privateNetworks, Range.contains, List.any_cons, List.any_nil, Bool.or_false,
        Bool.or_eq_true, beq_iff_eq, Nat.shiftRight_eq_div_pow]
      omega
  | v6 bits =>
      constructor
      · intro h
        simp [privateNetworks, Range.contains] at h
      · intro h
        cases h

end EdgeProxy.Edge
