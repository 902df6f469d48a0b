import EdgeProxy.Text.Utf8
/-!
Encoding a text and decoding it again.  Every character's bytes are scanned back as that character,
whatever follows them, so a text is what its bytes decode to.
-/

namespace EdgeProxy.Text

/-- A code point is below the surrogates, or above them and not beyond the last one. -/
theorem toNat_isCodePoint (c : Char) :
    c.toNat < 0xD800 ∨ (0xDFFF < c.toNat ∧ c.toNat < 0x110000) := c.valid

theorem toNat_ofNat_of_lt {n : Nat} (h : n < 256) : (UInt8.ofNat n).toNat = n := by
  rw [UInt8.toNat_ofNat']
  exact Nat.mod_eq_of_lt h

theorem isTail_ofNat (n : Nat) : isTail (UInt8.ofNat (0x80 + n % 0x40)) = true := by
  rw [isTail, toNat_ofNat_of_lt (by omega)]
  simp only [Bool.and_eq_true, decide_eq_true_eq]
  omega

theorem tailBits_ofNat (n : Nat) : tailBits (UInt8.ofNat (0x80 + n % 0x40)) = n % 0x40 := by
  rw [tailBits, toNat_ofNat_of_lt (by omega)]
  omega

theorem scan_one {c : Char} (h : c.toNat < 0x80) (rest : List UInt8) :
    scan (UInt8.ofNat c.toNat :: rest) = .ok c :: scan rest := by
  rw [scan.eq_def]
  dsimp only
  rw [toNat_ofNat_of_lt (by omega), if_pos h, Char.ofNat_toNat]

theorem scan_two {c : Char} (hlow : 0x80 ≤ c.toNat) (hhigh : c.toNat < 0x800)
    (rest : List UInt8) :
    scan (UInt8.ofNat (0xC0 + c.toNat / 0x40) :: UInt8.ofNat (0x80 + c.toNat % 0x40) :: rest) =
      .ok c :: scan rest := by
  have hvalue : (0xC0 + c.toNat / 0x40) % 0x20 * 0x40 + c.toNat % 0x40 = c.toNat := by omega
  rw [scan.eq_def]
  dsimp only
  rw [toNat_ofNat_of_lt (by omega), if_neg (by omega), if_neg (by simp; omega),
    if_pos (by omega)]
  simp only [isTail_ofNat, ↓reduceIte, tailBits_ofNat, hvalue, Char.ofNat_toNat]

theorem scan_three {c : Char} (hlow : 0x800 ≤ c.toNat) (hhigh : c.toNat < 0x10000)
    (rest : List UInt8) :
    scan (UInt8.ofNat (0xE0 + c.toNat / 0x1000) :: UInt8.ofNat (0x80 + c.toNat / 0x40 % 0x40) ::
      UInt8.ofNat (0x80 + c.toNat % 0x40) :: rest) = .ok c :: scan rest := by
  have hpoint := toNat_isCodePoint c
  have hvalue : ((0xE0 + c.toNat / 0x1000) % 0x10 * 0x40 + c.toNat / 0x40 % 0x40) * 0x40 +
      c.toNat % 0x40 = c.toNat := by omega
  have hsecond : isSecondOfThree (UInt8.ofNat (0xE0 + c.toNat / 0x1000))
      (UInt8.ofNat (0x80 + c.toNat / 0x40 % 0x40)) = true := by
    rw [isSecondOfThree, isTail_ofNat, toNat_ofNat_of_lt (by omega), toNat_ofNat_of_lt (by omega)]
    simp
    omega
  rw [scan.eq_def]
  dsimp only
  rw [toNat_ofNat_of_lt (by omega), if_neg (by omega), if_neg (by simp; omega),
    if_neg (by omega), if_pos (by omega)]
  simp only [hsecond, isTail_ofNat, ↓reduceIte, tailBits_ofNat, hvalue, Char.ofNat_toNat]

theorem scan_four {c : Char} (hlow : 0x10000 ≤ c.toNat) (rest : List UInt8) :
    scan (UInt8.ofNat (0xF0 + c.toNat / 0x40000) ::
      UInt8.ofNat (0x80 + c.toNat / 0x1000 % 0x40) :: UInt8.ofNat (0x80 + c.toNat / 0x40 % 0x40) ::
      UInt8.ofNat (0x80 + c.toNat % 0x40) :: rest) = .ok c :: scan rest := by
  have hpoint := toNat_isCodePoint c
  have hvalue : (((0xF0 + c.toNat / 0x40000) % 0x08 * 0x40 + c.toNat / 0x1000 % 0x40) * 0x40 +
      c.toNat / 0x40 % 0x40) * 0x40 + c.toNat % 0x40 = c.toNat := by omega
  have hsecond : isSecondOfFour (UInt8.ofNat (0xF0 + c.toNat / 0x40000))
      (UInt8.ofNat (0x80 + c.toNat / 0x1000 % 0x40)) = true := by
    rw [isSecondOfFour, isTail_ofNat, toNat_ofNat_of_lt (by omega), toNat_ofNat_of_lt (by omega)]
    simp
    omega
  rw [scan.eq_def]
  dsimp only
  rw [toNat_ofNat_of_lt (by omega), if_neg (by omega), if_neg (by simp; omega),
    if_neg (by omega), if_neg (by omega)]
  simp only [hsecond, isTail_ofNat, ↓reduceIte, tailBits_ofNat, hvalue, Char.ofNat_toNat]

theorem scan_encodeChar (c : Char) (rest : List UInt8) :
    scan (encodeChar c ++ rest) = .ok c :: scan rest := by
  rw [encodeChar]
  by_cases hone : c.toNat < 0x80
  · simpa [hone] using scan_one hone rest
  · by_cases htwo : c.toNat < 0x800
    · simpa [hone, htwo] using scan_two (by omega) htwo rest
    · by_cases hthree : c.toNat < 0x10000
      · simpa [hone, htwo, hthree] using scan_three (by omega) hthree rest
      · simpa [hone, htwo, hthree] using scan_four (by omega) rest

theorem scan_flatMap_append (cs : List Char) (rest : List UInt8) :
    scan (cs.flatMap encodeChar ++ rest) = cs.map .ok ++ scan rest := by
  induction cs with
  | nil => rfl
  | cons c cs ih =>
      rw [List.flatMap_cons, List.append_assoc, scan_encodeChar, ih, List.map_cons, List.cons_append]

theorem scan_encode (cs : List Char) : scan (cs.flatMap encodeChar) = cs.map .ok := by
  simpa [scan] using scan_flatMap_append cs []

theorem allChars_map_ok (cs : List Char) : allChars (cs.map .ok) = .ok cs := by
  induction cs with
  | nil => rfl
  | cons c cs ih => rw [List.map_cons, allChars, ih]

/-- A text is what its bytes decode to. -/
theorem decode_encode (s : String) : decode (encode s) = .ok s := by
  simp only [decode, encode, scan_encode, allChars_map_ok, String.ofList_toList]

end EdgeProxy.Text
