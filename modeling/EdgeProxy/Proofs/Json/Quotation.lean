import EdgeProxy.Json.Reader
import EdgeProxy.Json.Writer
import EdgeProxy.Proofs.Text.Utf8
/-!
Reading written strings.  Every character is read back from its written form, be it itself or an
escape, so a string is read back from its characters up to the closing mark.
-/

namespace EdgeProxy.Json

theorem hexValue?_lowerHex {k : Nat} (h : k < 16) : Text.hexValue? (Text.lowerHex k) = some k := by
  have hall : ∀ k < 16, Text.hexValue? (Text.lowerHex k) = some k := by decide
  exact hall k h

theorem readHex4_hexDigits {n : Nat} (h : n < 0x10000) (rest : List Char) :
    readHex4 (Text.hexDigits 4 n ++ rest) = some (n, rest) := by
  have hdigits : Text.hexDigits 4 n = [Text.lowerHex (n / 16 / 16 / 16 % 16),
      Text.lowerHex (n / 16 / 16 % 16), Text.lowerHex (n / 16 % 16), Text.lowerHex (n % 16)] := rfl
  have hvalue : ((n / 16 / 16 / 16 % 16 * 16 + n / 16 / 16 % 16) * 16 + n / 16 % 16) * 16 +
      n % 16 = n := by omega
  rw [hdigits]
  simp only [List.cons_append, List.nil_append, readHex4,
    hexValue?_lowerHex (Nat.mod_lt _ (show 0 < 16 by decide)), hvalue]

/-- A code unit that is no half of a pair is a character by itself. -/
theorem unitChar_single {n : Nat} (h : n < 0xD800 ∨ 0xE000 ≤ n) (rest : List Char) :
    unitChar n rest = (Char.ofNat n, rest) := by
  have hhigh : ¬ (0xD800 ≤ n ∧ n < 0xDC00) := by omega
  have hlow : ¬ (0xDC00 ≤ n ∧ n < 0xE000) := by omega
  simp only [unitChar, Bool.and_eq_true, decide_eq_true_eq, hhigh, hlow, ↓reduceIte]

/-- The two halves of a pair are one character. -/
theorem unitChar_pair {high low : Nat} (hhigh : 0xD800 ≤ high ∧ high < 0xDC00)
    (hlow : 0xDC00 ≤ low ∧ low < 0xE000) (rest : List Char) :
    unitChar high (unitEscape low ++ rest) =
      (Char.ofNat (0x10000 + (high - 0xD800) * 0x400 + (low - 0xDC00)), rest) := by
  simp only [unitChar, Bool.and_eq_true, decide_eq_true_eq, hhigh, hlow, and_self, ↓reduceIte, unitEscape,
    List.cons_append, readHex4_hexDigits (show low < 0x10000 by omega)]

theorem readChars_unitEscape {n : Nat} (h : n < 0x10000) (fuel : Nat) (acc rest : List Char) :
    readChars (fuel + 1) acc (unitEscape n ++ rest) =
      readChars fuel ((unitChar n rest).1 :: acc) (unitChar n rest).2 := by
  rw [unitEscape, List.cons_append, List.cons_append, readChars]
  simp only [readHex4_hexDigits h]

theorem readChars_escape {c e : Char} (he : simpleEscape? e = some c) (fuel : Nat)
    (acc rest : List Char) :
    readChars (fuel + 1) acc ('\\' :: e :: rest) = readChars fuel (c :: acc) rest := by
  have hu : e ≠ 'u' := by
    rintro rfl
    simp [simpleEscape?] at he
  simp [readChars, he]

theorem readChars_plain {c : Char} (hmark : c ≠ '"') (hslash : c ≠ '\\') (hcontrol : ¬ c.toNat < 0x20)
    (fuel : Nat) (acc rest : List Char) :
    readChars (fuel + 1) acc (c :: rest) = readChars fuel (c :: acc) rest := by
  simp [readChars, hslash, hcontrol]

/-- A character is read from its escape, be it one code unit or two. -/
theorem readChars_escaped (c : Char) (fuel : Nat) (acc rest : List Char) :
    readChars (fuel + 1) acc ((if c.toNat < 0x10000 then unitEscape c.toNat
        else unitEscape (0xD800 + (c.toNat - 0x10000) / 0x400) ++
          unitEscape (0xDC00 + (c.toNat - 0x10000) % 0x400)) ++ rest) =
      readChars fuel (c :: acc) rest := by
  have hchar := Text.toNat_isCodePoint c
  by_cases hunit : c.toNat < 0x10000
  · rw [if_pos hunit, readChars_unitEscape hunit, unitChar_single (by omega), Char.ofNat_toNat]
  · have hhigh : 0xD800 ≤ 0xD800 + (c.toNat - 0x10000) / 0x400 ∧
        0xD800 + (c.toNat - 0x10000) / 0x400 < 0xDC00 := by omega
    have hlow : 0xDC00 ≤ 0xDC00 + (c.toNat - 0x10000) % 0x400 ∧
        0xDC00 + (c.toNat - 0x10000) % 0x400 < 0xE000 := by omega
    have hvalue : 0x10000 + (0xD800 + (c.toNat - 0x10000) / 0x400 - 0xD800) * 0x400 +
        (0xDC00 + (c.toNat - 0x10000) % 0x400 - 0xDC00) = c.toNat := by omega
    rw [if_neg hunit, List.append_assoc, readChars_unitEscape (by omega), unitChar_pair hhigh hlow, hvalue,
      Char.ofNat_toNat]

/-- A character is read from its written form. -/
theorem readChars_writeChar (ascii : Bool) (c : Char) (fuel : Nat) (acc rest : List Char) :
    readChars (fuel + 1) acc (writeChar ascii c ++ rest) = readChars fuel (c :: acc) rest := by
  rw [writeChar]
  by_cases hmark : c = '"'
  · subst hmark
    exact readChars_escape rfl fuel acc rest
  by_cases hslash : c = '\\'
  · subst hslash
    exact readChars_escape rfl fuel acc rest
  by_cases hn : c = '\n'
  · subst hn
    exact readChars_escape rfl fuel acc rest
  by_cases hr : c = '\r'
  · subst hr
    exact readChars_escape rfl fuel acc rest
  by_cases ht : c = '\t'
  · subst ht
    exact readChars_escape rfl fuel acc rest
  simp only [beq_iff_eq, hmark, hslash, hn, hr, ht, ↓reduceIte]
  by_cases hb : c.toNat = 8
  · obtain rfl : c = '\x08' := by
      rw [← Char.ofNat_toNat c, hb]
    exact readChars_escape rfl fuel acc rest
  by_cases hf : c.toNat = 12
  · obtain rfl : c = '\x0c' := by
      rw [← Char.ofNat_toNat c, hf]
    exact readChars_escape rfl fuel acc rest
  simp only [hb, hf, ↓reduceIte]
  by_cases hcontrol : c.toNat < 0x20
  · have hescaped := readChars_escaped c fuel acc rest
    rw [if_pos (by omega)] at hescaped
    rw [if_pos hcontrol]
    exact hescaped
  · have hplain := readChars_plain hmark hslash hcontrol fuel acc rest
    rw [if_neg hcontrol]
    split
    · exact hplain
    · split
      · exact hplain
      · exact readChars_escaped c fuel acc rest

theorem readChars_flatMap_writeChar (ascii : Bool) (cs : List Char) {fuel : Nat} (hfuel : cs.length < fuel)
    (acc rest : List Char) :
    readChars fuel acc (cs.flatMap (writeChar ascii) ++ '"' :: rest) =
      some (String.ofList (acc.reverse ++ cs), rest) := by
  induction cs generalizing fuel acc with
  | nil =>
      obtain ⟨fuel, rfl⟩ := Nat.exists_eq_succ_of_ne_zero (by omega : fuel ≠ 0)
      simp [readChars]
  | cons c cs ih =>
      obtain ⟨fuel, rfl⟩ := Nat.exists_eq_succ_of_ne_zero (by omega : fuel ≠ 0)
      simp only [List.length_cons] at hfuel
      rw [List.flatMap_cons, List.append_assoc, readChars_writeChar, ih (by omega)]
      simp

theorem length_le_flatMap_writeChar (ascii : Bool) (cs : List Char) :
    cs.length ≤ (cs.flatMap (writeChar ascii)).length := by
  induction cs with
  | nil => exact Nat.le_refl _
  | cons c cs ih =>
      have hpos : 0 < (writeChar ascii c).length := by
        rw [writeChar]
        repeat' split
        all_goals simp [unitEscape]
      rw [List.flatMap_cons, List.length_append, List.length_cons]
      omega

/-- A string is read from its characters and the closing mark. -/
theorem readString_writeString (ascii : Bool) (s : String) (rest : List Char) :
    readString (s.toList.flatMap (writeChar ascii) ++ '"' :: rest) = .ok (s, rest) := by
  have hlength := length_le_flatMap_writeChar ascii s.toList
  rw [readString, readChars_flatMap_writeChar ascii s.toList (by
    rw [List.length_append]
    omega)]
  simp

end EdgeProxy.Json
