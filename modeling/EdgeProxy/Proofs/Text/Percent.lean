import EdgeProxy.Proofs.Text.Utf8
import EdgeProxy.Text.Percent
/-!
Percent-encoding and its inverse.  An encoded text consists of unreserved characters, braces and escapes, and
decodes to the bytes it was made of.  A text that is decoded without having been encoded comes out as it was
exactly if it holds no escape: every escape makes it shorter, and nothing makes it longer.
-/

namespace EdgeProxy.Text

def escapeDigits : List Char :=
  ['0', '1', '2', '3', '4', '5', '6', '7', '8', '9', 'A', 'B', 'C', 'D', 'E', 'F']

/-- A text of unreserved characters, braces and escapes. -/
inductive PercentEncoded : List Char → Prop where
  | nil : PercentEncoded []
  | literal {c : Char} {rest : List Char}
      (h : c.isAlphanum = true ∨ c ∈ ['_', '.', '-', '~', '\x7b', '\x7d'])
      (hrest : PercentEncoded rest) : PercentEncoded (c :: rest)
  | escape {a b : Char} {rest : List Char} (ha : a ∈ escapeDigits) (hb : b ∈ escapeDigits)
      (hrest : PercentEncoded rest) : PercentEncoded ('%' :: a :: b :: rest)

/-- No percent sign in a text is followed by two hexadecimal digits. -/
def EscapeFree (cs : List Char) : Prop :=
  ∀ a b, ['%', a, b] <:+: cs → hexValue? a = none ∨ hexValue? b = none

section Digits

theorem upperHex_mem {k : Nat} (h : k < 16) : upperHex k ∈ escapeDigits := by
  have hall : ∀ k < 16, upperHex k ∈ escapeDigits := by decide
  exact hall k h

theorem hexValue?_upperHex {k : Nat} (h : k < 16) : hexValue? (upperHex k) = some k := by
  have hall : ∀ k < 16, hexValue? (upperHex k) = some k := by decide
  exact hall k h

theorem isLiteral_iff (c : Char) :
    isLiteral c = true ↔ c.isAlphanum = true ∨ c ∈ ['_', '.', '-', '~', '\x7b', '\x7d'] := by
  simp [isLiteral, isUnreserved, or_assoc]

theorem not_isLiteral_percent : isLiteral '%' = false := by decide

end Digits

section Decoding

variable {c a b : Char} {x y : Nat} {rest : List Char}

theorem percentDecode_escape (ha : hexValue? a = some x) (hb : hexValue? b = some y) :
    percentDecode ('%' :: a :: b :: rest) = UInt8.ofNat (16 * x + y) :: percentDecode rest := by
  rw [percentDecode, ha, hb]

theorem percentDecode_cons (h : c ≠ '%') :
    percentDecode (c :: rest) = encodeChar c ++ percentDecode rest :=
  percentDecode.eq_3 c rest fun _ _ _ hc _ => h hc

theorem encodeChar_of_lt (h : c.toNat < 0x80) : encodeChar c = [UInt8.ofNat c.toNat] := by
  rw [encodeChar]
  exact if_pos h

/-- One encoded byte is read back. -/
theorem percentDecode_percentByte (byte : UInt8) (rest : List Char) :
    percentDecode (percentByte byte ++ rest) = byte :: percentDecode rest := by
  have hbyte : byte.toNat < 256 := byte.toNat_lt
  rw [percentByte]
  split
  next h =>
    obtain ⟨hlow, hliteral⟩ := Bool.and_eq_true_iff.mp h
    have hlow : byte.toNat < 0x80 := by simpa using hlow
    have hpoint : (Char.ofNat byte.toNat).toNat = byte.toNat := by
      rw [Char.ofNat, dif_pos (Or.inl (by omega))]
      rfl
    have hpercent : Char.ofNat byte.toNat ≠ '%' := by
      intro heq
      rw [heq, not_isLiteral_percent] at hliteral
      exact Bool.false_ne_true hliteral
    rw [List.singleton_append, percentDecode_cons hpercent, encodeChar_of_lt (by omega), hpoint,
      UInt8.ofNat_toNat]
    rfl
  next =>
    have hhigh := hexValue?_upperHex (k := byte.toNat / 16) (by omega)
    have hlow := hexValue?_upperHex (k := byte.toNat % 16) (by omega)
    have hvalue : 16 * (byte.toNat / 16) + byte.toNat % 16 = byte.toNat := by omega
    rw [List.cons_append, List.cons_append, List.cons_append, List.nil_append,
      percentDecode_escape hhigh hlow, hvalue, UInt8.ofNat_toNat]

theorem percentDecode_flatMap (bytes : List UInt8) (rest : List Char) :
    percentDecode (bytes.flatMap percentByte ++ rest) = bytes ++ percentDecode rest := by
  induction bytes with
  | nil => rfl
  | cons byte bytes ih =>
      rw [List.flatMap_cons, List.append_assoc, percentDecode_percentByte, ih, List.cons_append]

/-- An encoded text decodes to the bytes of what it was made of. -/
theorem percentDecode_percentEncode (s : String) :
    percentDecode (percentEncode s).toList = encode s := by
  have hbytes := percentDecode_flatMap (encode s) []
  rw [List.append_nil, percentDecode, List.append_nil] at hbytes
  rwa [percentEncode, String.toList_ofList]

theorem decode_percentEncode (s : String) :
    decode (percentDecode (percentEncode s).toList) = .ok s := by
  rw [percentDecode_percentEncode, decode_encode]

theorem percentEncode_injective : Function.Injective percentEncode := by
  intro s t h
  have hs := decode_percentEncode s
  rw [h, decode_percentEncode] at hs
  exact (Except.ok.inj hs).symm

end Decoding

section Shape

theorem PercentEncoded.percentByte_append {cs : List Char} (h : PercentEncoded cs) (byte : UInt8) :
    PercentEncoded (percentByte byte ++ cs) := by
  have hbyte : byte.toNat < 256 := byte.toNat_lt
  rw [percentByte]
  split
  next hliteral =>
    exact .literal ((isLiteral_iff _).mp (Bool.and_eq_true_iff.mp hliteral).2) h
  next => exact .escape (upperHex_mem (by omega)) (upperHex_mem (by omega)) h

/-- An encoded text consists of unreserved characters, braces and escapes. -/
theorem percentEncoded_percentEncode (s : String) : PercentEncoded (percentEncode s).toList := by
  rw [percentEncode, String.toList_ofList]
  induction encode s with
  | nil => exact .nil
  | cons byte bytes ih =>
      rw [List.flatMap_cons]
      exact ih.percentByte_append byte

/-- A character that neither stands for itself nor belongs to an escape is not in an encoded text. -/
theorem PercentEncoded.not_mem {cs : List Char} (h : PercentEncoded cs) {c : Char}
    (hliteral : isLiteral c = false) (hescape : c ≠ '%') : c ∉ cs := by
  have hdigits : ∀ a ∈ escapeDigits, isLiteral a = true := List.all_eq_true.mp (by decide)
  have hdigit : ∀ a ∈ escapeDigits, c ≠ a := by
    rintro a ha rfl
    exact Bool.false_ne_true (hliteral.symm.trans (hdigits _ ha))
  induction h with
  | nil => exact List.not_mem_nil
  | @literal d rest hd _ ih =>
      have hne : c ≠ d := by
        rintro rfl
        exact Bool.false_ne_true (hliteral.symm.trans ((isLiteral_iff c).mpr hd))
      simp [hne, ih]
  | @escape a b rest ha hb _ ih => simp [hescape, hdigit a ha, hdigit b hb, ih]

end Shape

section Length

theorem scan_tail {byte : UInt8} (h : isTail byte = true) (rest : List UInt8) :
    scan (byte :: rest) = .error .start :: scan rest := by
  simp only [isTail, Bool.and_eq_true, decide_eq_true_eq] at h
  rw [scan.eq_def]
  dsimp only
  rw [if_neg (by omega), if_pos (by simp; omega)]

theorem isTail_of_isSecondOfThree {a b : UInt8} (h : isSecondOfThree a b = true) : isTail b = true := by
  simp only [isSecondOfThree, Bool.and_eq_true] at h
  exact h.1.1

theorem isTail_of_isSecondOfFour {a b : UInt8} (h : isSecondOfFour a b = true) : isTail b = true := by
  simp only [isSecondOfFour, Bool.and_eq_true] at h
  exact h.1.1

/-- A byte in front adds at most one character: what it takes from behind it would have been pieces of their
own. -/
theorem length_scan_cons_le (byte : UInt8) (bytes : List UInt8) :
    (scan (byte :: bytes)).length ≤ (scan bytes).length + 1 := by
  rw [scan.eq_def (byte :: bytes)]
  dsimp only
  split
  · simp
  split
  · simp
  split
  · -- two bytes
    split
    · simp
    split
    next b rest hb => simp [scan_tail hb]
    · simp
  split
  · -- three bytes
    split
    · simp
    split
    next b rest hb =>
      rw [scan_tail (isTail_of_isSecondOfThree hb)]
      split
      · simp
      split
      next c rest hc => simp [scan_tail hc]
      · simp
    · simp
  · -- four bytes
    split
    · simp
    split
    next b rest hb =>
      rw [scan_tail (isTail_of_isSecondOfFour hb)]
      split
      · simp
      split
      next c rest hc =>
        rw [scan_tail hc]
        split
        · simp
        split
        next d rest hd => simp [scan_tail hd]
        · simp
      · simp
    · simp

theorem escapeFree_of_not_mem {cs : List Char} (h : '%' ∉ cs) : EscapeFree cs :=
  fun _ _ hin => absurd (hin.subset List.mem_cons_self) h

theorem escapeFree_cons_iff {c : Char} {rest : List Char} :
    EscapeFree (c :: rest) ↔
      (c = '%' → ∀ a b, [a, b] <+: rest → hexValue? a = none ∨ hexValue? b = none) ∧
        EscapeFree rest := by
  simp only [EscapeFree, List.infix_cons_iff, List.cons_prefix_cons]
  constructor
  · intro h
    exact ⟨fun hc a b hab => h a b (.inl ⟨hc.symm, hab⟩), fun a b hab => h a b (.inr hab)⟩
  · rintro ⟨hhead, hrest⟩ a b (⟨hc, hab⟩ | hab)
    · exact hhead hc.symm a b hab
    · exact hrest a b hab

/-- Decoding makes no text longer, and one that holds an escape shorter. -/
theorem length_scan_percentDecode (cs : List Char) :
    (scan (percentDecode cs)).length ≤ cs.length ∧
      ((scan (percentDecode cs)).length = cs.length → EscapeFree cs) := by
  fun_induction percentDecode cs with
  | case1 => exact ⟨Nat.le_refl _, fun _ => escapeFree_of_not_mem List.not_mem_nil⟩
  | case2 a b rest x y hb ha ih =>
      have hstep := length_scan_cons_le (UInt8.ofNat (16 * x + y)) (percentDecode rest)
      simp only [List.length_cons]
      omega
  | case3 a b rest hnone ih =>
      rw [scan_encodeChar, List.length_cons, List.length_cons, Nat.add_right_cancel_iff]
      refine ⟨Nat.succ_le_succ ih.1, fun hlength => escapeFree_cons_iff.mpr ⟨fun _ a' b' hab => ?_, ih.2 hlength⟩⟩
      obtain ⟨rfl, rfl⟩ : a' = a ∧ b' = b := by simpa using hab
      cases ha : hexValue? a' with
      | none => exact .inl rfl
      | some x =>
          cases hb : hexValue? b' with
          | none => exact .inr rfl
          | some y => exact (hnone x y ha hb).elim
  | case4 c rest hother ih =>
      rw [scan_encodeChar, List.length_cons, List.length_cons, Nat.add_right_cancel_iff]
      refine ⟨Nat.succ_le_succ ih.1, fun hlength => escapeFree_cons_iff.mpr ⟨fun hc a b hab => ?_, ih.2 hlength⟩⟩
      obtain ⟨rest', rfl⟩ := hab
      exact (hother a b rest' hc rfl).elim

/-- A text without escapes decodes to its own bytes. -/
theorem percentDecode_of_escapeFree {cs : List Char} (h : EscapeFree cs) :
    percentDecode cs = cs.flatMap encodeChar := by
  fun_induction percentDecode cs with
  | case1 => rfl
  | case2 a b rest x y hb ha ih =>
      have hnone := (escapeFree_cons_iff.mp h).1 rfl a b (by simp)
      simp [ha, hb] at hnone
  | case3 a b rest hnone ih => rw [ih (escapeFree_cons_iff.mp h).2, ← List.flatMap_cons]
  | case4 c rest hother ih => rw [ih (escapeFree_cons_iff.mp h).2, List.flatMap_cons]

theorem length_decodeLossy (bytes : List UInt8) :
    (decodeLossy bytes).toList.length = (scan bytes).length := by
  rw [decodeLossy, String.toList_ofList, List.length_map]

theorem decodeLossy_flatMap (cs : List Char) : decodeLossy (cs.flatMap encodeChar) = String.ofList cs := by
  rw [decodeLossy, scan_encode, List.map_map]
  congr 1
  exact List.map_id cs

/-- The bytes of a text are read back, and what follows them as before. -/
theorem decodeLossy_encode_append (s : String) (bytes : List UInt8) :
    decodeLossy (encode s ++ bytes) = s ++ decodeLossy bytes := by
  rw [encode, decodeLossy, scan_flatMap_append, List.map_append, List.map_map, String.ofList_append]
  congr 1
  exact (congrArg String.ofList (List.map_id _)).trans String.ofList_toList

/-- A text reads as itself exactly if it holds no escape. -/
theorem decodeLossy_percentDecode_eq_iff (cs : List Char) :
    decodeLossy (percentDecode cs) = String.ofList cs ↔ EscapeFree cs := by
  constructor
  · intro h
    have hlength := congrArg (fun s : String => s.toList.length) h
    simp only [length_decodeLossy, String.toList_ofList] at hlength
    exact (length_scan_percentDecode cs).2 hlength
  · intro h
    rw [percentDecode_of_escapeFree h, decodeLossy_flatMap]

end Length

end EdgeProxy.Text
