import EdgeProxy.Proofs.Hostname.Grammar
import EdgeProxy.Text.Blank
import Mathlib.Data.List.DropRight
/-!
Trimmed texts.  A text is trimmed exactly if neither of its ends is blank.  Lower-casing brings no line break
to an end, and no other character of a name is blank; so a name that is the lower-case form of a trimmed text
is trimmed itself.
-/

namespace EdgeProxy.Text

/-- A text without blank characters at its ends. -/
def Trimmed (s : String) : Prop := trim s = s

section Ends

variable {p : Char → Bool} {cs : List Char}

theorem dropWhile_of_head (h : ∀ c ∈ cs.head?, p c = false) : cs.dropWhile p = cs := by
  cases cs with
  | nil => rfl
  | cons c rest => exact List.dropWhile_cons_of_neg (by simp [h c rfl])

theorem head_dropWhile (p : Char → Bool) (cs : List Char) :
    ∀ c ∈ (cs.dropWhile p).head?, p c = false := by
  intro c hc
  have hhead := List.head?_dropWhile_not p cs
  rw [Option.mem_def.mp hc] at hhead
  exact hhead

theorem trimWith_of_ends (hhead : ∀ c ∈ cs.head?, p c = false)
    (hlast : ∀ c ∈ cs.getLast?, p c = false) : trimWith p cs = cs := by
  rw [← List.head?_reverse] at hlast
  rw [trimWith, dropWhile_of_head hhead, dropWhile_of_head hlast, List.reverse_reverse]

/-- What is trimmed off behind is trimmed off. -/
theorem trimWith_append_of_all {c : Char} (hhead : cs.head? = some c) (hc : p c = false)
    (hlast : ∀ c ∈ cs.getLast?, p c = false) {after : List Char} (hafter : ∀ c ∈ after, p c = true) :
    trimWith p (cs ++ after) = cs := by
  have hfront : ∀ c ∈ (cs ++ after).head?, p c = false := by
    rw [List.head?_append, hhead]
    simpa using hc
  have hback : ∀ c ∈ after.reverse, p c = true := fun c hc => hafter c (List.mem_reverse.mp hc)
  rw [← List.head?_reverse] at hlast
  rw [trimWith, dropWhile_of_head hfront, List.reverse_append, List.dropWhile_append_of_pos hback,
    dropWhile_of_head hlast, List.reverse_reverse]

theorem head_trimWith (p : Char → Bool) (cs : List Char) :
    ∀ c ∈ (trimWith p cs).head?, p c = false := by
  intro c hc
  obtain ⟨rest, hrest⟩ : trimWith p cs <+: cs.dropWhile p := List.rdropWhile_prefix p _
  apply head_dropWhile p cs
  rw [← hrest, List.head?_append, Option.mem_def.mp hc]
  rfl

theorem getLast_trimWith (p : Char → Bool) (cs : List Char) :
    ∀ c ∈ (trimWith p cs).getLast?, p c = false := by
  rw [trimWith, List.getLast?_reverse]
  exact head_dropWhile p _

end Ends

theorem trimmed_of_ends {s : String} (hhead : ∀ c ∈ s.toList.head?, isBlank c = false)
    (hlast : ∀ c ∈ s.toList.getLast?, isBlank c = false) : Trimmed s := by
  rw [Trimmed, trim, trimWith_of_ends hhead hlast, String.ofList_toList]

theorem trimmed_trim (s : String) : Trimmed (trim s) := by
  apply trimmed_of_ends
  · rw [trim, String.toList_ofList]
    exact head_trimWith _ _
  · rw [trim, String.toList_ofList]
    exact getLast_trimWith _ _

/-- Nothing is left of a text exactly if all of it is blank. -/
theorem trim_eq_empty_iff {s : String} : trim s = "" ↔ ∀ c ∈ s.toList, isBlank c = true := by
  rw [← String.toList_eq_nil_iff, trim, String.toList_ofList]
  constructor
  · intro h
    by_contra hclear
    -- What is left after trimming in front begins with a character that is not blank.
    have hne : s.toList.dropWhile isBlank ≠ [] := by rwa [Ne, List.dropWhile_eq_nil_iff]
    obtain ⟨c, rest, heq⟩ := List.exists_cons_of_ne_nil hne
    have hc := head_dropWhile isBlank s.toList c (by simp [heq])
    rw [trimWith, List.reverse_eq_nil_iff, List.dropWhile_eq_nil_iff, heq] at h
    have hblank := h c (by simp)
    rw [hc] at hblank
    cases hblank
  · intro hall
    have hnil : s.toList.dropWhile isBlank = [] := List.dropWhile_eq_nil_iff.mpr hall
    rw [trimWith, hnil]
    rfl

/-- What stands for one character in the lower-case form of a text: a line break only for itself. -/
theorem lowerFrom_cons (inWord : Bool) (c : Char) (rest : List Char) :
    ∃ here inWord', lowerFrom inWord (c :: rest) = here ++ lowerFrom inWord' rest ∧ here ≠ [] ∧
      ('\n' ∈ here → c = '\n') := by
  refine ⟨_, _, by rw [lowerFrom], ?_, ?_⟩
  · split
    · simp
    · split <;> simp
  · intro hmem
    split at hmem
    · exfalso
      revert hmem
      split <;> decide
    · split at hmem
      · exact absurd hmem (by decide)
      · exact eq_lineBreak_of_lowerChar (List.mem_singleton.mp hmem).symm

theorem lowerFrom_ne_nil (inWord : Bool) {cs : List Char} (h : cs ≠ []) : lowerFrom inWord cs ≠ [] := by
  obtain ⟨c, rest, rfl⟩ := List.exists_cons_of_ne_nil h
  obtain ⟨here, inWord', heq, hne, -⟩ := lowerFrom_cons inWord c rest
  rw [heq]
  exact List.append_ne_nil_of_left_ne_nil hne _

theorem head_of_head_lowerFrom {inWord : Bool} {cs : List Char}
    (h : (lowerFrom inWord cs).head? = some '\n') : cs.head? = some '\n' := by
  cases cs with
  | nil => cases h
  | cons c rest =>
      obtain ⟨here, inWord', heq, hne, hbreak⟩ := lowerFrom_cons inWord c rest
      rw [heq, List.head?_append_of_ne_nil _ hne] at h
      rw [hbreak (List.mem_of_head? h), List.head?_cons]

theorem getLast_of_getLast_lowerFrom {inWord : Bool} {cs : List Char}
    (h : (lowerFrom inWord cs).getLast? = some '\n') : cs.getLast? = some '\n' := by
  induction cs generalizing inWord with
  | nil => cases h
  | cons c rest ih =>
      obtain ⟨here, inWord', heq, -, hbreak⟩ := lowerFrom_cons inWord c rest
      rw [heq] at h
      by_cases hrest : rest = []
      · subst hrest
        rw [lowerFrom, List.append_nil] at h
        rw [hbreak (List.mem_of_getLast? h), List.getLast?_singleton]
      · rw [List.getLast?_append_of_ne_nil _ (lowerFrom_ne_nil inWord' hrest)] at h
        rw [List.getLast?_cons_of_ne_nil hrest]
        exact ih h

/-- Of the characters of names, only the line break is blank. -/
theorem eq_lineBreak_of_isBlank {c : Char} (hname : Hostname.isNameChar c = true)
    (hblank : isBlank c = true) : c = '\n' := by
  have hrange := Hostname.toNat_of_isNameChar hname
  have hlow : c.toNat < 0x21 := by
    simp only [isBlank, isSpace, Bool.or_eq_true, Bool.and_eq_true, decide_eq_true_eq, beq_iff_eq]
      at hblank
    omega
  have hall : ∀ n < 0x21, Hostname.isNameChar (Char.ofNat n) = true → n = 10 := by decide
  have hten := hall c.toNat hlow (by rwa [Char.ofNat_toNat])
  rw [← Char.ofNat_toNat c, hten]

/-- A name that is the lower-case form of a trimmed text is trimmed. -/
theorem trimmed_lower {s : String} (h : Trimmed s) (hname : Hostname.IsName (lower s)) :
    Trimmed (lower s) := by
  have hclear : ∀ c ∈ (lower s).toList, c ≠ '\n' → isBlank c = false := by
    intro c hc hne
    rw [← Bool.not_eq_true]
    exact fun hblank => hne (eq_lineBreak_of_isBlank (hname c hc) hblank)
  have htrim : trimWith isBlank s.toList = s.toList := by
    have hlists := congrArg String.toList h
    rwa [trim, String.toList_ofList] at hlists
  have hhead := head_trimWith isBlank s.toList '\n'
  have hlast := getLast_trimWith isBlank s.toList '\n'
  rw [htrim] at hhead hlast
  apply trimmed_of_ends
  · intro c hc
    apply hclear c (List.mem_of_head? hc)
    rintro rfl
    rw [lower, String.toList_ofList] at hc
    exact absurd (hhead (head_of_head_lowerFrom hc)) (by decide)
  · intro c hc
    apply hclear c (List.mem_of_getLast? hc)
    rintro rfl
    rw [lower, String.toList_ofList] at hc
    exact absurd (hlast (getLast_of_getLast_lowerFrom hc)) (by decide)

end EdgeProxy.Text
