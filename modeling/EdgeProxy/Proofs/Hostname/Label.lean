import EdgeProxy.Hostname.Label
import EdgeProxy.Text.LowerCase
/-!
The characters of names.  A text that follows the grammar of a label, of labels or of a domain has
lower-case letters, digits, hyphens and points, but for a line break at its end; such a text is its own
lower-case form.
-/

namespace EdgeProxy.Hostname

/-- A character that a name may hold. -/
def isNameChar (c : Char) : Bool := isLabelChar c || c == '.' || c == '\n'

/-- A text of characters that a name may hold. -/
def IsName (s : String) : Prop := ∀ c ∈ s.toList, isNameChar c = true

theorem mem_dropLineBreak {cs : List Char} {c : Char} (h : c ∈ cs) :
    c ∈ dropLineBreak cs ∨ c = '\n' := by
  rw [dropLineBreak]
  split
  next hlast =>
    obtain ⟨front, rfl⟩ := List.getLast?_eq_some_iff.mp (by simpa using hlast)
    simpa using h
  · exact .inl h

/-- Every character but the points is in one of the parts. -/
theorem mem_parts {cs : List Char} {c : Char} (h : c ∈ cs) :
    c = '.' ∨ ∃ part ∈ parts cs, c ∈ part := by
  induction cs with
  | nil => cases h
  | cons d rest ih =>
      rw [parts]
      split
      next hpoint =>
        rcases List.mem_cons.mp h with rfl | h
        · exact .inl (by simpa using hpoint)
        · refine (ih h).imp_right ?_
          rintro ⟨part, hpart, hmem⟩
          exact ⟨part, List.mem_cons_of_mem _ hpart, hmem⟩
      next hpoint =>
        cases hparts : parts rest with
        | nil => exact absurd hparts (parts_ne_nil rest)
        | cons part more =>
            rw [hparts] at ih
            rcases List.mem_cons.mp h with rfl | h
            · exact .inr ⟨_, List.mem_cons_self, List.mem_cons_self⟩
            · refine (ih h).imp_right ?_
              rintro ⟨part', hpart, hmem⟩
              rcases List.mem_cons.mp hpart with rfl | hpart
              · exact ⟨_, List.mem_cons_self, List.mem_cons_of_mem _ hmem⟩
              · exact ⟨part', List.mem_cons_of_mem _ hpart, hmem⟩

theorem isLabelChar_of_isLabel {cs : List Char} (h : isLabel cs = true) :
    ∀ c ∈ cs, isLabelChar c = true := by
  simp only [isLabel, Bool.and_eq_true, List.all_eq_true] at h
  exact h.1.1.1

theorem isLabelChar_of_isTopPart {cs : List Char} (h : isTopPart cs = true) :
    ∀ c ∈ cs, isLabelChar c = true := by
  simp only [isTopPart, Bool.and_eq_true, List.all_eq_true] at h
  intro c hc
  simp [isLabelChar, isLabelEdge, h.2 c hc]

/-- A text is a name if its parts are made of the characters of labels. -/
theorem isName_of_parts {s : String}
    (h : ∀ part ∈ parts (dropLineBreak s.toList), ∀ c ∈ part, isLabelChar c = true) :
    IsName s := by
  intro c hc
  rw [isNameChar]
  rcases mem_dropLineBreak hc with hc | rfl
  · rcases mem_parts hc with rfl | ⟨part, hpart, hc⟩
    · simp
    · simp [h part hpart c hc]
  · simp

theorem isName_of_isLabelsText {s : String} (h : isLabelsText s = true) : IsName s := by
  rw [isLabelsText, isLabels, List.all_eq_true] at h
  exact isName_of_parts fun part hpart => isLabelChar_of_isLabel (h part hpart)

theorem isName_of_isDomainText {s : String} (h : isDomainText s = true) : IsName s := by
  simp only [isDomainText, isDomainName, Bool.and_eq_true, List.all_eq_true] at h
  obtain ⟨⟨-, hlabels⟩, htop⟩ := h
  cases hlast : (parts (dropLineBreak s.toList)).getLast? with
  | none => simp [hlast] at htop
  | some last =>
      obtain ⟨front, hparts⟩ := List.getLast?_eq_some_iff.mp hlast
      apply isName_of_parts
      intro part hpart
      rw [hlast, Option.any_some] at htop
      rw [hparts, List.dropLast_concat] at hlabels
      rw [hparts, List.mem_append, List.mem_singleton] at hpart
      rcases hpart with hpart | rfl
      · exact isLabelChar_of_isLabel (hlabels part hpart)
      · exact isLabelChar_of_isTopPart htop

/-- The characters of a label, but for a line break at its end. -/
theorem isLabelChar_of_isLabelText {s : String} (h : isLabelText s = true) {c : Char}
    (hc : c ∈ s.toList) : isLabelChar c = true ∨ c = '\n' :=
  (mem_dropLineBreak hc).imp_left (isLabelChar_of_isLabel h c)

theorem isName_of_isLabelText {s : String} (h : isLabelText s = true) : IsName s := by
  intro c hc
  rcases isLabelChar_of_isLabelText h hc with hc | rfl
  · simp [isNameChar, hc]
  · simp [isNameChar]

theorem point_not_mem_of_isLabelText {s : String} (h : isLabelText s = true) : '.' ∉ s.toList := by
  intro hmem
  rcases isLabelChar_of_isLabelText h hmem with hc | hc
  · revert hc
    decide
  · revert hc
    decide

theorem ne_empty_of_isLabelText {s : String} (h : isLabelText s = true) : s ≠ "" := by
  rintro rfl
  revert h
  decide

theorem ne_empty_of_isLabelsText {s : String} (h : isLabelsText s = true) : s ≠ "" := by
  rintro rfl
  revert h
  decide

theorem ne_empty_of_isDomainText {s : String} (h : isDomainText s = true) : s ≠ "" := by
  rintro rfl
  revert h
  decide

theorem isName_append {s t : String} (hs : IsName s) (ht : IsName t) : IsName (s ++ t) := by
  intro c hc
  rw [String.toList_append, List.mem_append] at hc
  exact hc.elim (hs c) (ht c)

/-- A name below a name is a name. -/
theorem isName_below {s t : String} (hs : IsName s) (ht : IsName t) : IsName (s ++ "." ++ t) := by
  have hpoint : IsName "." := by simp [IsName, isNameChar]
  exact isName_append (isName_append hs hpoint) ht

/-- Neither a capital letter nor a character that is not ASCII is in a name. -/
theorem toNat_of_isNameChar {c : Char} (h : isNameChar c = true) :
    c.toNat < 0x41 ∨ 0x5A < c.toNat ∧ c.toNat < 0x80 := by
  simp only [isNameChar, isLabelChar, isLabelEdge, isLetter, Char.isDigit, Bool.or_eq_true,
    Bool.and_eq_true, decide_eq_true_eq, beq_iff_eq, Char.le_def, UInt32.le_iff_toNat_le,
    ge_iff_le] at h
  have hval : c.toNat = c.val.toNat := rfl
  rcases h with (((⟨hlow, hhigh⟩ | ⟨hlow, hhigh⟩) | rfl) | rfl) | rfl
  · have ha : 'a'.val.toNat = 97 := rfl
    have hz : 'z'.val.toNat = 122 := rfl
    omega
  · have hzero : '0'.val.toNat = 48 := rfl
    have hnine : '9'.val.toNat = 57 := rfl
    omega
  · decide
  · decide
  · decide

theorem lowerChar_of_isNameChar {c : Char} (h : isNameChar c = true) : Text.lowerChar c = c := by
  have hrange := toNat_of_isNameChar h
  have hascii : c.toNat < 0x80 := by omega
  have hcapital : ¬ (0x41 ≤ c.toNat ∧ c.toNat ≤ 0x5A) := by omega
  simp only [Text.lowerChar, hascii, ↓reduceIte]
  rw [if_neg (by simpa using hcapital)]

theorem lowerFrom_of_isNameChar {cs : List Char} (h : ∀ c ∈ cs, isNameChar c = true)
    (inWord : Bool) : Text.lowerFrom inWord cs = cs := by
  induction cs generalizing inWord with
  | nil => rfl
  | cons c rest ih =>
      rw [List.forall_mem_cons] at h
      have hrange := toNat_of_isNameChar h.1
      have hsigma : c ≠ Text.capitalSigma := by
        rintro rfl
        revert hrange
        decide
      have hdotted : c ≠ Text.dottedCapitalI := by
        rintro rfl
        revert hrange
        decide
      simp [Text.lowerFrom, hsigma, hdotted, lowerChar_of_isNameChar h.1, ih h.2]

/-- A name is its own lower-case form. -/
theorem lower_of_isName {s : String} (h : IsName s) : Text.lower s = s := by
  rw [Text.lower, lowerFrom_of_isNameChar h, String.ofList_toList]

end EdgeProxy.Hostname
