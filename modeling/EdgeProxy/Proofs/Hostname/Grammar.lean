import EdgeProxy.Proofs.Hostname.Label
import EdgeProxy.Text.Blank
/-!
Host names: labels separated by points.  A name is put together of a label, labels and a domain, so what
makes it a host name is said of each of these.  A domain is one if its last part is short enough, which its
grammar does not ask for; a slug and the slug of an API make a label if they are short enough together and
the second one does not end in a hyphen, which nothing asks for.  Lower-casing and trimming put no line break
into a text.
-/

namespace EdgeProxy

namespace Hostname

/-- A host name: labels with points between them, each of one to sixty-three lower-case letters, digits and
hyphens, with no hyphen at either end. -/
def IsHostname (s : String) : Prop := isLabels s.toList = true

instance (s : String) : Decidable (IsHostname s) :=
  inferInstanceAs (Decidable (isLabels s.toList = true))

theorem parts_cons_point (cs : List Char) : parts ('.' :: cs) = [] :: parts cs := rfl

theorem parts_cons {c : Char} (hpoint : c ≠ '.') {cs part : List Char} {more : List (List Char)}
    (h : parts cs = part :: more) : parts (c :: cs) = (c :: part) :: more := by
  have hne : (c == '.') = false := beq_false_of_ne hpoint
  simp only [parts, hne, Bool.false_eq_true, ↓reduceIte, h]

theorem parts_append_point (cs ds : List Char) : parts (cs ++ '.' :: ds) = parts cs ++ parts ds := by
  induction cs with
  | nil => rfl
  | cons c rest ih =>
      by_cases hpoint : c = '.'
      · subst hpoint
        rw [List.cons_append, parts_cons_point, parts_cons_point, ih, List.cons_append]
      · cases hparts : parts rest with
        | nil => exact absurd hparts (parts_ne_nil rest)
        | cons part more =>
            rw [hparts, List.cons_append] at ih
            rw [List.cons_append, parts_cons hpoint ih, parts_cons hpoint hparts, List.cons_append]

theorem parts_of_not_mem {cs : List Char} (h : '.' ∉ cs) : parts cs = [cs] := by
  induction cs with
  | nil => rfl
  | cons c rest ih =>
      rw [List.mem_cons, not_or] at h
      exact parts_cons (Ne.symm h.1) (ih h.2)

/-- A name below another one is a host name if both are. -/
theorem isHostname_below (s t : String) :
    IsHostname (s ++ "." ++ t) ↔ IsHostname s ∧ IsHostname t := by
  have hlist : (s ++ "." ++ t).toList = s.toList ++ '.' :: t.toList := by simp
  rw [IsHostname, IsHostname, IsHostname, hlist, isLabels, parts_append_point, List.all_append,
    Bool.and_eq_true]
  rfl

theorem isHostname_of_isLabel {s : String} (h : isLabel s.toList = true) : IsHostname s := by
  have hpoint : '.' ∉ s.toList := fun hmem => absurd (isLabelChar_of_isLabel h _ hmem) (by decide)
  rw [IsHostname, isLabels, parts_of_not_mem hpoint, List.all_cons, h]
  rfl

/-- A text without points is a host name exactly if it is a label. -/
theorem isHostname_iff_isLabel {s : String} (hpoint : '.' ∉ s.toList) :
    IsHostname s ↔ isLabel s.toList = true := by
  rw [IsHostname, isLabels, parts_of_not_mem hpoint, List.all_cons, List.all_nil, Bool.and_true]

/-- A text without a line break. -/
def Unbroken (s : String) : Prop := '\n' ∉ s.toList

instance (s : String) : Decidable (Unbroken s) := inferInstanceAs (Decidable ('\n' ∉ s.toList))

theorem Unbroken.dropLineBreak {s : String} (h : Unbroken s) :
    dropLineBreak s.toList = s.toList := by
  rw [Hostname.dropLineBreak, if_neg]
  intro hlast
  exact h (List.mem_of_getLast? (by simpa using hlast))

theorem Unbroken.isLabel {s : String} (h : Unbroken s) (hlabel : isLabelText s = true) :
    isLabel s.toList = true := by
  rwa [isLabelText, h.dropLineBreak] at hlabel

theorem Unbroken.isHostname {s : String} (h : Unbroken s) (hlabels : isLabelsText s = true) :
    IsHostname s := by
  rwa [isLabelsText, h.dropLineBreak] at hlabels

/-- The last part of a name is not too long for a label. -/
def LastPartFits (s : String) : Prop :=
  ∀ part, (parts s.toList).getLast? = some part → part.length ≤ maxLabelLength

/-- The last part of a domain is a label if it is not too long. -/
theorem isLabel_iff_of_isTopPart {cs : List Char} (h : isTopPart cs = true) :
    isLabel cs = true ↔ cs.length ≤ maxLabelLength := by
  have hchars := isLabelChar_of_isTopPart h
  simp only [isTopPart, Bool.and_eq_true, decide_eq_true_eq, List.all_eq_true] at h
  have hedge : ∀ c ∈ cs, isLabelEdge c = true := fun c hc => by simp [isLabelEdge, h.2 c hc]
  have hne : cs ≠ [] := by
    rintro rfl
    exact absurd h.1 (by decide)
  have hhead : cs.head?.any isLabelEdge = true := by
    rw [List.head?_eq_some_head hne, Option.any_some]
    exact hedge _ (List.head_mem hne)
  have hlast : cs.getLast?.any isLabelEdge = true := by
    rw [List.getLast?_eq_some_getLast hne, Option.any_some]
    exact hedge _ (List.getLast_mem hne)
  simp only [isLabel, hhead, hlast, Bool.and_true, Bool.and_eq_true, List.all_eq_true,
    decide_eq_true_eq]
  exact ⟨And.right, fun hlength => ⟨hchars, hlength⟩⟩

/-- A domain is a host name exactly if its last part is not too long. -/
theorem Unbroken.isHostname_iff {s : String} (h : Unbroken s) (hdomain : isDomainText s = true) :
    IsHostname s ↔ LastPartFits s := by
  simp only [isDomainText, h.dropLineBreak, isDomainName, Bool.and_eq_true] at hdomain
  obtain ⟨⟨-, hfront⟩, htop⟩ := hdomain
  rw [IsHostname, isLabels, LastPartFits]
  rcases List.eq_nil_or_concat (parts s.toList) with hnil | ⟨front, last, hparts⟩
  · exact absurd hnil (parts_ne_nil _)
  · rw [hparts, List.concat_eq_append] at hfront htop ⊢
    rw [List.dropLast_concat] at hfront
    rw [List.getLast?_concat, Option.any_some] at htop
    rw [List.all_append, hfront, Bool.true_and, List.all_cons, List.all_nil, Bool.and_true,
      isLabel_iff_of_isTopPart htop]
    simp

/-- A label that goes on with a hyphen and more of its characters is one exactly if it is not too long and
does not end in a hyphen. -/
theorem isLabel_append_iff {cs ds : List Char} (hcs : isLabel cs = true) (hne : ds ≠ [])
    (hds : ∀ c ∈ ds, isLabelChar c = true) :
    isLabel (cs ++ '-' :: ds) = true ↔
      cs.length + 1 + ds.length ≤ maxLabelLength ∧ ds.getLast? ≠ some '-' := by
  have hchars : (cs ++ '-' :: ds).all isLabelChar = true := by
    rw [List.all_append, List.all_cons, Bool.and_eq_true, Bool.and_eq_true, List.all_eq_true,
      List.all_eq_true]
    exact ⟨isLabelChar_of_isLabel hcs, by decide, hds⟩
  have hhead : (cs ++ '-' :: ds).head?.any isLabelEdge = true := by
    simp only [isLabel, Bool.and_eq_true] at hcs
    cases cs with
    | nil => cases hcs.1.1.2
    | cons c rest => exact hcs.1.1.2
  have hlast : (cs ++ '-' :: ds).getLast? = some (ds.getLast hne) := by
    rw [List.getLast?_append, List.getLast?_cons, List.getLast?_eq_some_getLast hne]
    rfl
  have hchar := hds _ (List.getLast_mem hne)
  have hedge : isLabelEdge (ds.getLast hne) = true ↔ ds.getLast hne ≠ '-' := by
    constructor
    · intro h heq
      rw [heq] at h
      revert h
      decide
    · intro hother
      simpa [isLabelChar, hother] using hchar
  have hlength : (cs ++ '-' :: ds).length = cs.length + 1 + ds.length := by
    rw [List.length_append, List.length_cons]
    omega
  rw [isLabel, hchars, hhead, hlast, Option.any_some, List.getLast?_eq_some_getLast hne, hlength]
  simp only [Bool.true_and, Bool.and_eq_true, decide_eq_true_eq, hedge, ne_eq, Option.some.injEq]
  exact And.comm

end Hostname

namespace Text

/-- No run of the table leads to a line break. -/
theorem offset_ne_lineBreak {run : CaseRun} (h : run ∈ caseRuns) {n : Nat} {d : Int}
    (hoffset : run.offset? n = some d) : 10 < (n : Int) + d := by
  have hruns : ∀ run ∈ caseRuns, 10 < (run.first : Int) + run.offset := by
    decide +kernel
  have hrun := hruns run h
  simp only [CaseRun.offset?, Option.ite_none_right_eq_some, Bool.and_eq_true, decide_eq_true_eq]
    at hoffset
  obtain ⟨⟨⟨hfirst, -⟩, -⟩, hd⟩ := hoffset
  cases hd
  omega

theorem eq_ten_of_ofNat {n : Nat} (h : Char.ofNat n = '\n') : n = 10 := by
  have hcode : (Char.ofNat n).toNat = 10 := congrArg Char.toNat h
  rw [Char.ofNat] at hcode
  by_cases hvalid : n.isValidChar
  · rwa [dif_pos hvalid] at hcode
  · rw [dif_neg hvalid] at hcode
    exact absurd hcode (by decide)

theorem eq_lineBreak_of_lowerChar {c : Char} (h : lowerChar c = '\n') : c = '\n' := by
  simp only [lowerChar] at h
  split at h
  · split at h
    next hcapital =>
      have hrange : 0x41 ≤ c.toNat ∧ c.toNat ≤ 0x5A := by simpa using hcapital
      have hten := eq_ten_of_ofNat h
      omega
    · exact h
  · split at h
    next d hfound =>
      obtain ⟨run, hrun, hoffset⟩ := List.exists_of_findSome?_eq_some hfound
      have hpast := offset_ne_lineBreak hrun hoffset
      have hten := eq_ten_of_ofNat h
      omega
    · exact h

theorem lineBreak_mem_of_lowerFrom {cs : List Char} {inWord : Bool}
    (h : '\n' ∈ lowerFrom inWord cs) : '\n' ∈ cs := by
  induction cs generalizing inWord with
  | nil => exact h
  | cons c rest ih =>
      rw [lowerFrom, List.mem_append] at h
      rcases h with hhere | hrest
      · split at hhere
        · exfalso
          revert hhere
          split <;> decide
        · split at hhere
          · exact absurd hhere (by decide)
          · rw [eq_lineBreak_of_lowerChar (List.mem_singleton.mp hhere).symm]
            exact List.mem_cons_self
      · exact List.mem_cons_of_mem _ (ih hrest)

/-- Lower-casing puts no line break into a text. -/
theorem unbroken_lower {s : String} (h : Hostname.Unbroken s) : Hostname.Unbroken (lower s) := by
  intro hmem
  rw [lower, String.toList_ofList] at hmem
  exact h (lineBreak_mem_of_lowerFrom hmem)

/-- Trimming puts no line break into a text. -/
theorem unbroken_trim {s : String} (h : Hostname.Unbroken s) : Hostname.Unbroken (trim s) := by
  intro hmem
  rw [trim, String.toList_ofList, trimWith, List.mem_reverse] at hmem
  have hback := List.mem_reverse.mp ((List.dropWhile_sublist _).subset hmem)
  exact h ((List.dropWhile_sublist _).subset hback)

end Text

end EdgeProxy
