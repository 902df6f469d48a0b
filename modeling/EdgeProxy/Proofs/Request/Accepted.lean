import EdgeProxy.Proofs.Hostname.Productions
import EdgeProxy.Proofs.Request.Reread
/-!
The names that requests accept are those of the grammar, in lower case, and a base domain and the labels of an
environment in trimmed form.  A subdomain, a slug and a domain of a host's own may have one line break at their
end besides, and a label with a line break after it is not told to be reserved.
-/

namespace EdgeProxy

namespace Hostname

open Grammar

/-- What stands before a line break at the end of a text has a property. -/
def BeforeLineBreak (P : List Char → Prop) (s : String) : Prop := ∃ cs, P cs ∧ s.toList = cs ++ ['\n']

/-- A label that no route of the system has. -/
structure FreeLabel (s : String) : Prop where
  label : Label s.toList
  notDashboard : s ≠ "proxy"
  notPortal : s ≠ "auth"

theorem Grammar.Label.unbroken {cs : List Char} (h : Label cs) : '\n' ∉ cs := by
  intro hmem
  have hchar := isLabelChar_iff.mpr (h.chars _ hmem)
  revert hchar
  decide

theorem Grammar.TopPart.unbroken {cs : List Char} (h : TopPart cs) : '\n' ∉ cs := by
  intro hmem
  have hletter := isLetter_iff.mpr (h.letters _ hmem)
  revert hletter
  decide

theorem Grammar.Labels.unbroken {cs : List Char} (h : Labels cs) : '\n' ∉ cs := by
  induction h with
  | one h => exact h.unbroken
  | more h _ ih => simp [h.unbroken, ih]

theorem Grammar.Domain.unbroken {cs : List Char} (h : Domain cs) : '\n' ∉ cs := by
  induction h with
  | last h htop => simp [h.unbroken, htop.unbroken]
  | more h _ ih => simp [h.unbroken, ih]

/-- A name is recognized, and so is one with a line break after it. -/
theorem recognized_iff {p : List Char → Bool} {P : List Char → Prop} (hp : ∀ cs, p cs = true ↔ P cs)
    (hunbroken : ∀ cs, P cs → '\n' ∉ cs) (s : String) :
    p (dropLineBreak s.toList) = true ↔ P s.toList ∨ BeforeLineBreak P s := by
  rw [hp, dropLineBreak]
  split
  next hlast =>
    obtain ⟨front, hfront⟩ := List.getLast?_eq_some_iff.mp (by simpa using hlast)
    have hnot : ¬ P s.toList := fun h => hunbroken _ h (by simp [hfront])
    rw [or_iff_right hnot, BeforeLineBreak, hfront, List.dropLast_concat]
    refine ⟨fun h => ⟨front, h, rfl⟩, ?_⟩
    rintro ⟨cs, hcs, heq⟩
    exact List.append_cancel_right heq ▸ hcs
  next hlast =>
    have hnot : ¬ BeforeLineBreak P s := by
      rintro ⟨cs, -, hcs⟩
      exact hlast (by simp [hcs])
    rw [or_iff_left hnot]

theorem isLabelText_iff (s : String) :
    isLabelText s = true ↔ Label s.toList ∨ BeforeLineBreak Label s :=
  recognized_iff (fun _ => isLabel_iff) (fun _ h => h.unbroken) s

theorem isLabelsText_iff (s : String) :
    isLabelsText s = true ↔ Labels s.toList ∨ BeforeLineBreak Labels s :=
  recognized_iff (fun _ => isLabels_iff) (fun _ h => h.unbroken) s

theorem isDomainText_iff (s : String) :
    isDomainText s = true ↔ Domain s.toList ∨ BeforeLineBreak Domain s :=
  recognized_iff (fun _ => isDomainName_iff) (fun _ h => h.unbroken) s

/-- A label with a line break after it is none of the reserved ones. -/
theorem isFreeLabel_iff (s : String) :
    IsFreeLabel s ↔ FreeLabel s ∨ BeforeLineBreak Label s := by
  have hreserved : s ∉ reservedLabels ↔ s ≠ "proxy" ∧ s ≠ "auth" := by simp [reservedLabels]
  constructor
  · rintro ⟨hlabel, hfree⟩
    obtain ⟨hdashboard, hportal⟩ := hreserved.mp hfree
    exact ((isLabelText_iff s).mp hlabel).imp_left fun h => ⟨h, hdashboard, hportal⟩
  · rintro (h | h)
    · exact ⟨(isLabelText_iff s).mpr (.inl h.label), hreserved.mpr ⟨h.notDashboard, h.notPortal⟩⟩
    · refine ⟨(isLabelText_iff s).mpr (.inr h), hreserved.mpr ?_⟩
      obtain ⟨cs, -, hcs⟩ := h
      have hbreak : '\n' ∈ s.toList := by simp [hcs]
      constructor
      · rintro rfl
        exact absurd hbreak (by decide)
      · rintro rfl
        exact absurd hbreak (by decide)

end Hostname

namespace Text

open Hostname

/-- What is trimmed does not end in a line break. -/
theorem Trimmed.not_beforeLineBreak {s : String} (h : Trimmed s) (P : List Char → Prop) :
    ¬ BeforeLineBreak P s := by
  rintro ⟨cs, -, hcs⟩
  have hlists := congrArg String.toList h
  rw [trim, String.toList_ofList] at hlists
  have hlast := getLast_trimWith isBlank s.toList '\n' (by rw [hlists, hcs]; simp)
  exact absurd hlast (by decide)

/-- A name without line breaks is trimmed. -/
theorem trimmed_of_unbroken {s : String} (hname : IsName s) (h : Unbroken s) : Trimmed s := by
  have hclear : ∀ c ∈ s.toList, isBlank c = false := by
    intro c hc
    rw [← Bool.not_eq_true]
    intro hblank
    exact h (eq_lineBreak_of_isBlank (hname c hc) hblank ▸ hc)
  exact trimmed_of_ends (fun c hc => hclear c (List.mem_of_head? hc))
    fun c hc => hclear c (List.mem_of_getLast? hc)

end Text

namespace Request

open Hostname Hostname.Grammar

/-- A reader accepts the texts whose form has a property, and no others.  What it returns is that form, and is
read as itself. -/
structure Accepts (read : Json → Requested String) (form : String → String) (P : String → Prop) :
    Prop where
  ok_iff : ∀ s t, read (.str s) = .ok t ↔ t = form s ∧ P t
  rejected : ∀ s, ¬ P (form s) → ∃ why, read (.str s) = reject why
  again : ∀ s t, read (.str s) = .ok t → read (.str t) = .ok t

/-- A reader decides by the form of a text, and what has the property is its own form. -/
theorem Accepts.of_form {read : Json → Requested String} {form : String → String} {P : String → Prop}
    (haccept : ∀ s, P (form s) → read (.str s) = .ok (form s))
    (hreject : ∀ s, ¬ P (form s) → ∃ why, read (.str s) = reject why) (hform : ∀ t, P t → form t = t) :
    Accepts read form P := by
  have hok : ∀ s t, read (.str s) = .ok t ↔ t = form s ∧ P t := by
    intro s t
    constructor
    · intro hread
      by_cases hs : P (form s)
      · obtain rfl := Except.ok.inj (hread.symm.trans (haccept s hs))
        exact ⟨rfl, hs⟩
      · obtain ⟨why, hwhy⟩ := hreject s hs
        exact absurd (hwhy.symm.trans hread) not_reject
    · rintro ⟨rfl, ht⟩
      exact haccept s ht
  refine ⟨hok, hreject, fun s t hread => ?_⟩
  obtain ⟨-, ht⟩ := (hok s t).mp hread
  exact (hok t t).mpr ⟨(hform t ht).symm, ht⟩

theorem accepts_freeLabel (format : Rejection) (reserved : String → Rejection) :
    Accepts (freeLabel format reserved) Text.lower fun t => FreeLabel t ∨ BeforeLineBreak Label t := by
  refine .of_form (fun s hs => ?_) (fun s hs => ?_) fun t ht => ?_
  · have hfree := (isFreeLabel_iff _).mpr hs
    rw [freeLabel, if_neg (by simp [hfree.label]), if_neg (by simpa using hfree.free)]
  · rw [freeLabel]
    split
    · exact ⟨_, rfl⟩
    next hlabel =>
      split
      · exact ⟨_, rfl⟩
      next hfree =>
        exact absurd ((isFreeLabel_iff _).mp ⟨by simpa using hlabel, by simpa using hfree⟩) hs
  · exact lower_of_isName (isName_of_isLabelText ((isFreeLabel_iff t).mpr ht).label)

theorem accepts_customDomain :
    Accepts customDomain Text.lower fun t => Domain t.toList ∨ BeforeLineBreak Domain t := by
  refine .of_form (fun s hs => ?_) (fun s hs => ?_) fun t ht => ?_
  · exact if_pos ((isDomainText_iff _).mpr hs)
  · exact ⟨_, if_neg fun hdomain => hs ((isDomainText_iff _).mp hdomain)⟩
  · exact lower_of_isName (isName_of_isDomainText ((isDomainText_iff t).mpr ht))

/-- A form that is trimmed before it is lower-cased has no line break after a name. -/
theorem or_beforeLineBreak_iff {P : List Char → Prop} {recognized : String → Bool}
    (hrecognized : ∀ t, recognized t = true ↔ P t.toList ∨ BeforeLineBreak P t)
    (hname : ∀ {t}, recognized t = true → IsName t) (s : String) :
    recognized (Text.lower (Text.trim s)) = true ↔ P (Text.lower (Text.trim s)).toList := by
  constructor
  · intro h
    have htrimmed := Text.trimmed_lower (Text.trimmed_trim s) (hname h)
    exact ((hrecognized _).mp h).resolve_right (htrimmed.not_beforeLineBreak P)
  · exact fun h => (hrecognized _).mpr (.inl h)

/-- A name without line breaks is its own trimmed and lower-case form. -/
theorem lower_trim_of_isName {t : String} (hname : IsName t) (h : '\n' ∉ t.toList) :
    Text.lower (Text.trim t) = t := by
  have htrimmed : Text.trim t = t := Text.trimmed_of_unbroken hname h
  rw [htrimmed, lower_of_isName hname]

theorem accepts_baseDomain :
    Accepts baseDomain (fun s => Text.lower (Text.trim s)) fun t => Domain t.toList := by
  have hdomain := or_beforeLineBreak_iff isDomainText_iff isName_of_isDomainText
  refine .of_form (fun s hs => ?_) (fun s hs => ?_) fun t ht => ?_
  · have hne : ¬ s.isEmpty = true := by
      intro hempty
      obtain rfl : s = "" := by simpa using hempty
      exact absurd (isDomainName_iff.mpr hs) (by decide)
    rw [baseDomain, if_neg hne]
    exact if_pos ((hdomain s).mpr hs)
  · rw [baseDomain]
    split
    · exact ⟨_, rfl⟩
    · exact ⟨_, if_neg fun h => hs ((hdomain s).mp h)⟩
  · exact lower_trim_of_isName (isName_of_isDomainText ((isDomainText_iff t).mpr (.inl ht))) ht.unbroken

theorem accepts_labels (field : String) (allowEmpty : Bool) :
    Accepts (fun v => labels v field allowEmpty) (fun s => Text.lower (Text.trim s))
      fun t => Labels t.toList ∨ allowEmpty = true ∧ t = "" := by
  have hlabels := or_beforeLineBreak_iff isLabelsText_iff isName_of_isLabelsText
  have hempty : ∀ t : String, Labels t.toList → ¬ t.isEmpty = true := by
    intro t ht hempty
    obtain rfl : t = "" := by simpa using hempty
    exact absurd (isLabels_iff.mpr ht) (by decide)
  refine .of_form (fun s hs => ?_) (fun s hs => ?_) fun t ht => ?_
  · rcases hs with hs | ⟨rfl, hs⟩
    · rw [labels, if_neg (hempty _ hs), if_pos ((hlabels s).mpr hs)]
    · rw [labels, hs]
      rfl
  · rw [not_or, not_and] at hs
    rw [labels]
    split
    next hnone =>
      have hforbidden : ¬ allowEmpty = true := fun hallow => hs.2 hallow (by simpa using hnone)
      exact ⟨_, if_neg hforbidden⟩
    · exact ⟨_, if_neg fun h => hs.1 ((hlabels s).mp h)⟩
  · rcases ht with ht | ⟨-, rfl⟩
    · exact lower_trim_of_isName (isName_of_isLabelsText ((isLabelsText_iff t).mpr (.inl ht)))
        ht.unbroken
    · rfl

/-- Every reader of names accepts exactly what the grammar makes, in the form that it brings texts to.  Those
that do not trim accept a line break at the end besides, also after a reserved label. -/
theorem names_are_accepted_iff_in_grammar (field : String) (allowEmpty : Bool) :
    (Accepts subdomain Text.lower fun t => FreeLabel t ∨ BeforeLineBreak Label t) ∧
      (Accepts slug Text.lower fun t => FreeLabel t ∨ BeforeLineBreak Label t) ∧
      (Accepts customDomain Text.lower fun t => Domain t.toList ∨ BeforeLineBreak Domain t) ∧
      (Accepts baseDomain (fun s => Text.lower (Text.trim s)) fun t => Domain t.toList) ∧
      Accepts (fun v => labels v field allowEmpty) (fun s => Text.lower (Text.trim s)) fun t =>
        Labels t.toList ∨ allowEmpty = true ∧ t = "" :=
  ⟨accepts_freeLabel _ _, accepts_freeLabel _ _, accepts_customDomain, accepts_baseDomain,
    accepts_labels field allowEmpty⟩

/-- A line break after a name is accepted, and with it a label that is reserved. -/
theorem name_is_accepted_with_line_break :
    subdomain (.str "nas\n") = .ok "nas\n" ∧ ¬ Label "nas\n".toList ∧
      slug (.str "proxy\n") = .ok "proxy\n" ∧ ¬ Label "proxy\n".toList ∧
      customDomain (.str "nas.example.org\n") = .ok "nas.example.org\n" ∧
      ¬ Domain "nas.example.org\n".toList := by
  refine ⟨by decide, ?_, by decide, ?_, by decide, ?_⟩
  · exact fun h => absurd h.unbroken (by decide)
  · exact fun h => absurd h.unbroken (by decide)
  · exact fun h => absurd h.unbroken (by decide)

end Request

end EdgeProxy
