import EdgeProxy.Proofs.Hostname.Grammar
/-!
The grammar of names in productions: labels, labels with points between them, and domains.  The functions that
recognize names by their parts accept exactly what the productions make, and one line break after it.
-/

namespace EdgeProxy.Hostname

namespace Grammar

/-- One to sixty-three lower-case letters, digits and hyphens, with no hyphen at either end. -/
structure Label (cs : List Char) : Prop where
  nonempty : 1 ≤ cs.length
  bounded : cs.length ≤ 63
  chars : ∀ c ∈ cs, 'a' ≤ c ∧ c ≤ 'z' ∨ '0' ≤ c ∧ c ≤ '9' ∨ c = '-'
  first : cs.head? ≠ some '-'
  last : cs.getLast? ≠ some '-'

/-- Two or more lower-case letters. -/
structure TopPart (cs : List Char) : Prop where
  several : 2 ≤ cs.length
  letters : ∀ c ∈ cs, 'a' ≤ c ∧ c ≤ 'z'

/-- One or more labels, with a point between two of them. -/
inductive Labels : List Char → Prop where
  | one {cs : List Char} (h : Label cs) : Labels cs
  | more {cs ds : List Char} (h : Label cs) (hrest : Labels ds) : Labels (cs ++ '.' :: ds)

/-- One or more labels with a point after each, and a last part. -/
inductive Domain : List Char → Prop where
  | last {cs ds : List Char} (h : Label cs) (htop : TopPart ds) : Domain (cs ++ '.' :: ds)
  | more {cs ds : List Char} (h : Label cs) (hrest : Domain ds) : Domain (cs ++ '.' :: ds)

end Grammar

open Grammar

theorem isLetter_iff {c : Char} : isLetter c = true ↔ 'a' ≤ c ∧ c ≤ 'z' := by
  simp [isLetter]

theorem isLabelChar_iff {c : Char} :
    isLabelChar c = true ↔ 'a' ≤ c ∧ c ≤ 'z' ∨ '0' ≤ c ∧ c ≤ '9' ∨ c = '-' := by
  simp only [isLabelChar, isLabelEdge, Bool.or_eq_true, isLetter_iff, beq_iff_eq, or_assoc,
    Char.isDigit, Bool.and_eq_true, decide_eq_true_eq]
  rfl

/-- The characters that a label may begin or end with are its other characters but the hyphen. -/
theorem isLabelEdge_iff {c : Char} (h : isLabelChar c = true) : isLabelEdge c = true ↔ c ≠ '-' := by
  constructor
  · rintro hedge rfl
    revert hedge
    decide
  · intro hother
    simpa [isLabelChar, hother] using h

theorem isLabel_iff {cs : List Char} : isLabel cs = true ↔ Label cs := by
  simp only [isLabel, Bool.and_eq_true, List.all_eq_true, decide_eq_true_eq]
  cases hhead : cs.head? with
  | none =>
      obtain rfl := List.head?_eq_none_iff.mp hhead
      exact iff_of_false (by simp) fun h => absurd h.nonempty (by decide)
  | some c =>
      have hne : cs ≠ [] := fun hnil => by simp [hnil] at hhead
      have hmem : c ∈ cs := List.mem_of_head? hhead
      have hlast := List.getLast?_eq_some_getLast hne
      have hmemLast := List.getLast_mem hne
      rw [hlast, Option.any_some, Option.any_some]
      constructor
      · rintro ⟨⟨⟨hchars, hfirst⟩, hend⟩, hlength⟩
        refine ⟨List.length_pos_iff.mpr hne, hlength, fun d hd => isLabelChar_iff.mp (hchars d hd),
          ?_, ?_⟩
        · rw [hhead]
          exact fun heq => (isLabelEdge_iff (hchars c hmem)).mp hfirst (Option.some.inj heq)
        · rw [hlast]
          exact fun heq => (isLabelEdge_iff (hchars _ hmemLast)).mp hend (Option.some.inj heq)
      · intro h
        have hchars : ∀ d ∈ cs, isLabelChar d = true := fun d hd => isLabelChar_iff.mpr (h.chars d hd)
        refine ⟨⟨⟨hchars, ?_⟩, ?_⟩, h.bounded⟩
        · exact (isLabelEdge_iff (hchars c hmem)).mpr fun heq => h.first (by rw [hhead, heq])
        · exact (isLabelEdge_iff (hchars _ hmemLast)).mpr fun heq => h.last (by rw [hlast, heq])

theorem isTopPart_iff {cs : List Char} : isTopPart cs = true ↔ TopPart cs := by
  simp only [isTopPart, Bool.and_eq_true, List.all_eq_true, decide_eq_true_eq, isLetter_iff]
  exact ⟨fun h => ⟨h.1, h.2⟩, fun h => ⟨h.several, h.letters⟩⟩

theorem Grammar.Label.point_not_mem {cs : List Char} (h : Label cs) : '.' ∉ cs := by
  intro hmem
  have hchar := isLabelChar_iff.mpr (h.chars _ hmem)
  revert hchar
  decide

theorem Grammar.TopPart.point_not_mem {cs : List Char} (h : TopPart cs) : '.' ∉ cs := by
  intro hmem
  have hletter := isLetter_iff.mpr (h.letters _ hmem)
  revert hletter
  decide

/-- A text has no points, or it begins with a part that a point ends. -/
theorem induction_on_points {motive : List Char → Prop} (single : ∀ cs, '.' ∉ cs → motive cs)
    (below : ∀ cs ds, '.' ∉ cs → motive ds → motive (cs ++ '.' :: ds)) (cs : List Char) : motive cs := by
  by_cases hpoint : '.' ∈ cs
  · obtain ⟨front, rest, hcs, hfront⟩ := List.eq_append_cons_of_mem hpoint
    have hshorter : rest.length < cs.length := by
      rw [hcs, List.length_append, List.length_cons]
      omega
    exact hcs ▸ below front rest hfront (induction_on_points single below rest)
  · exact single cs hpoint
termination_by cs.length

theorem parts_below {cs : List Char} (h : '.' ∉ cs) (ds : List Char) :
    parts (cs ++ '.' :: ds) = cs :: parts ds := by
  rw [parts_append_point, parts_of_not_mem h, List.singleton_append]

theorem isLabels_iff {cs : List Char} : isLabels cs = true ↔ Labels cs := by
  constructor
  · intro h
    induction cs using induction_on_points with
    | single cs hpoint =>
        rw [isLabels, parts_of_not_mem hpoint, List.all_cons, Bool.and_eq_true] at h
        exact .one (isLabel_iff.mp h.1)
    | below cs ds hpoint ih =>
        rw [isLabels, parts_below hpoint, List.all_cons, Bool.and_eq_true] at h
        exact .more (isLabel_iff.mp h.1) (ih h.2)
  · intro h
    induction h with
    | one h => rw [isLabels, parts_of_not_mem h.point_not_mem, List.all_cons, isLabel_iff.mpr h]; rfl
    | more h _ ih => rwa [isLabels, parts_below h.point_not_mem, List.all_cons, isLabel_iff.mpr h]

/-- A domain is a label above a last part or above a domain. -/
theorem isDomainName_below {cs : List Char} (h : '.' ∉ cs) (ds : List Char) :
    isDomainName (cs ++ '.' :: ds) = true ↔
      isLabel cs = true ∧ ('.' ∉ ds ∧ isTopPart ds = true ∨ isDomainName ds = true) := by
  by_cases hpoint : '.' ∈ ds
  · obtain ⟨front, rest, rfl, hfront⟩ := List.eq_append_cons_of_mem hpoint
    obtain ⟨part, more, hparts⟩ := List.exists_cons_of_ne_nil (parts_ne_nil rest)
    simp [isDomainName, parts_below h, parts_below hfront, hparts, and_assoc]
  · simp [isDomainName, parts_below h, parts_of_not_mem hpoint, hpoint]

theorem isDomainName_iff {cs : List Char} : isDomainName cs = true ↔ Domain cs := by
  constructor
  · intro h
    induction cs using induction_on_points with
    | single cs hpoint => simp [isDomainName, parts_of_not_mem hpoint] at h
    | below cs ds hpoint ih =>
        obtain ⟨hlabel, ⟨-, htop⟩ | hrest⟩ := (isDomainName_below hpoint ds).mp h
        · exact .last (isLabel_iff.mp hlabel) (isTopPart_iff.mp htop)
        · exact .more (isLabel_iff.mp hlabel) (ih hrest)
  · intro h
    induction h with
    | last h htop =>
        exact (isDomainName_below h.point_not_mem _).mpr
          ⟨isLabel_iff.mpr h, .inl ⟨htop.point_not_mem, isTopPart_iff.mpr htop⟩⟩
    | more h _ ih =>
        exact (isDomainName_below h.point_not_mem _).mpr ⟨isLabel_iff.mpr h, .inr ih⟩

end EdgeProxy.Hostname
