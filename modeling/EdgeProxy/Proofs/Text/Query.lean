import EdgeProxy.Proofs.Text.Percent
import Mathlib.Data.List.TakeWhile
/-!
Queries of addresses.  A query holds parameters with ampersands between them, each with its name before the
first equals sign; names and values are percent-encoded, and a plus sign stands for a space.  An encoded value
is read back, whatever text it was.  A text that stands in a query as it is comes back exactly if it is literal:
if nothing in it has a meaning of its own there.
-/

namespace EdgeProxy.Query

open Text

/-- The query of an address: what follows its first question mark, up to its fragment. -/
def ofAddress (address : String) : List Char :=
  ((address.toList.takeWhile (· != '#')).dropWhile (· != '?')).drop 1

/-- A plus sign stands for a space. -/
def unplus (c : Char) : Char := if c = '+' then ' ' else c

/-- What a name or a value reads. -/
def reading (cs : List Char) : String := decodeLossy (percentDecode (cs.map unplus))

/-- The name and the value that a piece of a query spells. -/
def parameter (piece : List Char) : String × String :=
  let name := piece.takeWhile (· != '=')
  (reading name, reading ((piece.drop name.length).drop 1))

/-- The parameters of a query; an empty piece is none. -/
def parameters (query : List Char) : List (String × String) :=
  ((query.splitOn '&').filter (!·.isEmpty)).map parameter

/-- No character of a text has a meaning of its own in a query. -/
structure Literal (cs : List Char) : Prop where
  inside : '#' ∉ cs
  joined : '&' ∉ cs
  unspaced : '+' ∉ cs
  escapeFree : EscapeFree cs

section Splitting

variable {front name : List Char} {c : Char}

theorem takeWhile_ne_append (h : c ∉ front) (rest : List Char) :
    (front ++ rest).takeWhile (· != c) = front ++ rest.takeWhile (· != c) := by
  refine List.takeWhile_append_of_pos fun d hd => ?_
  rw [bne_iff_ne]
  rintro rfl
  exact h hd

theorem dropWhile_ne_append (h : c ∉ front) (rest : List Char) :
    (front ++ rest).dropWhile (· != c) = rest.dropWhile (· != c) := by
  refine List.dropWhile_append_of_pos fun d hd => ?_
  rw [bne_iff_ne]
  rintro rfl
  exact h hd

/-- The query of an address that has no mark before its question mark. -/
theorem ofAddress_append (hquery : '?' ∉ front) (hfragment : '#' ∉ front) (rest : List Char) :
    ofAddress (String.ofList (front ++ '?' :: rest)) = rest.takeWhile (· != '#') := by
  rw [ofAddress, String.toList_ofList, takeWhile_ne_append hfragment,
    List.takeWhile_cons_of_pos (by decide), dropWhile_ne_append hquery,
    List.dropWhile_cons_of_neg (by decide), List.drop_one, List.tail_cons]

/-- The first piece of a text, and that there is no other one if the separator is not in it. -/
theorem splitOn_eq (cs : List Char) :
    ∃ more, cs.splitOn c = cs.takeWhile (· != c) :: more ∧ (c ∉ cs → more = []) := by
  induction cs with
  | nil => exact ⟨[], rfl, fun _ => rfl⟩
  | cons d rest ih =>
      obtain ⟨more, hsplit, hmore⟩ := ih
      rw [List.splitOn_eq_splitOnP] at hsplit
      rw [List.splitOn_eq_splitOnP, List.splitOnP_cons_eq_if_modifyHead, hsplit]
      by_cases hd : d = c
      · subst hd
        exact ⟨rest.takeWhile (· != d) :: more, by simp, fun h => absurd List.mem_cons_self h⟩
      · refine ⟨more, by simp [hd], fun h => hmore fun hmem => h (List.mem_cons_of_mem d hmem)⟩

theorem splitOn_append (h : c ∉ front) (rest : List Char) :
    (front ++ rest).splitOn c = (rest.splitOn c).modifyHead (front ++ ·) := by
  induction front with
  | nil => cases hsplit : rest.splitOn c <;> simp [hsplit]
  | cons d front ih =>
      have hd : d ≠ c := fun heq => h (heq ▸ List.mem_cons_self)
      have hrest := ih fun hmem => h (List.mem_cons_of_mem d hmem)
      rw [List.splitOn_eq_splitOnP] at hrest ⊢
      rw [List.cons_append, List.splitOnP_cons_eq_if_modifyHead, hrest]
      simp [hd, Function.comp_def]

theorem parameter_append (hname : '=' ∉ name) (value : List Char) :
    parameter (name ++ '=' :: value) = (reading name, reading value) := by
  have htake : (name ++ '=' :: value).takeWhile (· != '=') = name := by
    rw [takeWhile_ne_append hname, List.takeWhile_cons_of_neg (by decide), List.append_nil]
  rw [parameter, htake, List.drop_left, List.drop_one, List.tail_cons]

end Splitting

section Reading

theorem map_unplus_of_not_mem {cs : List Char} (h : '+' ∉ cs) : cs.map unplus = cs := by
  have hself : ∀ c ∈ cs, unplus c = id c := fun c hc => if_neg (ne_of_mem_of_not_mem hc h)
  rw [List.map_congr_left hself, List.map_id]

/-- An encoded text reads as what it was made of, and what follows it as before. -/
theorem reading_percentEncode_append (s : String) (rest : List Char) :
    reading ((percentEncode s).toList ++ rest) = s ++ reading rest := by
  have hplus : '+' ∉ (percentEncode s).toList :=
    (percentEncoded_percentEncode s).not_mem (by decide) (by decide)
  rw [reading, List.map_append, map_unplus_of_not_mem hplus, percentEncode, String.toList_ofList,
    percentDecode_flatMap, decodeLossy_encode_append]
  rfl

theorem length_reading_le (cs : List Char) : (reading cs).toList.length ≤ cs.length := by
  have hlength := (length_scan_percentDecode (cs.map unplus)).1
  rwa [reading, length_decodeLossy, ← List.length_map (f := unplus)]

/-- A text reads as itself exactly if it holds neither a plus sign nor an escape. -/
theorem reading_eq_iff (cs : List Char) :
    reading cs = String.ofList cs ↔ '+' ∉ cs ∧ EscapeFree cs := by
  constructor
  · intro h
    have hlength := congrArg (fun s : String => s.toList.length) h
    simp only [reading, length_decodeLossy, String.toList_ofList] at hlength
    have hfree : EscapeFree (cs.map unplus) :=
      (length_scan_percentDecode _).2 (by rw [hlength, List.length_map])
    rw [reading, (decodeLossy_percentDecode_eq_iff _).mpr hfree, String.ofList_inj] at h
    refine ⟨fun hplus => ?_, h ▸ hfree⟩
    -- A plus sign would have become a space.
    have hmem : '+' ∈ cs.map unplus := h.symm ▸ hplus
    obtain ⟨c, -, hc⟩ := List.mem_map.mp hmem
    unfold unplus at hc
    split at hc
    · exact absurd hc (by decide)
    · contradiction
  · rintro ⟨hplus, hfree⟩
    rw [reading, map_unplus_of_not_mem hplus, (decodeLossy_percentDecode_eq_iff cs).mpr hfree]

end Reading

section Parameters

variable (name : List Char)

/-- The parameters of a query that begins with a name, an encoded text and what follows it. -/
theorem parameters_append (hseparator : '&' ∉ name) (hequals : '=' ∉ name) (s : String) (rest : List Char) :
    ∃ more, parameters (name ++ '=' :: ((percentEncode s).toList ++ rest)) =
        (reading name, s ++ reading (rest.takeWhile (· != '&'))) :: more ∧ ('&' ∉ rest → more = []) := by
  obtain ⟨more, hsplit, hmore⟩ := splitOn_eq (c := '&') rest
  have hencoded : '&' ∉ (percentEncode s).toList :=
    (percentEncoded_percentEncode s).not_mem (by decide) (by decide)
  have hfront : '&' ∉ name ++ '=' :: (percentEncode s).toList := by
    simp [hseparator, hencoded]
  refine ⟨(more.filter (!·.isEmpty)).map parameter, ?_, fun h => by simp [hmore h]⟩
  have hquery : name ++ '=' :: ((percentEncode s).toList ++ rest) =
      (name ++ '=' :: (percentEncode s).toList) ++ rest := by simp
  rw [parameters, hquery, splitOn_append hfront, hsplit, List.modifyHead_cons,
    List.filter_cons_of_pos (by simp), List.map_cons, List.append_assoc, List.cons_append,
    parameter_append hequals, reading_percentEncode_append]

/-- An encoded text is read back as the one parameter of its query. -/
theorem parameters_percentEncode (hseparator : '&' ∉ name) (hequals : '=' ∉ name) (s : String) :
    parameters (name ++ '=' :: (percentEncode s).toList) = [(reading name, s)] := by
  obtain ⟨more, heq, hmore⟩ := parameters_append name hseparator hequals s []
  rw [hmore List.not_mem_nil, List.append_nil] at heq
  simpa [reading, decodeLossy, percentDecode, scan] using heq

/-- A text that stands as it is behind an encoded one is read back with it exactly if it is literal. -/
theorem parameters_eq_iff_literal (hseparator : '&' ∉ name) (hequals : '=' ∉ name) (s : String)
    (cs : List Char) :
    parameters (name ++ '=' :: ((percentEncode s).toList ++ cs.takeWhile (· != '#'))) =
        [(reading name, s ++ String.ofList cs)] ↔ Literal cs := by
  obtain ⟨more, heq, hmore⟩ := parameters_append name hseparator hequals s (cs.takeWhile (· != '#'))
  rw [heq]
  constructor
  · intro h
    have hread : reading ((cs.takeWhile (· != '#')).takeWhile (· != '&')) = String.ofList cs := by
      simpa using (List.cons.inj h).1
    -- What is read is no longer than the piece it is read from, so that the piece is the whole text.
    have hpiece : (cs.takeWhile (· != '#')).takeWhile (· != '&') = cs := by
      refine ((List.takeWhile_prefix _).trans (List.takeWhile_prefix _)).eq_of_length_le ?_
      have hlength := length_reading_le ((cs.takeWhile (· != '#')).takeWhile (· != '&'))
      rwa [hread, String.toList_ofList] at hlength
    have hinside : cs.takeWhile (· != '#') = cs := by
      refine (List.takeWhile_prefix _).eq_of_length_le ?_
      have hlength := (List.takeWhile_prefix (· != '&') (l := cs.takeWhile (· != '#'))).length_le
      rwa [hpiece] at hlength
    rw [hpiece] at hread
    rw [hinside] at hpiece
    obtain ⟨hunspaced, hfree⟩ := (reading_eq_iff cs).mp hread
    refine ⟨fun hmem => ?_, fun hmem => ?_, hunspaced, hfree⟩
    · simpa using List.takeWhile_eq_self_iff.mp hinside _ hmem
    · simpa using List.takeWhile_eq_self_iff.mp hpiece _ hmem
  · intro h
    have hinside : cs.takeWhile (· != '#') = cs := by simpa using takeWhile_ne_append h.inside []
    have hjoined : cs.takeWhile (· != '&') = cs := by simpa using takeWhile_ne_append h.joined []
    rw [hinside] at hmore ⊢
    rw [hmore h.joined, hjoined, (reading_eq_iff cs).mpr ⟨h.unspaced, h.escapeFree⟩]

end Parameters

end EdgeProxy.Query
