import EdgeProxy.Proxy.Control
import Mathlib.Data.List.TakeWhile
/-!
Addresses of the control plane.  Where a request leads is a matter of the address that the client was
given: it is the same for every path below that address.
-/

namespace EdgeProxy

namespace Text

theorem trimWith_append {blank : Char → Bool} {path : List Char} {first last : Char}
    (hfirst : path.head? = some first) (hlast : path.getLast? = some last)
    (hfirst' : blank first = false) (hlast' : blank last = false) (cs : List Char) :
    trimWith blank (cs ++ path) = cs.dropWhile blank ++ path := by
  obtain ⟨rest, rfl⟩ := List.head?_eq_some_iff.mp hfirst
  obtain ⟨before, hbefore⟩ := List.getLast?_eq_some_iff.mp hlast
  have hfront : (cs ++ first :: rest).dropWhile blank = cs.dropWhile blank ++ first :: rest := by
    rw [List.dropWhile_append]
    split
    next hempty =>
      rw [List.isEmpty_iff.mp hempty]
      simp [hfirst']
    · rfl
  rw [trimWith, hfront, hbefore]
  simp [hlast']

end Text

namespace Address

/-- What the control plane appends to its address: a slash and more, without a number sign, that ends
neither in a blank nor in an angle bracket. -/
structure IsPath (path : List Char) : Prop where
  head : path.head? = some '/'
  last : ∃ c, path.getLast? = some c ∧ Text.isBlank c = false ∧ c ≠ '>'
  unmarked : '#' ∉ path

theorem isPath_loadPath : IsPath Client.loadPath.toList where
  head := rfl
  last := ⟨'d', rfl, rfl, by decide⟩
  unmarked := by decide

theorem isPath_configPath : IsPath Client.configPath.toList where
  head := rfl
  last := ⟨'/', rfl, rfl, by decide⟩
  unmarked := by decide

theorem trimWith_isPath {path : List Char} (h : IsPath path) (cs : List Char) :
    Text.trimWith Text.isBlank (cs ++ path) = cs.dropWhile Text.isBlank ++ path := by
  obtain ⟨c, hlast, hblank, -⟩ := h.last
  exact Text.trimWith_append h.head hlast rfl hblank cs

theorem isPrefixOf_append_isPath {path : List Char} (h : IsPath path) (cs : List Char) :
    "URL:".toList.isPrefixOf (cs ++ path) = "URL:".toList.isPrefixOf cs := by
  obtain ⟨rest, rfl⟩ := List.head?_eq_some_iff.mp h.head
  rcases cs with _ | ⟨a, _ | ⟨b, _ | ⟨c, _ | ⟨d, cs⟩⟩⟩⟩ <;> simp [List.isPrefixOf]

/-- What is dropped around an address does not depend on the path at its end. -/
theorem exists_unwrap_append (cs : List Char) :
    ∃ bare, ∀ path, IsPath path →
      unwrap (String.ofList (cs ++ path)) = String.ofList (bare ++ path) := by
  obtain ⟨trimmed, htrimmed⟩ : ∃ trimmed, trimmed = cs.dropWhile Text.isBlank := ⟨_, rfl⟩
  have hunwrap : ∀ path, IsPath path → unwrap (String.ofList (cs ++ path)) =
      if "URL:".toList.isPrefixOf trimmed then
        String.ofList (Text.trimWith Text.isBlank ((trimmed ++ path).drop 4))
      else String.ofList (trimmed ++ path) := by
    intro path hpath
    obtain ⟨c, hlast, -, hangle⟩ := hpath.last
    have hopen : ((trimmed ++ path).getLast? == some '>') = false := by
      rw [List.getLast?_append, hlast]
      simpa using hangle
    simp only [unwrap, Text.trim, String.toList_ofList, trimWith_isPath hpath, ← htrimmed, hopen,
      Bool.and_false, Bool.false_eq_true, ↓reduceIte, isPrefixOf_append_isPath hpath]
  by_cases hmark : "URL:".toList.isPrefixOf trimmed = true
  · refine ⟨(trimmed.drop 4).dropWhile Text.isBlank, ?_⟩
    intro path hpath
    have hlength : 4 ≤ trimmed.length := (List.isPrefixOf_iff_prefix.mp hmark).length_le
    rw [hunwrap path hpath, if_pos hmark, List.drop_append_of_le_length hlength,
      trimWith_isPath hpath]
  · refine ⟨trimmed, ?_⟩
    intro path hpath
    rw [hunwrap path hpath, if_neg hmark]

theorem beforeFragment_append {path : List Char} (h : IsPath path) (cs : List Char) :
    beforeFragment (cs ++ path) =
      if '#' ∈ cs then beforeFragment cs else cs ++ path := by
  have hpath : (cs ++ path).reverse.dropWhile (· != '#') = cs.reverse.dropWhile (· != '#') := by
    rw [List.reverse_append]
    apply List.dropWhile_append_of_pos
    intro c hc
    simp only [bne_iff_ne, ne_eq]
    rintro rfl
    exact h.unmarked (List.mem_reverse.mp hc)
  rw [beforeFragment.eq_def, hpath]
  split
  next before hmark =>
    have hmem : '#' ∈ cs := by
      apply List.mem_reverse.mp
      apply List.dropWhile_subset (p := (· != '#'))
      rw [hmark]
      exact List.mem_cons_self
    simp only [if_pos hmem, beforeFragment.eq_def, hmark]
  next hnone =>
    rw [if_neg]
    intro hmem
    cases hdrop : cs.reverse.dropWhile (· != '#') with
    | nil =>
        rw [List.dropWhile_eq_nil_iff] at hdrop
        simpa using hdrop '#' (List.mem_reverse.mpr hmem)
    | cons c rest =>
        have hhead := List.head?_dropWhile_not (· != '#') cs.reverse
        rw [hdrop] at hhead
        simp only [List.head?_cons, bne_eq_false_iff_eq] at hhead
        exact hnone rest (by rw [hdrop, hhead])

/-- The scheme of an address does not depend on the path at its end. -/
theorem scheme?_append (cs : List Char) {path path' : List Char} (h : IsPath path)
    (h' : IsPath path') :
    scheme? (String.ofList (cs ++ path)) = scheme? (String.ofList (cs ++ path')) := by
  have hname : ∀ path, IsPath path →
      (cs ++ path).takeWhile (fun c => c != ':' && c != '/') =
        cs.takeWhile fun c => c != ':' && c != '/' := by
    intro path hpath
    obtain ⟨rest, rfl⟩ := List.head?_eq_some_iff.mp hpath.head
    rw [List.takeWhile_append]
    split
    next hall =>
      have hself := (List.takeWhile_prefix fun c => c != ':' && c != '/').eq_of_length hall
      simp [hself]
    · rfl
  have hnext : ∀ path, IsPath path → ∀ n ≤ cs.length,
      ((cs ++ path).drop n).head? = (cs.drop n).head?.or (some '/') := by
    intro path hpath n hn
    rw [List.drop_append_of_le_length hn, List.head?_append, hpath.head]
  have hlength : (cs.takeWhile fun c => c != ':' && c != '/').length ≤ cs.length :=
    (List.takeWhile_prefix _).length_le
  simp only [scheme?, String.toList_ofList, beforeFragment_append h, beforeFragment_append h']
  split
  · rfl
  · rw [hname path h, hname path' h', hnext path h _ hlength, hnext path' h' _ hlength]

end Address

/-- The live configuration is asked for where configurations are sent to. -/
theorem Client.reach_configPath (client : Client) :
    Address.reach (client.address configPath) = Address.reach (client.address loadPath) := by
  obtain ⟨bare, hbare⟩ := Address.exists_unwrap_append client.adminUrl.toList
  have haddress : ∀ path : String, Address.IsPath path.toList →
      client.address path = String.ofList (bare ++ path.toList) := by
    intro path hpath
    rw [← hbare _ hpath, address, ← String.toList_append, String.ofList_toList]
  rw [Address.reach, Address.reach, haddress _ Address.isPath_configPath,
    haddress _ Address.isPath_loadPath,
    Address.scheme?_append bare Address.isPath_configPath Address.isPath_loadPath]

end EdgeProxy
