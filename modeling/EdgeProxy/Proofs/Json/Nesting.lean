import EdgeProxy.Json.Nesting
import EdgeProxy.Proofs.Json.Numeral
/-!
The nesting of written values.  A scan goes through the text of a value and comes out as it went in, and it meets
no bracket beyond its room if there is room for the depth of the value; so a reader with that room does not give up.
-/

namespace EdgeProxy.Json

variable {room : Nat} {closers : List Char}

theorem depthItems_le {items : List Json} : depthItems items ≤ room ↔ ∀ v ∈ items, v.depth ≤ room := by
  induction items with
  | nil => simp [depthItems]
  | cons v items ih => simp [depthItems, ih]

theorem depthFields_le {fields : List (String × Json)} :
    depthFields fields ≤ room ↔ ∀ field ∈ fields, field.2.depth ≤ room := by
  induction fields with
  | nil => simp [depthFields]
  | cons field fields ih =>
      obtain ⟨key, v⟩ := field
      simp [depthFields, ih]

theorem depth_arr_le {items : List Json} : (arr items).depth ≤ room + 1 ↔ ∀ v ∈ items, v.depth ≤ room := by
  rw [depth, Nat.add_le_add_iff_right, depthItems_le]

theorem depth_obj_le {fields : List (String × Json)} :
    (obj fields).depth ≤ room + 1 ↔ ∀ field ∈ fields, field.2.depth ≤ room := by
  rw [depth, Nat.add_le_add_iff_right, depthFields_le]

theorem depth_texts_le (l : List String) : (texts l).depth ≤ 1 := by
  rw [texts, depth_arr_le, List.forall_mem_map]
  exact fun s _ => Nat.le_refl 0

namespace Nesting

variable {n : Nesting} {cs rest : List Char}

/-- There is room for every bracket of a text. -/
def Fits (room : Nat) (n : Nesting) : List Char → Prop
  | [] => True
  | c :: rest => ((n.closer? c).isSome = true → n.closers.length < room) ∧ (n.step c).Fits room rest

/-- A scan goes through a text, for which it has room, and comes out as it went in. -/
structure Passes (room : Nat) (n : Nesting) (cs : List Char) : Prop where
  fits : n.Fits room cs
  after_eq : cs.foldl step n = n

theorem Fits.append (h : n.Fits room cs) (hrest : (cs.foldl step n).Fits room rest) :
    n.Fits room (cs ++ rest) := by
  induction cs generalizing n with
  | nil => exact hrest
  | cons c cs ih => exact ⟨h.1, ih h.2 hrest⟩

theorem cutFrom?_of_fits (h : n.Fits room cs) (passed : List Char) : cutFrom? room n passed cs = none := by
  induction cs generalizing n passed with
  | nil => rfl
  | cons c cs ih =>
      have hroom : ¬ ((n.closer? c).isSome && decide (room ≤ n.closers.length)) = true := by
        simp only [Bool.and_eq_true, decide_eq_true_eq, not_and, not_le]
        exact h.1
      rw [cutFrom?, if_neg hroom]
      exact ih h.2 _

theorem Passes.nil : n.Passes room [] := ⟨trivial, rfl⟩

theorem Passes.append (h : n.Passes room cs) (hrest : n.Passes room rest) : n.Passes room (cs ++ rest) where
  fits := h.fits.append (h.after_eq.symm ▸ hrest.fits)
  after_eq := by rw [List.foldl_append, h.after_eq, hrest.after_eq]

theorem Passes.flatMap {α : Type} {f : α → List Char} {items : List α} (h : ∀ a ∈ items, n.Passes room (f a)) :
    n.Passes room (items.flatMap f) := by
  induction items with
  | nil => exact .nil
  | cons a items ih =>
      exact (h a List.mem_cons_self).append (ih fun b hb => h b (List.mem_cons_of_mem a hb))

/-- What stands between two characters, where it passes, passes with them if they lead there and back. -/
theorem Passes.around {inner : Nesting} {first last : Char} (h : inner.Passes room cs)
    (hroom : (n.closer? first).isSome = true → n.closers.length < room) (hfirst : n.step first = inner)
    (hclose : inner.closer? last = none) (hlast : inner.step last = n) :
    n.Passes room (first :: cs ++ [last]) where
  fits := by
    refine ⟨hroom, ?_⟩
    rw [hfirst]
    exact h.fits.append (by simp [h.after_eq, Fits, hclose])
  after_eq := by simp [hfirst, h.after_eq, hlast]

end Nesting

open Nesting

/-- Whether a character means something to a scan outside of strings. -/
def isMark (c : Char) : Bool :=
  c == '"' || c == '[' || c == '\x7b' || c == ']' || c == '\x7d'

/-- A text without marks does not touch a scan outside of strings. -/
theorem passes_outside {cs : List Char} (h : ∀ c ∈ cs, isMark c = false) :
    (⟨closers, .outside⟩ : Nesting).Passes room cs := by
  rw [← List.flatMap_singleton' cs]
  refine .flatMap fun c hc => ?_
  have hmark := h c hc
  simp only [isMark, Bool.or_eq_false_iff, beq_eq_false_iff_ne] at hmark
  obtain ⟨⟨⟨⟨hquote, hopen⟩, hbrace⟩, hclose⟩, hend⟩ := hmark
  constructor <;> simp [Fits, closer?, step, Nesting.pass, hquote, hopen, hbrace, hclose, hend]

/-- A character that is neither a quotation mark nor the mark of an escape stays inside a string. -/
theorem passes_inside {c : Char} (hquote : c ≠ '"') (hescape : c ≠ '\\') :
    (⟨closers, .inside⟩ : Nesting).Passes room [c] := by
  constructor <;> simp [Fits, closer?, step, Nesting.pass, hquote, hescape]

/-- An escape stays inside a string. -/
theorem passes_escape (c : Char) : (⟨closers, .inside⟩ : Nesting).Passes room ['\\', c] := by
  constructor <;> simp [Fits, closer?, step, Nesting.pass]

theorem lowerHex_ne {k : Nat} (h : k < 16) : Text.lowerHex k ≠ '"' ∧ Text.lowerHex k ≠ '\\' := by
  have hall : ∀ k < 16, Text.lowerHex k ≠ '"' ∧ Text.lowerHex k ≠ '\\' := by decide
  exact hall k h

theorem passes_hexDigits (count n : Nat) :
    (⟨closers, .inside⟩ : Nesting).Passes room (Text.hexDigits count n) := by
  induction count generalizing n with
  | zero => exact .nil
  | succ count ih =>
      have hdigit := lowerHex_ne (Nat.mod_lt n (show 0 < 16 by decide))
      exact (ih (n / 16)).append (passes_inside hdigit.1 hdigit.2)

theorem passes_unitEscape (unit : Nat) : (⟨closers, .inside⟩ : Nesting).Passes room (unitEscape unit) :=
  (passes_escape 'u').append (passes_hexDigits 4 unit)

theorem passes_writeChar (ascii : Bool) (c : Char) :
    (⟨closers, .inside⟩ : Nesting).Passes room (writeChar ascii c) := by
  unfold writeChar
  dsimp only
  split
  · exact passes_escape _
  next hquote =>
    split
    · exact passes_escape _
    next hescape =>
      have hplain : (⟨closers, .inside⟩ : Nesting).Passes room [c] :=
        passes_inside (by simpa using hquote) (by simpa using hescape)
      repeat' split
      all_goals first
        | exact passes_escape _
        | exact passes_unitEscape _
        | exact hplain
        | exact (passes_unitEscape _).append (passes_unitEscape _)

theorem passes_writeString (ascii : Bool) (s : String) :
    (⟨closers, .outside⟩ : Nesting).Passes room (writeString ascii s) := by
  have hinner : (⟨closers, .inside⟩ : Nesting).Passes room (s.toList.flatMap (writeChar ascii)) :=
    .flatMap fun c _ => passes_writeChar ascii c
  exact hinner.around (by simp [closer?]) (by simp [step, closer?, Nesting.pass]) (by simp [closer?])
    (by simp [step, closer?, Nesting.pass])

/-- A text without marks. -/
def Unmarked (s : String) : Prop := ∀ c ∈ s.toList, isMark c = false

theorem Unmarked.append {s t : String} (hs : Unmarked s) (ht : Unmarked t) : Unmarked (s ++ t) := by
  rw [Unmarked, String.toList_append, List.forall_mem_append]
  exact ⟨hs, ht⟩

theorem isMark_of_isDigit {c : Char} (h : c.isDigit = true) : isMark c = false := by
  rw [isMark]
  simp only [Bool.or_eq_false_iff, beq_eq_false_iff_ne]
  refine ⟨⟨⟨⟨?_, ?_⟩, ?_⟩, ?_⟩, ?_⟩ <;> (rintro rfl; cases h)

theorem unmarked_digits {ds : List Nat} (h : ∀ d ∈ ds, d < 10) :
    Unmarked (String.ofList (ds.map Text.digitChar)) := by
  rw [Unmarked, String.toList_ofList]
  exact fun c hc => isMark_of_isDigit (isDigit_of_mem_digitText h c hc)

theorem unmarked_decimal (n : Nat) : Unmarked (Text.decimal n) := unmarked_digits (Text.digits_lt_ten n)

theorem unmarked_zerosText (n : Nat) : Unmarked (Binary64.zerosText n) := by
  rw [Unmarked, Binary64.zerosText, String.toList_ofList]
  intro c hc
  rw [List.eq_of_mem_replicate hc]
  rfl

theorem unmarked_decimalInt (n : Int) : Unmarked (Text.decimalInt n) := by
  rw [Text.decimalInt]
  split
  · exact Unmarked.append (by simp [Unmarked, isMark]) (unmarked_decimal _)
  · exact unmarked_decimal _

theorem unmarked_exponentText (least : Nat) (e : Int) : Unmarked (Binary64.exponentText least e) := by
  refine .append (.append ?_ (unmarked_zerosText _)) (unmarked_decimal _)
  split <;> simp [Unmarked, isMark]

theorem unmarked_place (d : Decimal) : Unmarked (Binary64.documentLayout.place d) := by
  have hlt := Text.digits_lt_ten d.digits
  have htake (k : Nat) : Unmarked (String.ofList (((Text.digits d.digits).take k).map Text.digitChar)) :=
    unmarked_digits fun n hn => hlt n (List.mem_of_mem_take hn)
  have hdrop (k : Nat) : Unmarked (String.ofList (((Text.digits d.digits).drop k).map Text.digitChar)) :=
    unmarked_digits fun n hn => hlt n (List.mem_of_mem_drop hn)
  have hpoint : Unmarked "." := by simp [Unmarked, isMark]
  unfold Binary64.Layout.place
  dsimp only
  split
  · split
    · exact .append (.append (by simp [Unmarked, isMark]) (unmarked_zerosText _)) (unmarked_digits hlt)
    · split
      · exact .append (.append (unmarked_digits hlt) (unmarked_zerosText _)) (by simp [Unmarked, isMark])
      · exact .append (.append (htake _) hpoint) (hdrop _)
  · refine .append (.append (.append (htake 1) ?_) (by simp [Unmarked, isMark])) (unmarked_exponentText _ _)
    split
    · simp [Unmarked]
    · exact .append hpoint (hdrop 1)

theorem unmarked_float (x : Binary64) : Unmarked (Binary64.documentLayout.text x) := by
  have hsign : Unmarked (if x.isNegative then "-" else "") := by split <;> simp [Unmarked, isMark]
  cases x with
  | nan => simp [Binary64.Layout.text, Binary64.documentLayout, Unmarked, isMark]
  | infinite negative => exact .append hsign (by simp [Binary64.documentLayout, Unmarked, isMark])
  | finite negative m e hcanonical =>
      refine .append hsign ?_
      split
      · simp [Unmarked, isMark]
      · exact unmarked_place _

theorem passes_lead (style : Style) (level : Nat) :
    (⟨closers, .outside⟩ : Nesting).Passes room (style.lead level) := by
  apply passes_outside
  unfold Style.lead
  intro c hc
  split at hc
  · cases hc
  · rcases List.mem_cons.mp hc with rfl | hc
    · rfl
    · rw [List.eq_of_mem_replicate hc]
      rfl

theorem passes_gap (style : Style) : (⟨closers, .outside⟩ : Nesting).Passes room (style.gap) := by
  apply passes_outside
  unfold Style.gap
  split <;> simp [isMark]

theorem passes_separator {cs : List Char} (c : Char) (hc : isMark c = false)
    (h : (⟨closers, .outside⟩ : Nesting).Passes room cs) :
    (⟨closers, .outside⟩ : Nesting).Passes room (c :: cs) := by
  have hfirst : (⟨closers, .outside⟩ : Nesting).Passes room [c] := passes_outside (by simpa using hc)
  exact hfirst.append h

/-- A list or an object passes if what it holds passes between its brackets. -/
theorem passes_brackets {cs : List Char} {first last : Char}
    (hopen : (first, last) = ('[', ']') ∨ (first, last) = ('\x7b', '\x7d')) (hroom : closers.length < room)
    (h : (⟨last :: closers, .outside⟩ : Nesting).Passes room cs) :
    (⟨closers, .outside⟩ : Nesting).Passes room (first :: cs ++ [last]) := by
  rcases hopen with h' | h'
  all_goals
    cases h'
    exact h.around (fun _ => hroom) (by simp [step, closer?]) (by simp [closer?])
      (by simp [step, closer?, Nesting.pass])

mutual
/-- The text of a value passes where there is room for its depth. -/
theorem passes_write (style : Style) (level : Nat) : ∀ (v : Json) (closers : List Char),
    closers.length + v.depth ≤ room → (⟨closers, .outside⟩ : Nesting).Passes room (write style level v)
  | .null, _, _ | .bool true, _, _ | .bool false, _, _ => by
    rw [write]
    exact passes_outside (by simp [isMark])
  | .int n, _, _ => by
    rw [write]
    exact passes_outside (unmarked_decimalInt n)
  | .float x, _, _ => by
    rw [write]
    exact passes_outside (unmarked_float x)
  | .str s, _, _ => by
    rw [write]
    exact passes_writeString style.ascii s
  | .arr [], closers, h => by
    rw [depth, depthItems] at h
    have hinner : (⟨']' :: closers, .outside⟩ : Nesting).Passes room [] := .nil
    exact passes_brackets (.inl rfl) (by omega) hinner
  | .arr (v :: vs), closers, h => by
    rw [depth, depthItems] at h
    have hv := passes_write style (level + 1) v (']' :: closers) (by rw [List.length_cons]; omega)
    have hvs := passes_writeItems style (level + 1) vs (']' :: closers) (by rw [List.length_cons]; omega)
    rw [write]
    have hinner := (((passes_lead style (level + 1)).append hv).append hvs).append (passes_lead style level)
    simpa only [List.cons_append, List.append_assoc] using
      passes_brackets (.inl rfl) (by omega) hinner
  | .obj [], closers, h => by
    rw [depth, depthFields] at h
    have hinner : (⟨'\x7d' :: closers, .outside⟩ : Nesting).Passes room [] := .nil
    exact passes_brackets (.inr rfl) (by omega) hinner
  | .obj ((k, v) :: rest), closers, h => by
    rw [depth, depthFields] at h
    have hv := passes_write style (level + 1) v ('\x7d' :: closers) (by rw [List.length_cons]; omega)
    have hrest := passes_writeFields style (level + 1) rest ('\x7d' :: closers) (by rw [List.length_cons]; omega)
    rw [write]
    have hfield := (passes_writeString style.ascii k).append
      (passes_separator ':' rfl (passes_separator ' ' rfl hv))
    have hinner := (((passes_lead style (level + 1)).append hfield).append hrest).append (passes_lead style level)
    simpa only [List.cons_append, List.append_assoc] using
      passes_brackets (.inr rfl) (by omega) hinner

theorem passes_writeItems (style : Style) (level : Nat) : ∀ (items : List Json) (closers : List Char),
    closers.length + depthItems items ≤ room →
      (⟨closers, .outside⟩ : Nesting).Passes room (writeItems style level items)
  | [], _, _ => .nil
  | v :: vs, closers, h => by
    rw [depthItems] at h
    have hv := passes_write style level v closers (by omega)
    have hvs := passes_writeItems style level vs closers (by omega)
    rw [writeItems]
    simpa only [List.cons_append, List.append_assoc] using
      passes_separator ',' rfl ((((passes_gap style).append (passes_lead style level)).append hv).append hvs)

theorem passes_writeFields (style : Style) (level : Nat) : ∀ (fields : List (String × Json)) (closers : List Char),
    closers.length + depthFields fields ≤ room →
      (⟨closers, .outside⟩ : Nesting).Passes room (writeFields style level fields)
  | [], _, _ => .nil
  | (k, v) :: rest, closers, h => by
    rw [depthFields] at h
    have hv := passes_write style level v closers (by omega)
    have hrest := passes_writeFields style level rest closers (by omega)
    rw [writeFields]
    have hfield := (passes_writeString style.ascii k).append
      (passes_separator ':' rfl (passes_separator ' ' rfl hv))
    simpa only [List.cons_append, List.append_assoc] using
      passes_separator ',' rfl ((((passes_gap style).append (passes_lead style level)).append hfield).append hrest)
end

/-- A reader does not give up on a written value for which it has room, whatever stands after it that is no
mark. -/
theorem overflows_render_append {v : Json} (h : v.depth ≤ room) (style : Style) {after : String}
    (hafter : Unmarked after) : overflows room (v.render style ++ after) = false := by
  have hwritten : (⟨[], .outside⟩ : Nesting).Passes room (write style 0 v) :=
    passes_write style 0 v [] (by simpa using h)
  have hpasses := hwritten.append (passes_outside hafter)
  rw [overflows, cut?, render, String.toList_append, String.toList_ofList, Nesting.start,
    cutFrom?_of_fits hpasses.fits]
  rfl

theorem overflows_render {v : Json} (h : v.depth ≤ room) (style : Style) :
    overflows room (v.render style) = false := by
  have hnone := overflows_render_append h style (show Unmarked "" by simp [Unmarked])
  rwa [String.append_empty] at hnone

end EdgeProxy.Json
