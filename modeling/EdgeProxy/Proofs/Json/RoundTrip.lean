import EdgeProxy.Proofs.Json.Distinct
import EdgeProxy.Proofs.Json.Numeral
import EdgeProxy.Proofs.Json.Quotation
import Mathlib.Data.List.TakeWhile
/-!
A written document is read back as it was.  The value must have each key once, as a document that is
read has, and its integers must be short enough to be written at all.
-/

namespace EdgeProxy.Json

/-- A value that can be written and loses nothing by it. -/
structure Portable (v : Json) : Prop where
  distinct : v.Distinct
  writable : v.isWritable = true

theorem writableItems_iff {items : List Json} :
    writableItems items = true ↔ ∀ v ∈ items, v.isWritable = true := by
  induction items with
  | nil => simp [writableItems]
  | cons v rest ih => simp [writableItems, ih]

theorem writableFields_iff {fields : List (String × Json)} :
    writableFields fields = true ↔ ∀ p ∈ fields, p.2.isWritable = true := by
  induction fields with
  | nil => simp [writableFields]
  | cons p rest ih =>
      obtain ⟨k, v⟩ := p
      simp only [writableFields, Bool.and_eq_true, ih, List.forall_mem_cons]

theorem isWritable_obj (fields : Fields) : (obj fields).isWritable = writableFields fields := by
  rw [isWritable]

theorem isWritable_arr (items : List Json) : (arr items).isWritable = writableItems items := by
  rw [isWritable]

theorem isWritable_str (s : String) : (str s).isWritable = true := by
  rw [isWritable] <;> simp

theorem isWritable_bool (b : Bool) : (bool b).isWritable = true := by
  rw [isWritable] <;> simp

theorem isWritable_null : null.isWritable = true := by
  rw [isWritable] <;> simp

theorem isWritable_int {n : Int} (h : n.natAbs < 100) : (int n).isWritable = true := by
  have hbound : tenTo 2 ≤ tenTo Text.maxIntegerDigits := Text.tenTo_le_tenTo (by decide)
  have hhundred : tenTo 2 = 100 := rfl
  simp only [isWritable, decide_eq_true_eq]
  omega

theorem Portable.items {items : List Json} (h : (arr items).Portable) :
    ∀ v ∈ items, v.Portable := by
  intro v hv
  refine ⟨distinct_arr.mp h.distinct v hv, ?_⟩
  have hwritable := h.writable
  rw [isWritable_arr, writableItems_iff] at hwritable
  exact hwritable v hv

theorem Portable.fields {fields : Fields} (h : (obj fields).Portable) :
    ∀ p ∈ fields, p.2.Portable := by
  intro p hp
  refine ⟨(distinct_obj.mp h.distinct).2 p hp, ?_⟩
  have hwritable := h.writable
  rw [isWritable_obj, writableFields_iff] at hwritable
  exact hwritable p hp

def signChars (negative : Bool) : List Char := if negative then ['-'] else []

theorem isDigit_head_of_readMagnitude {negative : Bool} {cs : List Char} {r : Json × List Char}
    (h : readMagnitude negative cs = .ok r) : ∃ c rest, cs = c :: rest ∧ c.isDigit = true := by
  cases cs with
  | nil => simp [readMagnitude, spanWhole, spanDigits] at h
  | cons c rest =>
      refine ⟨c, rest, rfl, ?_⟩
      by_contra hdigit
      have hzero : c ≠ '0' := by
        rintro rfl
        exact hdigit rfl
      have hspan : spanWhole (c :: rest) = ([], c :: rest) := by
        simp [spanWhole, hzero, spanDigits, hdigit]
      rw [readMagnitude, hspan] at h
      simp at h

theorem dropWord_of_head_ne {w c : Char} (h : w ≠ c) (word rest : List Char) :
    dropWord (w :: word) (c :: rest) = none := by
  simp [dropWord, List.isPrefixOf, h]

theorem readValue_of_readMagnitude {negative : Bool} {cs : List Char} {r : Json × List Char}
    (h : readMagnitude negative cs = .ok r) (fuel : Nat) :
    readValue (fuel + 1) (signChars negative ++ cs) = .ok r := by
  obtain ⟨c, rest, rfl, hdigit⟩ := isDigit_head_of_readMagnitude h
  cases negative with
  | true =>
      have hI : 'I' ≠ c := by
        rintro rfl
        simp at hdigit
      have hword : dropWord "Infinity".toList (c :: rest) = none :=
        dropWord_of_head_ne hI _ rest
      simp only [signChars, ↓reduceIte, List.cons_append, List.nil_append, readValue, hword, h]
  | false =>
      have hother : c ≠ '"' ∧ c ≠ '[' ∧ c ≠ '\x7b' ∧ c ≠ '-' := by
        refine ⟨?_, ?_, ?_, ?_⟩ <;>
        · rintro rfl
          simp at hdigit
      simp only [signChars, Bool.false_eq_true, ↓reduceIte, List.nil_append]
      rw [readValue.eq_def]
      simp [hother, hdigit, h]

theorem readValue_decimalInt {n : Int} (hn : n.natAbs < tenTo Text.maxIntegerDigits)
    {rest : List Char} (hrest : EndsNumber rest) (fuel : Nat) :
    readValue (fuel + 1) ((Text.decimalInt n).toList ++ rest) = .ok (.int n, rest) := by
  have htext : (Text.decimalInt n).toList =
      signChars (decide (n < 0)) ++ digitText (Text.digits n.natAbs) := by
    by_cases hneg : n < 0 <;> simp [Text.decimalInt, Text.decimal, signChars, digitText, hneg]
  have hread := readValue_of_readMagnitude
    (readMagnitude_integer hn hrest (decide (n < 0))) fuel
  rw [htext, List.append_assoc, hread]
  by_cases hneg : n < 0
  · simp only [hneg, decide_true, ↓reduceIte, Except.ok.injEq, Prod.mk.injEq, Json.int.injEq,
      and_true]
    omega
  · simp only [hneg, decide_false, Bool.false_eq_true, ↓reduceIte, Except.ok.injEq,
      Prod.mk.injEq, Json.int.injEq, and_true]
    omega

theorem readMagnitude_zero {rest : List Char} (hrest : EndsNumber rest) (negative : Bool) :
    readMagnitude negative ("0.0".toList ++ rest) =
      .ok (.float (Binary64.zero negative), rest) := by
  have hzeros : ∀ d ∈ [0], d < 10 := by decide
  exact readMagnitude_fraction wholePart_zero hzeros (by decide) hrest negative

theorem digits_pos_of_readsAs {negative : Bool} {m : Nat} {e : Int}
    {hcanonical : CanonicalBinary64 m e} (hm : 0 < m) {d : Decimal}
    (h : d.readsAs (.finite negative m e hcanonical) = true) : 0 < d.digits := by
  rw [Nat.pos_iff_ne_zero]
  intro hzero
  rw [Binary64.readsAs_iff, hzero] at h
  simp only [Binary64.ofDecimal, beq_self_eq_true, ↓reduceIte, Binary64.zero,
    Binary64.finite.injEq] at h
  omega

theorem toList_text_finite {negative : Bool} {m : Nat} {e : Int}
    (hcanonical : CanonicalBinary64 m e) :
    (Binary64.documentLayout.text (.finite negative m e hcanonical)).toList =
      signChars negative ++ (if m = 0 then "0.0"
        else Binary64.documentLayout.place
          (Binary64.shortest (.finite negative m e hcanonical))).toList := by
  simp only [Binary64.Layout.text, Binary64.isNegative, beq_iff_eq]
  rw [String.toList_append]
  cases negative <;> simp [signChars]

theorem readValue_nan (rest : List Char) (fuel : Nat) :
    readValue (fuel + 1) ((Binary64.documentLayout.text .nan).toList ++ rest) =
      .ok (.float .nan, rest) := by
  simp [Binary64.Layout.text, Binary64.documentLayout, readValue, dropWord, List.isPrefixOf]

theorem readValue_infinite (negative : Bool) (rest : List Char) (fuel : Nat) :
    readValue (fuel + 1) ((Binary64.documentLayout.text (.infinite negative)).toList ++ rest) =
      .ok (.float (.infinite negative), rest) := by
  cases negative <;>
    simp [Binary64.Layout.text, Binary64.documentLayout, Binary64.isNegative, readValue, dropWord,
      List.isPrefixOf]

/-- A floating-point number is read back from its text, be it finite or not. -/
theorem readValue_float (x : Binary64) {rest : List Char} (hrest : EndsNumber rest) (fuel : Nat) :
    readValue (fuel + 1) ((Binary64.documentLayout.text x).toList ++ rest) =
      .ok (.float x, rest) := by
  cases x with
  | nan => exact readValue_nan rest fuel
  | infinite negative => exact readValue_infinite negative rest fuel
  | finite negative m e hcanonical =>
      rw [toList_text_finite, List.append_assoc]
      by_cases hm : m = 0
      · subst hm
        have he : e = -1074 := by
          rcases hcanonical.2.2.2 with hbig | he
          · exact absurd hbig (by decide)
          · exact he
        subst he
        rw [if_pos rfl]
        exact readValue_of_readMagnitude (readMagnitude_zero hrest negative) fuel
      · have hpos : 0 < m := Nat.pos_of_ne_zero hm
        have hreads : (Binary64.shortest (.finite negative m e hcanonical)).readsAs
            (.finite negative m e hcanonical) = true := Binary64.readsAs_shortest hcanonical hpos
        have hdigits := digits_pos_of_readsAs hpos hreads
        rw [Binary64.readsAs_iff] at hreads
        rw [if_neg hm, readValue_of_readMagnitude (readMagnitude_place hdigits hrest negative) fuel]
        simp only [Binary64.isNegative] at hreads
        rw [hreads]

variable {style : Style}

theorem readValue_writeString (s : String) (rest : List Char) (fuel : Nat) :
    readValue (fuel + 1) (writeString style.ascii s ++ rest) = .ok (.str s, rest) := by
  have hread := readString_writeString style.ascii s rest
  simp only [writeString, List.cons_append, List.append_assoc, List.nil_append, readValue, hread]

theorem isGap_head_of_readValue {fuel : Nat} {cs : List Char} {r : Json × List Char}
    (h : readValue fuel cs = .ok r) :
    ∃ c rest, cs = c :: rest ∧ isGap c = false ∧ c ≠ ']' ∧ c ≠ '\x7d' := by
  cases fuel with
  | zero => simp [readValue] at h
  | succ fuel =>
      cases cs with
      | nil => simp [readValue] at h
      | cons c rest =>
          refine ⟨c, rest, rfl, ?_⟩
          have hother : ∀ c' ∈ [' ', '\t', '\n', '\r', ']', '\x7d'], c ≠ c' := by
            intro c' hc'
            rintro rfl
            simp only [List.mem_cons, List.not_mem_nil, or_false] at hc'
            rcases hc' with rfl | rfl | rfl | rfl | rfl | rfl <;>
              simp [readValue, dropWord, List.isPrefixOf] at h
          simp only [List.forall_mem_cons] at hother
          simp [isGap, hother]

theorem skipGap_of_head {c : Char} (h : isGap c = false) (rest : List Char) :
    skipGap (c :: rest) = c :: rest := by
  simp [skipGap, h]

theorem skipGap_of_isGap {c : Char} (h : isGap c = true) (rest : List Char) :
    skipGap (c :: rest) = skipGap rest := by
  rw [skipGap, List.dropWhile_cons_of_pos h, skipGap]

theorem skipGap_writeString (ascii : Bool) (s : String) (rest : List Char) :
    skipGap (writeString ascii s ++ rest) = writeString ascii s ++ rest :=
  skipGap_of_head rfl _

theorem skipGap_lead_append (level : Nat) (rest : List Char) :
    skipGap (style.lead level ++ rest) = skipGap rest := by
  have hblanks : ∀ n, List.dropWhile isGap (List.replicate n ' ' ++ rest) =
      List.dropWhile isGap rest := by
    intro n
    induction n with
    | zero => rfl
    | succ n ih =>
        rw [List.replicate_succ, List.cons_append, List.dropWhile_cons_of_pos rfl, ih]
  rw [Style.lead]
  cases style.indent with
  | none => rfl
  | some width =>
      simp only [skipGap, List.cons_append]
      rw [List.dropWhile_cons_of_pos rfl, hblanks]

theorem skipGap_gap_append (rest : List Char) : skipGap (style.gap ++ rest) = skipGap rest := by
  rw [Style.gap]
  cases style.indent <;> rfl

theorem endsNumber_cons {c : Char} (h : c.isDigit = false ∧ c ≠ '.' ∧ c ≠ 'e' ∧ c ≠ 'E')
    (rest : List Char) : EndsNumber (c :: rest) := by
  intro d hd
  simp only [List.head?_cons, Option.mem_some_iff] at hd
  exact hd ▸ h

theorem endsNumber_comma (rest : List Char) : EndsNumber (',' :: rest) :=
  endsNumber_cons (by decide) rest

theorem endsNumber_lead_append (level : Nat) {rest : List Char} (h : EndsNumber rest) :
    EndsNumber (style.lead level ++ rest) := by
  rw [Style.lead]
  cases style.indent with
  | none => exact h
  | some width => exact endsNumber_cons (by decide) _

theorem writeItems_cons_append (style : Style) (level : Nat) (v : Json) (vs : List Json) (tail : List Char) :
    writeItems style level (v :: vs) ++ tail =
      ',' :: (style.gap ++ (style.lead level ++
        (write style level v ++ (writeItems style level vs ++ tail)))) := by
  simp [writeItems]

theorem writeFields_cons_append (style : Style) (level : Nat) (p : String × Json) (fields : Fields)
    (tail : List Char) :
    writeFields style level (p :: fields) ++ tail =
      ',' :: (style.gap ++ (style.lead level ++ (writeString style.ascii p.1 ++ ':' :: ' ' ::
        (write style level p.2 ++ (writeFields style level fields ++ tail))))) := by
  simp [writeFields]

theorem write_arr_cons_append (style : Style) (level : Nat) (v : Json) (vs : List Json) (tail : List Char) :
    write style level (.arr (v :: vs)) ++ tail =
      '[' :: (style.lead (level + 1) ++ (write style (level + 1) v ++
        (writeItems style (level + 1) vs ++ (style.lead level ++ ']' :: tail)))) := by
  simp [write]

theorem write_obj_cons_append (style : Style) (level : Nat) (p : String × Json) (fields : Fields)
    (tail : List Char) :
    write style level (.obj (p :: fields)) ++ tail =
      '\x7b' :: (style.lead (level + 1) ++ (writeString style.ascii p.1 ++ ':' :: ' ' ::
        (write style (level + 1) p.2 ++
          (writeFields style (level + 1) fields ++ (style.lead level ++ '\x7d' :: tail))))) := by
  simp [write]

theorem endsNumber_writeItems_append (style : Style) (level : Nat) (items : List Json) {rest : List Char}
    (hrest : EndsNumber rest) : EndsNumber (writeItems style level items ++ rest) := by
  cases items with
  | nil => exact hrest
  | cons v items =>
      rw [writeItems_cons_append]
      exact endsNumber_comma _

theorem endsNumber_writeFields_append (style : Style) (level : Nat) (fields : Fields) {rest : List Char}
    (hrest : EndsNumber rest) : EndsNumber (writeFields style level fields ++ rest) := by
  cases fields with
  | nil => exact hrest
  | cons p fields =>
      rw [writeFields_cons_append]
      exact endsNumber_comma _

/-- A value at a level is read back with some fuel, whatever follows it. -/
def ReadsBack (style : Style) (fuel level : Nat) (v : Json) : Prop :=
  ∀ rest, EndsNumber rest → readValue fuel (write style level v ++ rest) = .ok (v, rest)

theorem ReadsBack.head {fuel level : Nat} {v : Json} (h : ReadsBack style fuel level v)
    {rest : List Char} (hrest : EndsNumber rest) :
    ∃ c cs, write style level v ++ rest = c :: cs ∧ isGap c = false ∧ c ≠ ']' ∧ c ≠ '\x7d' :=
  isGap_head_of_readValue (h rest hrest)

theorem ReadsBack.skipGap {fuel level : Nat} {v : Json} (h : ReadsBack style fuel level v)
    {rest : List Char} (hrest : EndsNumber rest) :
    skipGap (write style level v ++ rest) = write style level v ++ rest := by
  obtain ⟨c, cs, heq, hgap, -, -⟩ := h.head hrest
  rw [heq]
  exact skipGap_of_head hgap cs

theorem readItems_writeItems {level : Nat} {tail rest : List Char} (hends : EndsNumber tail)
    (htail : Json.skipGap tail = ']' :: rest) (v : Json) (vs : List Json) {fuel : Nat}
    (hread : ∀ w ∈ v :: vs, ∀ f < fuel, (write style level w).length < f → ReadsBack style f level w)
    (hfuel : (write style level v).length + (writeItems style level vs).length + 1 < fuel) :
    readItems fuel (write style level v ++ (writeItems style level vs ++ tail)) =
      .ok (v :: vs, rest) := by
  induction vs generalizing v fuel with
  | nil =>
      obtain ⟨fuel, rfl⟩ := Nat.exists_eq_succ_of_ne_zero (by omega : fuel ≠ 0)
      have hv := hread v List.mem_cons_self fuel (Nat.lt_succ_self fuel) (by omega) tail hends
      simp only [writeItems, List.nil_append]
      simp only [readItems, hv, htail]
  | cons w vs ih =>
      obtain ⟨fuel, rfl⟩ := Nat.exists_eq_succ_of_ne_zero (by omega : fuel ≠ 0)
      have hlength := congrArg List.length (writeItems_cons_append style level w vs [])
      simp only [List.append_nil, List.length_cons, List.length_append] at hlength
      have hv := hread v List.mem_cons_self fuel (Nat.lt_succ_self fuel) (by omega) _
        (endsNumber_writeItems_append style level (w :: vs) hends)
      have hw := hread w (by simp) fuel (Nat.lt_succ_self fuel) (by omega)
      have hrest := ih w (fun x hx f hf => hread x (List.mem_cons_of_mem v hx) f (by omega))
        (by omega : _ < fuel)
      have hskip := hw.skipGap (endsNumber_writeItems_append style level vs hends)
      rw [writeItems_cons_append] at hv ⊢
      rw [readItems.eq_def]
      simp only [hv, skipGap_of_head (show isGap ',' = false from rfl), skipGap_gap_append,
        skipGap_lead_append, hskip,
        hrest]

theorem readPairs_writeFields {level : Nat} {tail rest : List Char} (hends : EndsNumber tail)
    (htail : skipGap tail = '\x7d' :: rest) (p : String × Json) (fields : Fields) {fuel : Nat}
    (hread : ∀ q ∈ p :: fields, ∀ f < fuel, (write style level q.2).length < f →
      ReadsBack style f level q.2)
    (hfuel : (write style level p.2).length + (writeFields style level fields).length + 1 < fuel) :
    readPairs fuel (writeString style.ascii p.1 ++ ':' :: ' ' ::
        (write style level p.2 ++ (writeFields style level fields ++ tail))) =
      .ok (p :: fields, rest) := by
  induction fields generalizing p fuel with
  | nil =>
      obtain ⟨fuel, rfl⟩ := Nat.exists_eq_succ_of_ne_zero (by omega : fuel ≠ 0)
      obtain ⟨k, v⟩ := p
      have hv := hread (k, v) List.mem_cons_self fuel (Nat.lt_succ_self fuel) (by omega)
      have hkey := readString_writeString style.ascii k (':' :: ' ' :: (write style level v ++ tail))
      have hskip := hv.skipGap hends
      have hvalue := hv tail hends
      simp only [writeFields, List.nil_append, writeString, List.cons_append, List.append_assoc]
      simp only [readPairs, hkey, skipGap_of_head (show isGap ':' = false from rfl),
        skipGap_of_isGap (show isGap ' ' = true from rfl), hskip, hvalue, htail]
  | cons q fields ih =>
      obtain ⟨fuel, rfl⟩ := Nat.exists_eq_succ_of_ne_zero (by omega : fuel ≠ 0)
      obtain ⟨k, v⟩ := p
      have hlength := congrArg List.length (writeFields_cons_append style level q fields [])
      simp only [List.append_nil, List.length_cons, List.length_append] at hlength
      have hends' := endsNumber_writeFields_append style level (q :: fields) hends
      have hv := hread (k, v) List.mem_cons_self fuel (Nat.lt_succ_self fuel) (by omega)
      have hrest := ih q (fun x hx f hf => hread x (List.mem_cons_of_mem _ hx) f (by omega))
        (by omega : _ < fuel)
      have hkey := readString_writeString style.ascii k
        (':' :: ' ' :: (write style level v ++ (writeFields style level (q :: fields) ++ tail)))
      have hskip := hv.skipGap hends'
      have hvalue := hv _ hends'
      have hquote := skipGap_writeString style.ascii q.1 (':' :: ' ' ::
        (write style level q.2 ++ (writeFields style level fields ++ tail)))
      simp only [writeString, List.cons_append, List.append_assoc, List.nil_append] at hrest hquote ⊢
      rw [readPairs.eq_def]
      simp only [hkey, skipGap_of_head (show isGap ':' = false from rfl),
        skipGap_of_isGap (show isGap ' ' = true from rfl), hskip, hvalue]
      rw [writeFields_cons_append]
      simp only [skipGap_of_head (show isGap ',' = false from rfl), skipGap_gap_append,
        skipGap_lead_append, writeString,
        List.cons_append, List.append_assoc, List.nil_append, hquote, hrest]

/-- A list is read back if its items are. -/
theorem readsBack_arr {fuel level : Nat} {items : List Json}
    (hread : ∀ w ∈ items, ∀ f ≤ fuel, (write style (level + 1) w).length < f →
      ReadsBack style f (level + 1) w)
    (hlength : (write style level (.arr items)).length ≤ fuel) :
    ReadsBack style (fuel + 1) level (.arr items) := by
  intro rest hrest
  cases items with
  | nil => simp [write, readValue, skipGap, isGap]
  | cons v vs =>
      have htext := write_arr_cons_append style level v vs
      have hsize := congrArg List.length (htext [])
      simp only [List.append_nil, List.length_cons, List.length_append] at hsize
      have hends : EndsNumber (style.lead level ++ ']' :: rest) :=
        endsNumber_lead_append level (endsNumber_cons (by decide) rest)
      have htail : skipGap (style.lead level ++ ']' :: rest) = ']' :: rest :=
        skipGap_lead_append level _
      have hroom : (write style (level + 1) v).length +
          (writeItems style (level + 1) vs).length + 1 < fuel := by omega
      have hitems := readItems_writeItems hends htail v vs
        (fun w hw f hf => hread w hw f hf.le) hroom
      have hv := hread v List.mem_cons_self fuel le_rfl (by omega)
      have hends' := endsNumber_writeItems_append style (level + 1) vs hends
      obtain ⟨c, cs, hhead, -, hbracket, -⟩ := hv.head hends'
      have hskip := hv.skipGap hends'
      rw [htext, readValue.eq_def]
      simp only [skipGap_lead_append, hskip]
      rw [hhead] at hitems ⊢
      simp [hbracket, hitems]

/-- An object with each key once is read back if its values are. -/
theorem readsBack_obj {fuel level : Nat} {fields : Fields} (hkeys : (Fields.keys fields).Nodup)
    (hread : ∀ q ∈ fields, ∀ f ≤ fuel, (write style (level + 1) q.2).length < f →
      ReadsBack style f (level + 1) q.2)
    (hlength : (write style level (.obj fields)).length ≤ fuel) :
    ReadsBack style (fuel + 1) level (.obj fields) := by
  intro rest hrest
  cases fields with
  | nil => simp [write, readValue, skipGap, isGap]
  | cons p fields =>
      have htext := write_obj_cons_append style level p fields
      have hsize := congrArg List.length (htext [])
      simp only [List.append_nil, List.length_cons, List.length_append] at hsize
      have hends : EndsNumber (style.lead level ++ '\x7d' :: rest) :=
        endsNumber_lead_append level (endsNumber_cons (by decide) rest)
      have htail : skipGap (style.lead level ++ '\x7d' :: rest) = '\x7d' :: rest :=
        skipGap_lead_append level _
      have hroom : (write style (level + 1) p.2).length +
          (writeFields style (level + 1) fields).length + 1 < fuel := by omega
      have hpairs := readPairs_writeFields hends htail p fields
        (fun q hq f hf => hread q hq f hf.le) hroom
      have hskip := skipGap_writeString style.ascii p.1 (':' :: ' ' ::
        (write style (level + 1) p.2 ++ (writeFields style (level + 1) fields ++
          (style.lead level ++ '\x7d' :: rest))))
      rw [htext, readValue.eq_def]
      simp only [skipGap_lead_append, hskip]
      simp only [writeString, List.cons_append, List.append_assoc, List.nil_append] at hpairs ⊢
      simp [hpairs, Fields.ofPairs_of_nodup hkeys]

/-- A portable value is read back from its written form, with more fuel than it has characters: by
induction on the fuel. -/
theorem readsBack_of_portable (fuel : Nat) :
    ∀ v : Json, v.Portable → ∀ level, (write style level v).length < fuel →
      ReadsBack style fuel level v := by
  induction fuel using Nat.strongRecOn with
  | ind fuel ih =>
      intro v hv level hlength
      obtain ⟨fuel, rfl⟩ := Nat.exists_eq_succ_of_ne_zero (by omega : fuel ≠ 0)
      cases v with
      | null =>
          intro rest hrest
          simp [write, readValue, dropWord, List.isPrefixOf]
      | bool b =>
          intro rest hrest
          cases b <;> simp [write, readValue, dropWord, List.isPrefixOf]
      | int n =>
          intro rest hrest
          have hn := hv.writable
          simp only [isWritable, decide_eq_true_eq] at hn
          rw [write]
          exact readValue_decimalInt hn hrest fuel
      | float x =>
          intro rest hrest
          rw [write]
          exact readValue_float x hrest fuel
      | str s =>
          intro rest hrest
          rw [write]
          exact readValue_writeString s rest fuel
      | arr items =>
          apply readsBack_arr _ (Nat.le_of_lt_succ hlength)
          intro w hw f hf
          exact ih f (Nat.lt_succ_of_le hf) w (hv.items w hw) (level + 1)
      | obj fields =>
          apply readsBack_obj (distinct_obj.mp hv.distinct).1 _ (Nat.le_of_lt_succ hlength)
          intro q hq f hf
          exact ih f (Nat.lt_succ_of_le hf) q.2 (hv.fields q hq) (level + 1)

/-- A portable document is read back from its text, however it is laid out, with blanks after it. -/
theorem read_render_append {v : Json} (hv : v.Portable) (style : Style) {blanks : String}
    (hblanks : skipGap blanks.toList = []) : read (v.render style ++ blanks) = .ok v := by
  have htext : (v.render style ++ blanks).toList = write style 0 v ++ blanks.toList := by
    simp [render]
  have hends : EndsNumber blanks.toList := by
    intro c hc
    have hgap : isGap c = true := by
      rw [skipGap, List.dropWhile_eq_nil_iff] at hblanks
      exact hblanks c (List.mem_of_mem_head? hc)
    simp only [isGap, Bool.or_eq_true, beq_iff_eq] at hgap
    rcases hgap with ((rfl | rfl) | rfl) | rfl <;> decide
  have hback : ReadsBack style ((write style 0 v ++ blanks.toList).length + 1) 0 v := by
    apply readsBack_of_portable _ v hv
    rw [List.length_append]
    omega
  rw [read, htext, hback.skipGap hends, hback _ hends]
  simp only [hblanks]

/-- A portable document is read back from the text of its file. -/
theorem read_render {v : Json} (hv : v.Portable) : read (v.render .file ++ "\n") = .ok v :=
  read_render_append hv .file rfl

end EdgeProxy.Json
