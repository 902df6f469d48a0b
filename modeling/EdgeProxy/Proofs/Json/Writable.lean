import EdgeProxy.Proofs.Json.Finite
import EdgeProxy.Proofs.Json.RoundTrip
/-!
Values that can be written.  What is read can be written again: an integer that is too long to be written is
too long to be read.
-/

namespace EdgeProxy

namespace Text

/-- A number has no more digits than it is written with. -/
theorem ofDigits_lt {ds : List Nat} (h : ∀ d ∈ ds, d < 10) : ofDigits ds < tenTo ds.length := by
  induction ds using List.reverseRecOn with
  | nil => exact tenTo_pos 0
  | append_singleton ds d ih =>
      have hrest : ofDigits ds < tenTo ds.length := ih fun e he => h e (by simp [he])
      have hlast : d < 10 := h d (by simp)
      rw [ofDigits_append_singleton, List.length_append, List.length_singleton, tenTo_succ]
      omega

theorem asciiDigit?_lt {c : Char} {d : Nat} (h : asciiDigit? c = some d) : d < 10 := by
  rw [asciiDigit?] at h
  split at h
  next hdigit =>
    simp only [Bool.and_eq_true, decide_eq_true_eq, Char.le_def, UInt32.le_iff_toNat_le] at hdigit
    have hzero : '0'.val.toNat = 48 := rfl
    have hnine : '9'.val.toNat = 57 := rfl
    have hval : c.toNat = c.val.toNat := rfl
    have hsub : c.toNat - '0'.toNat = d := Option.some.inj h
    have hbase : '0'.toNat = 48 := rfl
    omega
  · cases h

end Text

namespace Json

theorem isWritable_int_iff {n : Int} :
    (int n).isWritable = true ↔ n.natAbs < tenTo Text.maxIntegerDigits := by
  simp only [isWritable, decide_eq_true_eq]

theorem isWritable_float (x : Binary64) : (float x).isWritable = true := by
  rw [isWritable] <;> simp

/-- An integer of few digits can be written. -/
theorem isWritable_small {n : Int} (h : n.natAbs < 100000) : (int n).isWritable = true := by
  have hbound : tenTo 5 ≤ tenTo Text.maxIntegerDigits := Text.tenTo_le_tenTo (by decide)
  have hfive : tenTo 5 = 100000 := rfl
  rw [isWritable_int_iff]
  omega

theorem writableFields_append (a b : Fields) :
    writableFields (a ++ b) = true ↔ writableFields a = true ∧ writableFields b = true := by
  simp only [writableFields_iff, List.forall_mem_append]

theorem hereditary_portable : Hereditary Portable where
  of_null := ⟨trivial, isWritable_null⟩
  of_bool b := ⟨trivial, isWritable_bool b⟩
  of_int n h := ⟨trivial, isWritable_small (by omega)⟩
  of_str s := ⟨trivial, isWritable_str s⟩
  arr_iff := by
    intro items
    refine ⟨Portable.items, fun h => ⟨distinct_arr.mpr fun v hv => (h v hv).distinct, ?_⟩⟩
    rw [isWritable_arr, writableItems_iff]
    exact fun v hv => (h v hv).writable
  obj_iff := by
    intro fields
    refine ⟨fun h => ⟨(distinct_obj.mp h.distinct).1, h.fields⟩, ?_⟩
    rintro ⟨hkeys, h⟩
    refine ⟨distinct_obj.mpr ⟨hkeys, fun p hp => (h p hp).distinct⟩, ?_⟩
    rw [isWritable_obj, writableFields_iff]
    exact fun p hp => (h p hp).writable

theorem digitsValue_lt (cs : List Char) : digitsValue cs < tenTo cs.length := by
  have hlt : ∀ d ∈ cs.filterMap Text.asciiDigit?, d < 10 := by
    intro d hd
    obtain ⟨c, -, hc⟩ := List.mem_filterMap.mp hd
    exact Text.asciiDigit?_lt hc
  calc digitsValue cs < tenTo (cs.filterMap Text.asciiDigit?).length := Text.ofDigits_lt hlt
    _ ≤ tenTo cs.length := Text.tenTo_le_tenTo (List.length_filterMap_le _ _)

theorem ofNumbers_portable : OfNumbers Portable where
  of_magnitude h := by
    obtain ⟨whole, fraction, exponent, hnumber⟩ := numberOf_of_readMagnitude h
    refine ⟨ofNumbers_distinct.of_magnitude h, ?_⟩
    rcases numberOf_eq_ok hnumber with ⟨n, rfl, hlength, hvalue⟩ | ⟨x, rfl⟩
    · rw [isWritable_int_iff, hvalue]
      exact Nat.lt_of_lt_of_le (digitsValue_lt whole) (Text.tenTo_le_tenTo hlength)
    · exact isWritable_float x
  of_infinite _ := ⟨trivial, isWritable_float _⟩
  of_nan := ⟨trivial, isWritable_float _⟩

/-- What is read can be written. -/
theorem portable_of_read {text : String} {v : Json} (h : read text = .ok v) : v.Portable :=
  of_read hereditary_portable ofNumbers_portable h

mutual
/-- What is left of a value without numbers that are not finite can be written exactly if the value
can. -/
theorem isWritable_finiteOnly : ∀ v : Json, v.finiteOnly.isWritable = v.isWritable
  | .float x => by
      rw [finiteOnly]
      split
      · rfl
      · rw [isWritable_null, isWritable_float]
  | .arr items => by
      rw [finiteOnly, isWritable_arr, isWritable_arr, writableItems_finiteItems]
  | .obj fields => by
      rw [finiteOnly, isWritable_obj, isWritable_obj, writableFields_finiteFields]
  | .null | .bool _ | .int _ | .str _ => congrArg isWritable rfl

theorem writableItems_finiteItems : ∀ items : List Json,
    writableItems (finiteItems items) = writableItems items
  | [] => rfl
  | v :: rest => by
      rw [finiteItems, writableItems, writableItems, isWritable_finiteOnly,
        writableItems_finiteItems]

theorem writableFields_finiteFields : ∀ fields : List (String × Json),
    writableFields (finiteFields fields) = writableFields fields
  | [] => rfl
  | (k, v) :: rest => by
      rw [finiteFields, writableFields, writableFields, isWritable_finiteOnly,
        writableFields_finiteFields]
end

end Json

end EdgeProxy
