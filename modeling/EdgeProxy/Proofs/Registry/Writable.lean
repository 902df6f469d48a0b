import EdgeProxy.Proofs.Json.Writable
import EdgeProxy.Proofs.Store.Load
/-!
When a registry can be written: what its records keep can be, and its version has not too many digits.  What
is kept of a document that was read can always be written.
-/

namespace EdgeProxy

/-- Fields that can be written. -/
def Writable (_ : List FieldName) (extra : Fields) : Prop := Json.writableFields extra = true

theorem writable_nil (names : List FieldName) : Writable names [] := rfl

theorem Writable.kept {names : List FieldName} {extra : Fields} (h : Writable names extra) :
    Json.writableFields (kept extra) = true := by
  rw [EdgeProxy.kept, Json.writableFields_finiteFields]
  exact h

/-- What is left of fields that can be written can be written. -/
theorem writable_others (names : List FieldName) {fields : Fields}
    (h : (Json.obj fields).Portable) : Writable names (Field.others names fields) := by
  have hrest := (Json.hereditary_portable.drop h (names.filterMap (·.spelling? fields))).writable
  rwa [Json.isWritable_obj] at hrest

/-- A record can be written if its known fields can be and what it keeps can be. -/
theorem isWritable_record {names : List FieldName} {known extra : Fields}
    (hknown : Json.writableFields known = true) (hextra : Writable names extra) :
    (Json.obj (known ++ kept extra)).isWritable = true := by
  rw [Json.isWritable_obj, Json.writableFields_append]
  exact ⟨hknown, hextra.kept⟩

theorem isWritable_ofText? (s : Option String) : (Json.ofText? s).isWritable = true := by
  rcases s with _ | s
  · exact Json.isWritable_null
  · exact Json.isWritable_str s

theorem isWritable_map {α : Type} {encode : α → Json} {l : List α}
    (h : ∀ a ∈ l, (encode a).isWritable = true) : (Json.arr (l.map encode)).isWritable = true := by
  rw [Json.isWritable_arr, Json.writableItems_iff, List.forall_mem_map]
  exact h

/-- A port has five digits at most. -/
theorem Backend.writableFields_encode (b : Backend) : Json.writableFields b.encode = true := by
  have hport : (Json.int b.targetPort.number).isWritable = true := by
    have hbound := b.targetPort.bounded
    apply Json.isWritable_small
    omega
  simp [encode, Json.writableFields, Json.isWritable_str, Json.isWritable_bool, hport]

theorem Endpoint.isWritable_encode {e : Endpoint} (h : e.Keeping Writable) :
    e.encode.isWritable = true :=
  isWritable_record e.toBackend.writableFields_encode h

theorem Api.isWritable_encode {a : Api} (h : a.Keeping Writable) : a.encode.isWritable = true := by
  refine isWritable_record ?_ h
  rw [Json.writableFields_append]
  refine ⟨a.toBackend.writableFields_encode, ?_⟩
  simp [Json.writableFields, Json.isWritable_str]

theorem EndpointSet.isWritable_encode {s : EndpointSet} (h : s.Keeping Writable) :
    s.encode.isWritable = true := by
  have hfrontend : ((s.frontend.map Endpoint.encode).getD .null).isWritable = true := by
    rcases hs : s.frontend with _ | e
    · exact Json.isWritable_null
    · exact Endpoint.isWritable_encode (h.frontend e hs)
  have hapis := isWritable_map fun a ha => Api.isWritable_encode (h.apis a ha)
  refine isWritable_record ?_ h.extra
  simp [Json.writableFields, hfrontend, hapis]

theorem Environment.isWritable_encode {e : Environment} (h : e.Keeping Writable) :
    e.encode.isWritable = true := by
  refine isWritable_record ?_ h
  simp [Json.writableFields, Json.isWritable_str, Json.isWritable_bool]

theorem EndpointSet.isWritable_encode_map {sets : List (String × EndpointSet)}
    (h : ∀ p ∈ sets, p.2.Keeping Writable) :
    (Json.obj (sets.map fun (k, s) => (k, s.encode))).isWritable = true := by
  rw [Json.isWritable_obj, Json.writableFields_iff, List.forall_mem_map]
  exact fun p hp => EndpointSet.isWritable_encode (h p hp)

theorem Application.isWritable_encode {a : Application} (h : a.Keeping Writable) :
    a.encode.isWritable = true := by
  have hsets := EndpointSet.isWritable_encode_map h.endpoints
  refine isWritable_record ?_ h.extra
  simp [Json.writableFields, Json.isWritable_str, Json.isWritable_bool, hsets]

theorem Host.isWritable_encode {h : Host} (hkeeping : h.Keeping Writable) :
    h.encode.isWritable = true := by
  refine isWritable_record ?_ hkeeping
  rw [Json.writableFields_append, Json.writableFields_append]
  refine ⟨⟨?_, h.toBackend.writableFields_encode⟩, ?_⟩
  · simp [Json.writableFields, Json.isWritable_str, isWritable_ofText?]
  · simp [Json.writableFields, Json.isWritable_str, Json.isWritable_bool]

theorem WildcardProvider.isWritable_encode {p : WildcardProvider} (h : p.Keeping Writable) :
    p.encode.isWritable = true := by
  have hdomains : (Json.texts p.domains).isWritable = true :=
    isWritable_map fun s _ => Json.isWritable_str s
  refine isWritable_record ?_ h
  simp [Json.writableFields, Json.isWritable_bool, hdomains]

namespace Registry

/-- A well-formed registry whose records keep what can be written can be written exactly if its version
can. -/
theorem isWritable_encode_iff {r : Registry} (hwell : r.WellFormed) (h : r.Keeping Writable) :
    r.encode.isWritable = true ↔ (Json.int r.version).isWritable = true := by
  have hschema : (Json.int r.schemaVersion).isWritable = true := by
    rw [hwell.schema]
    exact Json.isWritable_small (by decide)
  have henvironments := isWritable_map fun e he => Environment.isWritable_encode (h.environments e he)
  have happlications := isWritable_map fun a ha => Application.isWritable_encode (h.applications a ha)
  have hhosts := isWritable_map fun a ha => Host.isWritable_encode (h.hosts a ha)
  rw [encode, encodeFields, Json.isWritable_obj, Json.writableFields_append]
  simp [Json.writableFields, hschema, Json.isWritable_str, henvironments, happlications, hhosts,
    WildcardProvider.isWritable_encode h.provider, h.extra.kept]

end Registry

namespace Store

/-- What is kept of a document that was read can be written. -/
theorem writable_of_load {supply left : Supply} {files : Files} {path : Path} {r : Registry}
    (h : load supply files path = (.ok r, left)) : r.Keeping Writable := by
  rcases load_eq_ok.mp h with ⟨-, rfl, -⟩ | ⟨doc, current, hdoc, hup, -, hdecode, -⟩
  · exact Registry.initial_keeping writable_nil
  · obtain ⟨text, hread⟩ := read_of_document hdoc
    have hclean := (clean_of_upgrade Json.hereditary_portable supply (Json.portable_of_read hread) hup).1
    exact Registry.keeping_of_decode Json.hereditary_portable
      (fun names fields => writable_others names) writable_nil hclean.values hdecode

end Store

end EdgeProxy
