import EdgeProxy.Proofs.Registry.WellFormed
/-!
Reading a written registry.  Each record is read back from the fields it was written as, from the
endpoints up to the registry itself.
-/

namespace EdgeProxy

namespace Scalar

theorem text_str (s : String) : text (.str s) = .valid s := rfl

theorem flag_bool (b : Bool) : flag (.bool b) = .valid b := rfl

theorem integer_int (n : Int) : integer (.int n) = .valid n := rfl

theorem optionalText_ofText? (s : Option String) : optionalText (.ofText? s) = .valid s := by
  cases s <;> rfl

end Scalar

theorem Port.ofInt?_number (p : Port) : Port.ofInt? p.number = some p := by
  have hpositive := p.positive
  have hbounded := p.bounded
  simp [ofInt?, hpositive, hbounded]

theorem Port.decode_number (p : Port) : Port.decode (.int p.number) = .valid p := by
  simp [Port.decode, Scalar.integer, Checked.andThen, Port.ofInt?_number]

theorem Backend.decode_encode {b : Backend} {fields : Fields}
    (hfields : ∀ p ∈ b.encode, fields.get? p.1 = some p.2) : Backend.decode fields = .valid b := by
  simp only [Backend.encode, List.forall_mem_cons] at hfields
  obtain ⟨hhost, hport, hlocal, hauth, -⟩ := hfields
  rw [Backend.decode, required_of_get? hhost (Scalar.text_str _),
    required_of_get? hport b.targetPort.decode_number,
    orElse_of_get? hlocal (Scalar.flag_bool _), orElse_of_get? hauth (Scalar.flag_bool _)]
  rfl

theorem Endpoint.decode_encode {e : Endpoint} (h : e.WellFormed) :
    Scalar.record Endpoint.decode e.encode = .valid e.stored := by
  have hfields : ∀ p ∈ e.toBackend.encode,
      Fields.get? (e.toBackend.encode ++ kept e.extra) p.1 = some p.2 := by
    intro p hp
    apply get?_append_of_some
    simp only [Backend.encode, List.mem_cons, List.not_mem_nil, or_false] at hp
    rcases hp with rfl | rfl | rfl | rfl <;> rfl
  have hothers : Field.others Field.backend (e.toBackend.encode ++ kept e.extra) = kept e.extra :=
    others_append h.kept rfl
  rw [Endpoint.encode, Scalar.record, Endpoint.decode, Backend.decode_encode hfields, hothers]
  rfl

theorem Api.decode_encode {a : Api} (h : a.WellFormed) :
    Scalar.record Api.decode a.encode = .valid a.stored := by
  set known := a.toBackend.encode ++ [(Field.slug.name, Json.str a.slug)] with hknown
  have hfields : ∀ p ∈ a.toBackend.encode, Fields.get? (known ++ kept a.extra) p.1 = some p.2 := by
    intro p hp
    apply get?_append_of_some
    simp only [Backend.encode, List.mem_cons, List.not_mem_nil, or_false] at hp
    rcases hp with rfl | rfl | rfl | rfl <;> rfl
  have hslug : Fields.get? (known ++ kept a.extra) Field.slug.name = some (.str a.slug) :=
    get?_append_of_some rfl
  have hothers : Field.others Field.api (known ++ kept a.extra) = kept a.extra :=
    others_append h.kept rfl
  rw [Api.encode, Scalar.record, Api.decode, Backend.decode_encode hfields,
    orElse_of_get? hslug (Scalar.text_str _), hothers]
  rfl

theorem EndpointSet.decode_encode {s : EndpointSet} (h : s.WellFormed) :
    Scalar.record EndpointSet.decode s.encode = .valid s.stored := by
  set known : Fields := [(Field.frontend.name, (s.frontend.map Endpoint.encode).getD .null),
    (Field.apis.name, .arr (s.apis.map Api.encode))] with hknown
  have hfrontend : Scalar.optional (Scalar.record Endpoint.decode)
      ((s.frontend.map Endpoint.encode).getD .null) = .valid (s.frontend.map Endpoint.stored) := by
    cases hcase : s.frontend with
    | none => rfl
    | some e =>
        have he := Endpoint.decode_encode (h.frontend e hcase)
        simp only [Option.map_some, Option.getD_some]
        rw [Scalar.optional, he]
        · rfl
        · intro hnull
          simp [Endpoint.encode] at hnull
  have hapis : Scalar.list (Scalar.record Api.decode) (.arr (s.apis.map Api.encode)) =
      .valid (s.apis.map Api.stored) :=
    Checked.items_valid (fun a ha => Api.decode_encode (h.apis a ha)) 0
  have hothers : Field.others Field.endpointSet (known ++ kept s.extra) = kept s.extra :=
    others_append h.extra.kept rfl
  rw [EndpointSet.encode, Scalar.record, EndpointSet.decode,
    orElse_of_get? (get?_append_of_some rfl) hfrontend,
    orElse_of_get? (get?_append_of_some rfl) hapis, hothers]
  rfl

theorem Environment.decode_encode {e : Environment} (h : e.WellFormed) :
    Scalar.record Environment.decode e.encode = .valid e.stored := by
  rw [Environment.encode, Scalar.record, Environment.decode,
    required_of_get? (get?_append_of_some rfl) (Scalar.text_str _),
    required_of_get? (get?_append_of_some rfl) (Scalar.text_str _),
    orElse_of_get? (get?_append_of_some rfl) (Scalar.text_str _),
    orElse_of_get? (get?_append_of_some rfl) (Scalar.text_str _),
    orElse_of_get? (get?_append_of_some rfl) (Scalar.flag_bool _),
    others_append h.kept rfl]
  rfl

theorem EndpointSet.decode_encode_map {sets : List (String × EndpointSet)}
    (h : ∀ p ∈ sets, p.2.WellFormed) :
    Scalar.map (Scalar.record EndpointSet.decode) (.obj (sets.map fun (k, s) => (k, s.encode))) =
      .valid (sets.map fun (k, s) => (k, s.stored)) :=
  Checked.entries_valid fun p hp => EndpointSet.decode_encode (h p hp)

theorem Application.decode_encode {a : Application} (h : a.WellFormed) :
    Scalar.record Application.decode a.encode = .valid a.stored := by
  rw [Application.encode, Scalar.record, Application.decode,
    required_of_get? (get?_append_of_some rfl) (Scalar.text_str _),
    orElse_of_get? (get?_append_of_some rfl) (Scalar.text_str _),
    required_of_get? (get?_append_of_some rfl) (Scalar.text_str _),
    orElse_of_get? (get?_append_of_some rfl) (Scalar.flag_bool _),
    required_of_get? (get?_append_of_some rfl) (Scalar.text_str _),
    orElse_of_get? (get?_append_of_some rfl) (EndpointSet.decode_encode_map h.endpoints),
    others_append h.extra.kept rfl]
  rfl

theorem Host.decode_encode {h : Host} (hwell : h.WellFormed) :
    Scalar.record Host.decode h.encode = .valid h.stored := by
  set known := [(Field.id.name, Json.str h.id), (Field.subdomain.name, .ofText? h.subdomain),
    (Field.customDomain.name, .ofText? h.customDomain)] ++ h.toBackend.encode ++
    [(Field.enabled.name, .bool h.enabled), (Field.createdAt.name, .str h.createdAt)] with hknown
  have hfields : ∀ p ∈ h.toBackend.encode, Fields.get? (known ++ kept h.extra) p.1 = some p.2 := by
    intro p hp
    apply get?_append_of_some
    simp only [Backend.encode, List.mem_cons, List.not_mem_nil, or_false] at hp
    rcases hp with rfl | rfl | rfl | rfl <;> rfl
  rw [Host.encode, Scalar.record, Host.decode,
    required_of_get? (get?_append_of_some rfl) (Scalar.text_str _),
    orElse_of_get? (get?_append_of_some rfl) (Scalar.optionalText_ofText? _),
    orElse_of_get? (get?_append_of_some rfl) (Scalar.optionalText_ofText? _),
    Backend.decode_encode hfields,
    orElse_of_get? (get?_append_of_some rfl) (Scalar.flag_bool _),
    required_of_get? (get?_append_of_some rfl) (Scalar.text_str _),
    others_append hwell.kept rfl]
  rfl

theorem WildcardProvider.decode_encode {p : WildcardProvider} (h : p.WellFormed) :
    Scalar.record WildcardProvider.decode p.encode = .valid p.stored := by
  have hdomains : Scalar.list Scalar.text (.texts p.domains) = .valid p.domains := by
    have hitems : Checked.items Scalar.text 0 (p.domains.map Json.str) =
        .valid (p.domains.map id) := Checked.items_valid (fun s _ => Scalar.text_str s) 0
    rwa [List.map_id] at hitems
  rw [WildcardProvider.encode, WildcardProvider.encodeFields, Scalar.record,
    WildcardProvider.decode,
    orElse_of_get? (get?_append_of_some rfl) (Scalar.flag_bool _),
    orElse_of_get? (get?_append_of_some rfl) hdomains,
    others_append h.kept rfl]
  rfl

/-- A well-formed registry is read back from its fields, numbers that are not finite apart. -/
theorem Registry.decode_encodeFields {r : Registry} (h : r.WellFormed) :
    Registry.decode r.encodeFields = .valid r.stored := by
  have henvironments : Scalar.list (Scalar.record Environment.decode)
      (.arr (r.environments.map Environment.encode)) =
        .valid (r.environments.map Environment.stored) :=
    Checked.items_valid (fun e he => Environment.decode_encode (h.environments e he)) 0
  have happlications : Scalar.list (Scalar.record Application.decode)
      (.arr (r.applications.map Application.encode)) =
        .valid (r.applications.map Application.stored) :=
    Checked.items_valid (fun a ha => Application.decode_encode (h.applications a ha)) 0
  have hhosts : Scalar.list (Scalar.record Host.decode) (.arr (r.hosts.map Host.encode)) =
      .valid (r.hosts.map Host.stored) :=
    Checked.items_valid (fun a ha => Host.decode_encode (h.hosts a ha)) 0
  rw [Registry.encodeFields, Registry.decode,
    orElse_of_get? (get?_append_of_some rfl) (Scalar.integer_int _),
    orElse_of_get? (get?_append_of_some rfl) (Scalar.integer_int _),
    orElse_of_get? (get?_append_of_some rfl) (Scalar.text_str _),
    orElse_of_get? (get?_append_of_some rfl) henvironments,
    orElse_of_get? (get?_append_of_some rfl) happlications,
    orElse_of_get? (get?_append_of_some rfl) hhosts,
    orElse_of_get? (get?_append_of_some rfl) (WildcardProvider.decode_encode h.provider),
    others_append h.extra.kept rfl]
  rfl

theorem distinct_ofText? (s : Option String) : (Json.ofText? s).Distinct := by
  cases s <;> trivial

theorem distinct_map_arr {α : Type} {write : α → Json} {l : List α}
    (h : ∀ a ∈ l, (write a).Distinct) : (Json.arr (l.map write)).Distinct := by
  rw [Json.distinct_arr]
  intro v hv
  obtain ⟨a, ha, rfl⟩ := List.mem_map.mp hv
  exact h a ha

theorem Backend.distinct_values (b : Backend) : ∀ p ∈ b.encode, p.2.Distinct := by
  simp only [Backend.encode, List.forall_mem_cons]
  exact ⟨trivial, trivial, trivial, trivial, by simp⟩

theorem Endpoint.distinct_encode {e : Endpoint} (h : e.WellFormed) : e.encode.Distinct :=
  distinct_append h.kept rfl (by decide) e.toBackend.distinct_values

theorem Api.distinct_encode {a : Api} (h : a.WellFormed) : a.encode.Distinct := by
  apply distinct_append h.kept rfl (by decide)
  rw [List.forall_mem_append]
  exact ⟨a.toBackend.distinct_values, by simp [Json.Distinct]⟩

theorem EndpointSet.distinct_encode {s : EndpointSet} (h : s.WellFormed) : s.encode.Distinct := by
  apply distinct_append h.extra.kept rfl (by decide)
  have hfrontend : ((s.frontend.map Endpoint.encode).getD .null).Distinct := by
    cases hcase : s.frontend with
    | none => trivial
    | some e => exact Endpoint.distinct_encode (h.frontend e hcase)
  have hapis : (Json.arr (s.apis.map Api.encode)).Distinct :=
    distinct_map_arr fun a ha => Api.distinct_encode (h.apis a ha)
  simp only [List.forall_mem_cons]
  exact ⟨hfrontend, hapis, by simp⟩

theorem Environment.distinct_encode {e : Environment} (h : e.WellFormed) : e.encode.Distinct := by
  apply distinct_append h.kept rfl (by decide)
  simp only [List.forall_mem_cons]
  exact ⟨trivial, trivial, trivial, trivial, trivial, by simp⟩

theorem EndpointSet.keys_encode_map (sets : List (String × EndpointSet)) :
    Fields.keys (sets.map fun (k, s) => (k, s.encode)) = sets.map Prod.fst := by
  rw [Fields.keys, List.map_map]
  rfl

theorem EndpointSet.distinct_encode_map {sets : List (String × EndpointSet)}
    (hkeys : (sets.map Prod.fst).Nodup) (h : ∀ p ∈ sets, p.2.WellFormed) :
    (Json.obj (sets.map fun (k, s) => (k, s.encode))).Distinct := by
  rw [Json.distinct_obj, EndpointSet.keys_encode_map]
  refine ⟨hkeys, ?_⟩
  intro p hp
  obtain ⟨q, hq, rfl⟩ := List.mem_map.mp hp
  exact EndpointSet.distinct_encode (h q hq)

theorem Application.distinct_encode {a : Application} (h : a.WellFormed) : a.encode.Distinct := by
  apply distinct_append h.extra.kept rfl (by decide)
  simp only [List.forall_mem_cons]
  exact ⟨trivial, trivial, trivial, trivial, trivial,
    EndpointSet.distinct_encode_map h.environments h.endpoints, by simp⟩

theorem Host.distinct_encode {h : Host} (hwell : h.WellFormed) : h.encode.Distinct := by
  apply distinct_append hwell.kept rfl (by decide)
  rw [List.forall_mem_append, List.forall_mem_append]
  simp only [List.forall_mem_cons]
  exact ⟨⟨⟨trivial, distinct_ofText? _, distinct_ofText? _, by simp⟩,
    h.toBackend.distinct_values⟩, trivial, trivial, by simp⟩

theorem WildcardProvider.distinct_encode {p : WildcardProvider} (h : p.WellFormed) :
    p.encode.Distinct := by
  apply distinct_append h.kept rfl (by decide)
  have hdomains : (Json.texts p.domains).Distinct := distinct_map_arr fun _ _ => trivial
  simp only [List.forall_mem_cons]
  exact ⟨trivial, hdomains, by simp⟩

/-- A well-formed registry is written with each key once. -/
theorem Registry.distinct_encode {r : Registry} (h : r.WellFormed) : r.encode.Distinct := by
  apply distinct_append h.extra.kept rfl (by decide)
  simp only [List.forall_mem_cons]
  exact ⟨trivial, trivial, trivial,
    distinct_map_arr fun e he => Environment.distinct_encode (h.environments e he),
    distinct_map_arr fun a ha => Application.distinct_encode (h.applications a ha),
    distinct_map_arr fun g hg => Host.distinct_encode (h.hosts g hg),
    WildcardProvider.distinct_encode h.provider, by simp⟩

end EdgeProxy
