import EdgeProxy.Proofs.Json.Writable
import EdgeProxy.Proofs.Registry.References
import EdgeProxy.Proofs.Registry.RoundTrip
import EdgeProxy.Proofs.Request.Names
import EdgeProxy.Proofs.Text.Trimmed
/-!
Values that requests read as they are shown.  What a name was read as is read as itself, a port is read from
its number, and endpoints that have no fields of their own are read from what is written of them, as long as
they have a target host.
-/

namespace EdgeProxy

/-- A backend that is read as it is shown, but that it needs a target host. -/
def Backend.Trimmed (b : Backend) : Prop := Text.Trimmed b.targetHost

/-- Endpoints as requests lead to them: trimmed, with the fields that are known and no others. -/
structure EndpointSet.Plain (s : EndpointSet) : Prop where
  frontend : ∀ e ∈ s.frontend, e.toBackend.Trimmed ∧ e.extra = []
  apis : ∀ a ∈ s.apis, a.toBackend.Trimmed ∧ a.extra = []
  extra : s.extra = []

/-- Every endpoint has a target host. -/
structure EndpointSet.Targeted (s : EndpointSet) : Prop where
  frontend : ∀ e ∈ s.frontend, e.targetHost ≠ ""
  apis : ∀ a ∈ s.apis, a.targetHost ≠ ""

namespace Request

section Names

/-- The labels of an environment are read as themselves. -/
theorem labels_self {v : Json} {field read : String} {allowEmpty : Bool}
    (h : labels v field allowEmpty = .ok read) : labels (.str read) field allowEmpty = .ok read := by
  rw [labels.eq_def] at h
  split at h
  next s =>
    dsimp only at h
    split at h
    · split at h
      next hallow =>
        cases h
        rw [hallow]
        rfl
      · exact absurd h not_reject
    next hne =>
      split at h
      next hformat =>
        obtain rfl := Except.ok.inj h
        have hname := Hostname.isName_of_isLabelsText hformat
        have htrimmed : Text.Trimmed (Text.lower (Text.trim s)) :=
          Text.trimmed_lower (Text.trimmed_trim s) hname
        rw [labels, htrimmed, Hostname.lower_of_isName hname, if_neg hne, if_pos hformat]
      · exact absurd h not_reject
  · exact absurd h not_reject

/-- A free label is read as itself. -/
theorem freeLabel_self {s : String} (h : Hostname.IsFreeLabel s) (format : Rejection)
    (reserved : String → Rejection) : freeLabel format reserved (.str s) = .ok s := by
  have hlabel : ¬ (!Hostname.isLabelText s) = true := by simp [h.label]
  have hfree : ¬ reservedLabels.contains s = true := by simpa using h.free
  rw [freeLabel, Hostname.lower_of_isName (Hostname.isName_of_isLabelText h.label), if_neg hlabel,
    if_neg hfree]

/-- A domain is read as itself. -/
theorem customDomain_self {s : String} (h : Hostname.isDomainText s = true) :
    customDomain (.str s) = .ok s := by
  rw [customDomain, Hostname.lower_of_isName (Hostname.isName_of_isDomainText h)]
  exact if_pos h

/-- A slug of an API that has only characters of labels is read as itself. -/
theorem apiSlug_self {s : String} (h : ∀ c ∈ s.toList, Hostname.isLabelChar c = true) :
    apiSlug (.str s) = s := by
  have hname : Hostname.IsName s := fun c hc => by simp [Hostname.isNameChar, h c hc]
  have hshown : (if (Json.str s).truthy then (Json.str s).plainText else "") = s := by
    by_cases hempty : s = ""
    · rw [hempty]
      rfl
    · rw [if_pos (by simpa [Json.truthy] using hempty)]
      rfl
  rw [apiSlug, hshown, Hostname.lower_of_isName hname, List.filter_eq_self.mpr h,
    String.ofList_toList]

end Names

theorem port_number (p : Port) (subject : String) : port (.int p.number) subject = .ok p := by
  rw [port, portOfInteger, Port.ofInt?_number]

theorem showable_str (s : String) : showable (.str s) = .ok (.str s) := if_pos (Json.isWritable_str s)

section Endpoints

variable {b : Backend} {fields : Fields}

/-- A backend is read from its fields. -/
theorem backend_encode (htrimmed : b.Trimmed) (hgiven : b.targetHost ≠ "")
    (hfields : ∀ key v, Fields.get? b.encode key = some v → fields.get? key = some v)
    (subject portSubject : String) : backend fields subject portSubject = .ok b := by
  have hhost : targetHost fields subject = .ok b.targetHost := by
    rw [targetHost, hfields "targetHost" _ rfl]
    dsimp only
    rw [if_neg (by simpa using hgiven), htrimmed]
  have hport : port (fields.valueOf "targetPort") portSubject = .ok b.targetPort := by
    rw [Fields.valueOf, hfields "targetPort" _ rfl]
    exact port_number b.targetPort portSubject
  have hlocal : isSet fields "localOnly" = b.localOnly := by
    rw [isSet, Fields.valueOf, hfields "localOnly" _ rfl]
    rfl
  have hauth : isSet fields "requireAuth" = b.requireAuth := by
    rw [isSet, Fields.valueOf, hfields "requireAuth" _ rfl]
    rfl
  exact backend_eq_ok.mpr ⟨hhost, hport, hlocal, hauth⟩

theorem endpoint_encode {e : Endpoint} (htrimmed : e.toBackend.Trimmed) (hplain : e.extra = [])
    (hgiven : e.targetHost ≠ "") (subject : String) : endpoint e.encode subject = .ok e :=
  endpoint_eq_ok.mpr
    ⟨_, rfl, backend_encode htrimmed hgiven (fun _ _ => get?_append_of_some) _ _, hplain⟩

theorem api_encode {a : Api} (htrimmed : a.toBackend.Trimmed) (hplain : a.extra = [])
    (hgiven : a.targetHost ≠ "") (hslug : ∀ c ∈ a.slug.toList, Hostname.isLabelChar c = true)
    (subject : String) : api a.encode subject = .ok a := by
  refine api_eq_ok.mpr ⟨_, rfl, Json.isWritable_str a.slug, ?_, (apiSlug_self hslug).symm, hplain⟩
  refine backend_encode htrimmed hgiven (fun _ _ h => ?_) _ _
  exact get?_append_of_some (get?_append_of_some h)

theorem apiList_encode {subject : String} {apis : List Api}
    (h : ∀ a ∈ apis, api a.encode subject = .ok a) :
    apiList subject (apis.map Api.encode) = .ok apis := by
  induction apis with
  | nil => rfl
  | cons a rest ih =>
      rw [List.forall_mem_cons] at h
      rw [List.map_cons, apiList]
      simp only [bind_eq_ok]
      exact ⟨a, h.1, rest, ih h.2, rfl⟩

/-- Endpoints are read from what is written of them, whatever was there. -/
theorem endpointSet_encode {s : EndpointSet} (hplain : s.Plain) (hgiven : s.Targeted)
    (hslugs : ∀ a ∈ s.apis, ∀ c ∈ a.slug.toList, Hostname.isLabelChar c = true)
    (hdistinct : (s.apis.map (·.slug)).Nodup) (environment : String)
    (present : Option EndpointSet) : endpointSet s.encode environment present = .ok s := by
  refine endpointSet_eq_ok.mpr
    ⟨_, rfl, ?_, ?_, distinctSlugs_iff.mpr hdistinct, hplain.extra⟩
  · have hwritten : Fields.get? ([(Field.frontend.name, (s.frontend.map Endpoint.encode).getD .null),
        (Field.apis.name, .arr (s.apis.map Api.encode))] ++ kept s.extra) "frontend" =
          some ((s.frontend.map Endpoint.encode).getD .null) := rfl
    rw [frontend, hwritten]
    cases hcase : s.frontend with
    | none => rfl
    | some e =>
        obtain ⟨htrimmed, hextra⟩ := hplain.frontend e hcase
        have he := endpoint_encode htrimmed hextra (hgiven.frontend e hcase)
          ("environment " ++ environment)
        dsimp only [Option.map_some, Option.getD_some]
        rw [if_pos (by rfl), he]
        rfl
  · apply apiList_encode
    intro a ha
    obtain ⟨htrimmed, hextra⟩ := hplain.apis a ha
    exact api_encode htrimmed hextra (hgiven.apis a ha) (hslugs a ha) _

end Endpoints

section Plain

theorem trimmed_backend {fields : Fields} {subject portSubject : String} {b : Backend}
    (h : backend fields subject portSubject = .ok b) : b.Trimmed := by
  obtain ⟨s, -, -, htrimmed⟩ := targetHost_eq_ok.mp (backend_eq_ok.mp h).1
  rw [Backend.Trimmed, htrimmed]
  exact Text.trimmed_trim s

theorem plain_endpoint {v : Json} {subject : String} {e : Endpoint}
    (h : endpoint v subject = .ok e) : e.toBackend.Trimmed ∧ e.extra = [] := by
  obtain ⟨fields, -, hb, hextra⟩ := endpoint_eq_ok.mp h
  exact ⟨trimmed_backend hb, hextra⟩

theorem plain_api {v : Json} {subject : String} {a : Api} (h : api v subject = .ok a) :
    a.toBackend.Trimmed ∧ a.extra = [] := by
  obtain ⟨fields, -, -, hb, -, hextra⟩ := api_eq_ok.mp h
  exact ⟨trimmed_backend hb, hextra⟩

/-- What requests lead to is plain if what was there is. -/
theorem plain_endpointSet {v : Json} {environment : String} {present : Option EndpointSet}
    {set : EndpointSet} (hpresent : ∀ s ∈ present, s.Plain)
    (h : endpointSet v environment present = .ok set) : set.Plain where
  frontend := forall_frontend_endpointSet (Q := fun _ => True) (fun _ _ _ _ => plain_endpoint)
    (fun _ _ => trivial) (fun s hs => (hpresent s hs).frontend) h
  apis := forall_endpointSet (Q := fun _ => True) (fun _ _ _ _ => plain_api) (fun _ _ _ => trivial)
    (fun _ _ => trivial) (fun s hs => (hpresent s hs).apis) h
  extra := by
    obtain ⟨fields, -, -, -, -, hextra⟩ := endpointSet_eq_ok.mp h
    exact hextra

end Plain

end Request

end EdgeProxy
