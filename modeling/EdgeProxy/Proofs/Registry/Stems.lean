import EdgeProxy.Proofs.Operation.Coverage
/-!
What stands below the base domain in a name.  The names of application endpoints and of hosts without a
domain of their own are a stem, a point and the base domain.  So while no base domain is set, and no host
has a domain below the one that is to be set, setting it leads to a valid registry exactly if no two stems
are equal.
-/

namespace EdgeProxy

/-- What stands below the base domain in the name of an application endpoint. -/
def Application.stem (app : Application) (kind : EndpointKind) (e : Environment) : String :=
  match kind with
  | .frontend => if e.frontendPrefix.isEmpty then app.slug else app.slug ++ "." ++ e.frontendPrefix
  | .api slug => (if slug.isEmpty then app.slug else app.slug ++ "-" ++ slug) ++ "." ++ e.apiPrefix

/-- What stands below the base domain in the name of a host. -/
def Host.stem (h : Host) : String := partText h.subdomain

theorem Application.domain_eq_stem (app : Application) (kind : EndpointKind) (e : Environment)
    (base : String) : app.domain kind e base = Text.lower (app.stem kind e ++ "." ++ base) := by
  cases kind with
  | frontend =>
      rw [domain, stem]
      split <;> rfl
  | api slug => rfl

theorem Host.domain_eq_stem {h : Host} (hcustom : isGiven h.customDomain = false) (base : String) :
    h.domain base = Text.lower (h.stem ++ "." ++ base) := by
  rw [domain, hcustom, if_neg Bool.false_ne_true]
  rfl

/-- The domain of its own that a host has is its name under any base domain. -/
theorem Host.domain_of_own {h : Host} (hcustom : isGiven h.customDomain = true) (base : String) :
    h.domain base = Text.lower (partText h.customDomain) := by
  rw [domain, if_pos hcustom]

namespace Registry

variable {r : Registry} {d : String}

/-- The stems of all application endpoints and of all hosts without a domain of their own, whether
enabled or not. -/
def stems (r : Registry) : List String :=
  (r.applications.flatMap fun app =>
      (app.endpointsIn r.environments).map fun (e, kind, _) => app.stem kind e) ++
    (r.hosts.filter fun h => !isGiven h.customDomain).map Host.stem

/-- The names of the hosts that have a domain of their own. -/
def ownDomains (r : Registry) : List String :=
  (r.hosts.filter fun h => isGiven h.customDomain).map (·.domain "")

theorem WellNamed.isFirstLabel (h : r.WellNamed) {app : Application} (happ : app ∈ r.applications) :
    IsFirstLabel app.slug :=
  isFirstLabel_of_isLabelText (h.slugs app happ).label

theorem point_mem_of_below (s t : String) : '.' ∈ (s ++ "." ++ t).toList := by
  simp

/-- A text that holds a point is no label of a system route. -/
theorem not_reserved_of_point {s : String} (h : '.' ∈ s.toList) : s ∉ reservedLabels := by
  simp only [reservedLabels, List.mem_cons, List.not_mem_nil, or_false, not_or]
  constructor
  · rintro rfl
    revert h
    decide
  · rintro rfl
    revert h
    decide

/-- A stem is a name, and not one of those of the system routes. -/
structure IsStem (s : String) : Prop where
  name : Hostname.IsName s
  free : s ∉ reservedLabels

theorem isStem_of_isFreeLabel {s : String} (h : Hostname.IsFreeLabel s) : IsStem s :=
  ⟨Hostname.isName_of_isLabelText h.label, h.free⟩

theorem isStem_below {label labels : String} (h : IsFirstLabel label)
    (hlabels : Hostname.isLabelsText labels = true) : IsStem (label ++ "." ++ labels) :=
  ⟨Hostname.isName_below h.name (Hostname.isName_of_isLabelsText hlabels),
    not_reserved_of_point (point_mem_of_below label labels)⟩

theorem WellNamed.isStem_endpoint (hnamed : r.WellNamed) {app : Application}
    (happ : app ∈ r.applications) {e : Environment} {kind : EndpointKind} {backend : Backend}
    (h : (e, kind, backend) ∈ app.endpointsIn r.environments) : IsStem (app.stem kind e) := by
  obtain ⟨he, set, hset, hendpoint⟩ := Application.mem_endpointsIn.mp h
  have henvironment := hnamed.environments e he
  have hslug := hnamed.isFirstLabel happ
  rcases EndpointSet.mem_endpoints.mp hendpoint with ⟨endpoint, -, rfl, -⟩ | ⟨api, hapi, rfl, -⟩
  · rw [Application.stem]
    split
    · exact isStem_of_isFreeLabel (hnamed.slugs app happ)
    next hprefix =>
      have hne : e.frontendPrefix ≠ "" := by simpa using hprefix
      exact isStem_below hslug (henvironment.frontendPrefix.resolve_left hne)
  · have hmem : (e.id, set) ∈ app.endpoints := by
      obtain ⟨before, after, heq, -⟩ := List.lookup_eq_some_iff.mp hset
      simp [heq]
    rw [Application.stem]
    split
    · exact isStem_below hslug henvironment.apiPrefix
    · exact isStem_below (isFirstLabel_append hslug (hnamed.sets app happ _ hmem api hapi))
        henvironment.apiPrefix

theorem WellNamed.isStem_host (hnamed : r.WellNamed) {h : Host} (hmem : h ∈ r.hosts)
    (hcustom : isGiven h.customDomain = false) : IsStem h.stem := by
  obtain ⟨s, hsubdomain, hfree⟩ := (hnamed.hosts h hmem).label hcustom
  rw [Host.stem, hsubdomain]
  exact isStem_of_isFreeLabel hfree

theorem WellNamed.isStem (hnamed : r.WellNamed) {s : String} (h : s ∈ r.stems) : IsStem s := by
  rcases List.mem_append.mp h with h | h
  · obtain ⟨app, happ, h⟩ := List.mem_flatMap.mp h
    obtain ⟨⟨e, kind, backend⟩, hmem, rfl⟩ := List.mem_map.mp h
    exact hnamed.isStem_endpoint happ hmem
  · obtain ⟨host, hhost, rfl⟩ := List.mem_map.mp h
    obtain ⟨hmem, hcustom⟩ := List.mem_filter.mp hhost
    exact hnamed.isStem_host hmem (by simpa using hcustom)

theorem WellNamed.isName_label (hnamed : r.WellNamed) {s : String}
    (h : s ∈ reservedLabels ++ r.stems) : Hostname.IsName s := by
  rcases List.mem_append.mp h with h | h
  · have hreserved : ∀ label ∈ reservedLabels, Hostname.isLabelText label = true := by decide
    exact Hostname.isName_of_isLabelText (hreserved s h)
  · exact (hnamed.isStem h).name

/-- The domains that hosts have of their own are names, and stored as they are. -/
theorem WellNamed.isName_ownDomains (hnamed : r.WellNamed) {s : String} (h : s ∈ r.ownDomains) :
    Hostname.IsName s ∧ ∃ host ∈ r.hosts, host.customDomain = some s := by
  obtain ⟨host, hhost, rfl⟩ := List.mem_map.mp h
  obtain ⟨hmem, hcustom⟩ := List.mem_filter.mp hhost
  obtain ⟨c, hown, hdomain⟩ := (hnamed.hosts host hmem).ownDomain hcustom
  have hname := Hostname.isName_of_isDomainText hdomain
  rw [host.domain_of_own hcustom, hown, partText, Hostname.lower_of_isName hname]
  exact ⟨hname, host, hmem, hown⟩

/-- A stem below a domain is its own lower-case form. -/
theorem lower_below {s : String} (hs : Hostname.IsName s) (hd : Hostname.isDomainText d = true) :
    Text.lower (s ++ "." ++ d) = s ++ "." ++ d :=
  Hostname.lower_of_isName (Hostname.isName_below hs (Hostname.isName_of_isDomainText hd))

section Names

variable (hnamed : r.WellNamed) (hd : Hostname.isDomainText d = true)

include hnamed hd

theorem names_endpoints :
    (r.applications.flatMap (·.targets r.environments d)).map Target.domain =
      (r.applications.flatMap fun app =>
        (app.endpointsIn r.environments).map fun (e, kind, _) => app.stem kind e).map
          (· ++ "." ++ d) := by
  rw [List.map_flatMap, List.map_flatMap]
  refine List.flatMap_congr fun app happ => ?_
  rw [Application.targets, List.map_map, List.map_map]
  refine List.map_congr_left fun target hmem => ?_
  obtain ⟨e, kind, backend⟩ := target
  have hname := (hnamed.isStem_endpoint happ hmem).name
  exact (app.domain_eq_stem kind e d).trans (lower_below hname hd)

theorem names_hosts :
    (r.hosts.map (·.domain d)).Perm
      (((r.hosts.filter fun h => !isGiven h.customDomain).map Host.stem).map (· ++ "." ++ d) ++
        r.ownDomains) := by
  have hstems : ((r.hosts.filter fun h => !isGiven h.customDomain).map Host.stem).map
      (· ++ "." ++ d) = (r.hosts.filter fun h => !isGiven h.customDomain).map (·.domain d) := by
    rw [List.map_map]
    refine List.map_congr_left fun h hmem => ?_
    obtain ⟨hmem, hcustom⟩ := List.mem_filter.mp hmem
    have hcustom : isGiven h.customDomain = false := by simpa using hcustom
    have hname := (hnamed.isStem_host hmem hcustom).name
    exact ((Host.domain_eq_stem hcustom d).trans (lower_below hname hd)).symm
  have hown : r.ownDomains = (r.hosts.filter fun h => isGiven h.customDomain).map (·.domain d) := by
    refine List.map_congr_left fun h hmem => ?_
    have hcustom := (List.mem_filter.mp hmem).2
    rw [h.domain_of_own hcustom, h.domain_of_own hcustom]
  rw [hstems, hown, ← List.map_append]
  exact (List.perm_append_comm.trans (List.filter_append_perm _ r.hosts)).symm.map _

/-- The names under a base domain: the labels of the system routes and the stems below it, and the
domains that hosts have of their own. -/
theorem names_setBaseDomain :
    (r.setBaseDomain d).names.Perm
      ((reservedLabels ++ r.stems).map (· ++ "." ++ d) ++ r.ownDomains) := by
  have hempty : d.isEmpty = false := by
    simpa using Hostname.ne_empty_of_isDomainText hd
  have hsystem : (systemDomains d).map Prod.snd = reservedLabels.map (· ++ "." ++ d) := by
    rw [systemDomains, hempty]
    rfl
  have htargets : (r.setBaseDomain d).allTargets.map Target.domain =
      (r.applications.flatMap (·.targets r.environments d)).map Target.domain ++
        r.hosts.map (·.domain d) := by
    have hall : r.hosts.filter (·.isNamed d) = r.hosts :=
      List.filter_eq_self.mpr fun h _ => by simp [Host.isNamed, hempty]
    simp only [allTargets, setBaseDomain, hempty, Bool.false_eq_true, ↓reduceIte, hall,
      List.map_append, List.map_map]
    rfl
  have hnames : (r.setBaseDomain d).names = reservedLabels.map (· ++ "." ++ d) ++
      ((r.applications.flatMap (·.targets r.environments d)).map Target.domain ++
        r.hosts.map (·.domain d)) := by
    rw [names, htargets, ← hsystem]
    rfl
  rw [hnames, names_endpoints hnamed hd, stems, List.map_append, List.map_append, List.append_assoc,
    List.append_assoc]
  exact ((names_hosts hnamed hd).append_left _).append_left _

/-- Under a base domain every name is claimed as it is. -/
theorem claims_setBaseDomain :
    (r.setBaseDomain d).claims.map Prod.fst = (r.setBaseDomain d).names := by
  rw [← lower_names]
  refine (List.map_congr_left fun s hs => ?_).trans (List.map_id _)
  rcases List.mem_append.mp ((names_setBaseDomain hnamed hd).mem_iff.mp hs) with hmem | hmem
  · obtain ⟨label, hlabel, rfl⟩ := List.mem_map.mp hmem
    exact lower_below (hnamed.isName_label hlabel) hd
  · exact Hostname.lower_of_isName (hnamed.isName_ownDomains hmem).1

end Names

/-- While no base domain is set, the domains that hosts have of their own are the names that are
checked. -/
theorem Valid.nodup_ownDomains (hvalid : r.Valid) (hunset : r.baseDomain = "") :
    r.ownDomains.Nodup := by
  have hnames : r.names = r.ownDomains := by
    have hnamed : (r.hosts.filter (·.isNamed "")) = r.hosts.filter fun h => isGiven h.customDomain :=
      List.filter_congr fun h _ => by rw [Host.isNamed]; exact Bool.or_false _
    rw [Registry.names, allTargets, hunset, hnamed, ownDomains]
    exact List.map_map
  have hclaims := hvalid.names
  rw [← lower_names, hnames] at hclaims
  exact hclaims.of_map _

/-- No host has a domain of its own right below a base domain or further down. -/
def NoneBelow (r : Registry) (d : String) : Prop :=
  ∀ h ∈ r.hosts, ∀ label, h.customDomain ≠ some (label ++ "." ++ d)

theorem below_injective (d : String) : Function.Injective fun s : String => s ++ "." ++ d := by
  intro s t h
  exact (String.append_left_inj _).mp ((String.append_left_inj _).mp h)

section Distinct

variable (hnamed : r.WellNamed) (hd : Hostname.isDomainText d = true) (hvalid : r.Valid)
  (hunset : r.baseDomain = "") (hnone : r.NoneBelow d)

include hnamed

theorem disjoint_reserved : reservedLabels.Disjoint r.stems :=
  fun _ hreserved hstem => (hnamed.isStem hstem).free hreserved

include hnone

theorem disjoint_ownDomains (labels : List String) :
    (labels.map (· ++ "." ++ d)).Disjoint r.ownDomains := by
  intro s hbelow hown
  obtain ⟨label, -, rfl⟩ := List.mem_map.mp hbelow
  obtain ⟨-, host, hhost, hdomain⟩ := hnamed.isName_ownDomains hown
  exact hnone host hhost label hdomain

include hd hvalid hunset

/-- The names under the first base domain are distinct exactly if the stems are. -/
theorem nodup_names_iff : (r.setBaseDomain d).names.Nodup ↔ r.stems.Nodup := by
  rw [(names_setBaseDomain hnamed hd).nodup_iff, List.nodup_append',
    List.nodup_map_iff (below_injective d), List.nodup_append']
  constructor
  · exact fun h => h.1.2.1
  · intro hstems
    exact ⟨⟨by decide, hstems, disjoint_reserved hnamed⟩, hvalid.nodup_ownDomains hunset,
      disjoint_ownDomains hnamed hnone _⟩

/-- The first base domain leads to a valid registry exactly if the stems are distinct. -/
theorem valid_setBaseDomain_iff : (r.setBaseDomain d).Valid ↔ r.stems.Nodup := by
  rw [← nodup_names_iff hnamed hd hvalid hunset hnone, ← claims_setBaseDomain hnamed hd]
  constructor
  · exact fun h => h.names
  · exact fun h => ⟨hvalid.environments, hvalid.defaults, hvalid.slugs, hvalid.hosts, h⟩

/-- What is claimed several times under the first base domain is a stem, as often as it is one. -/
theorem count_names_setBaseDomain {name : String}
    (hcount : 1 < (r.setBaseDomain d).names.count name) :
    ∃ stem, name = stem ++ "." ++ d ∧
      (r.setBaseDomain d).names.count name = r.stems.count stem := by
  have hown := List.nodup_iff_count_le_one.mp (hvalid.nodup_ownDomains hunset) name
  rw [(names_setBaseDomain hnamed hd).count_eq, List.count_append] at hcount ⊢
  -- The domains that hosts have of their own are distinct, so what is claimed twice stands below `d`.
  have hmem : name ∈ (reservedLabels ++ r.stems).map (· ++ "." ++ d) := by
    by_contra habsent
    rw [List.count_eq_zero_of_not_mem habsent] at hcount
    omega
  have habsent := disjoint_ownDomains hnamed hnone _ hmem
  obtain ⟨stem, -, rfl⟩ := List.mem_map.mp hmem
  rw [List.count_eq_zero_of_not_mem habsent, List.count_map_of_injective _ _ (below_injective d),
    List.count_append] at hcount ⊢
  have hreserved := List.nodup_iff_count_le_one.mp (by decide : reservedLabels.Nodup) stem
  have hstem : stem ∈ r.stems := by
    by_contra hother
    rw [List.count_eq_zero_of_not_mem hother] at hcount
    omega
  have hfree := (hnamed.isStem hstem).free
  exact ⟨stem, rfl, by rw [List.count_eq_zero_of_not_mem hfree]; omega⟩

end Distinct

end Registry

end EdgeProxy
