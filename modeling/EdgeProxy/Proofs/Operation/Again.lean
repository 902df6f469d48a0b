import EdgeProxy.Proofs.Change.Again
import EdgeProxy.Proofs.Operation.Unchanged
/-!
Updates that are issued again.  Once an update has succeeded, its edit leads from the registry that it left to
that registry itself; so the same call succeeds again, returns the same, and leaves everything but the version
as it was.  A client that did not hear of the success can ask once more.
-/

namespace EdgeProxy

/-- Operations that update something by a payload. -/
inductive Operation.Updates (payload : Json) : Operation → Prop where
  | baseDomain : Updates payload (.setBaseDomain payload)
  | host (id : String) : Updates payload (.updateHost id payload)
  | environment (id : String) : Updates payload (.updateEnvironment id payload)
  | application (id : String) : Updates payload (.updateApplication id payload)
  | provider : Updates payload (.switchProvider payload)

theorem Operation.Updates.isChange {payload : Json} {op : Operation} (h : op.Updates payload) :
    op.isChange = true := by
  cases h <;> rfl

namespace Registry

variable {r r' : Registry}

/-- What a change is saved as. -/
theorem advance_refreshPatterns (r : Registry) :
    (Store.advance r.refreshPatterns).hosts = r.hosts ∧
      (Store.advance r.refreshPatterns).environments = r.environments ∧
      (Store.advance r.refreshPatterns).applications = r.applications ∧
      (Store.advance r.refreshPatterns).baseDomain = r.baseDomain := by
  rw [refreshPatterns_eq]
  exact ⟨rfl, rfl, rfl, rfl⟩

/-- A provider that is switched is as it would be switched again. -/
theorem switchProvider_again {enabled : Bool} (h : r.switchProvider enabled = .ok r') :
    r'.refreshPatterns = r' ∧
      (Store.advance r').switchProvider enabled = .ok (Store.advance r') := by
  obtain ⟨hbase, rfl⟩ := switchProvider_eq_ok h
  have hpatterns : ∀ version provider,
      ({ r with version := version, provider := provider } : Registry).wildcardPatterns =
        r.wildcardPatterns :=
    fun _ _ => wildcardPatterns_congr rfl rfl
  constructor
  · rw [refreshPatterns_eq, hpatterns]
    cases enabled <;> rfl
  · rw [switchProvider, if_neg (by simpa [Store.advance] using hbase), Store.advance, hpatterns]
    rfl

end Registry

theorem Edit.ofMap_eq_ok {α : Type} {change : Registry → Requested α} {f : α → Registry × Subject}
    {supply left : Supply} {r : Registry} {x : Registry × Subject} :
    Edit.ofChange (fun r => (change r).map f) supply r = (.ok x, left) ↔
      (∃ a, change r = .ok a ∧ f a = x) ∧ supply = left := by
  simp only [Edit.ofChange, Prod.mk.injEq, map_eq_ok]

/-- The edit of an update that was made leads from what it left to itself. -/
theorem Operation.Edits.again {settings : Settings} {op : Operation} {supply read drawn : Supply}
    {edit : Edit} {r edited : Registry} {subject : Subject} {payload : Json}
    (h : op.Edits settings supply read edit) (hupdates : op.Updates payload)
    (hdistinct : payload.Distinct) (hedit : edit read r = (.ok (edited, subject), drawn))
    (later : Supply) :
    ∃ edit', op.Edits settings later later edit' ∧ edit' later (Store.advance edited.refreshPatterns) =
      (.ok (Store.advance edited.refreshPatterns, subject), later) := by
  obtain ⟨hhosts, henvironments, happlications, hbase⟩ :=
    Registry.advance_refreshPatterns edited
  cases h with
  | setBaseDomain hdomain =>
      cases hedit
      refine ⟨_, .setBaseDomain hdomain, ?_⟩
      rw [Registry.refreshPatterns_eq]
      rfl
  | updateHost id updates =>
      obtain ⟨⟨⟨r', h⟩, hupdate, heq⟩, -⟩ := Edit.ofMap_eq_ok.mp hedit
      cases heq
      exact ⟨_, .updateHost id updates, Edit.ofMap_eq_ok.mpr
        ⟨⟨_, Registry.updateHost_again hupdate hhosts, rfl⟩, rfl⟩⟩
  | updateEnvironment id updates =>
      obtain ⟨⟨⟨r', e⟩, hupdate, heq⟩, -⟩ := Edit.ofMap_eq_ok.mp hedit
      cases heq
      exact ⟨_, .updateEnvironment id updates, Edit.ofMap_eq_ok.mpr
        ⟨⟨_, Registry.updateEnvironment_again hupdate henvironments, rfl⟩, rfl⟩⟩
  | updateApplication id updates =>
      cases hupdates
      obtain ⟨⟨⟨r', a⟩, hupdate, heq⟩, -⟩ := Edit.ofMap_eq_ok.mp hedit
      cases heq
      have hagain := Registry.updateApplication_again hdistinct hupdate happlications henvironments
      exact ⟨_, .updateApplication id _, Edit.ofMap_eq_ok.mpr ⟨⟨_, hagain, rfl⟩, rfl⟩⟩
  | switchProvider henabled =>
      obtain ⟨⟨r', hswitch, heq⟩, -⟩ := Edit.ofMap_eq_ok.mp hedit
      cases heq
      obtain ⟨hcurrent, hagain⟩ := Registry.switchProvider_again hswitch
      rw [hcurrent]
      exact ⟨_, .switchProvider henabled, Edit.ofMap_eq_ok.mpr ⟨⟨_, hagain, rfl⟩, rfl⟩⟩
  | _ => cases hupdates

namespace Twins

/-- The payload of another name and another port. -/
def otherName : Json := .obj [("targetPort", .int 9000), ("subdomain", .str "files")]

/-- The first host with these. -/
def renamed : Host :=
  { host 0 with targetPort := ⟨9000, by decide, by decide⟩, subdomain := some "files" }

end Twins

namespace World

variable {path : Path} {settings : Settings} {w w' : World} {op : Operation} {answer : Answer}
  {payload : Json}

/-- Wherever operations lead, an update that succeeds can be issued again: as long as the system lets files be
written, the exchange with the control plane returns and the version can be counted on, the same call succeeds again
and returns the same, and but for the version the same is stored as after the first one. -/
theorem updates_can_be_repeated (hreach : Reachable path w) (hpath : settings.registryPath = path)
    (hupdates : op.Updates payload) (hdistinct : payload.Distinct) {s : Surroundings}
    (hrun : op.run settings (w.within s) = (.ok answer, w')) (hsuccess : answer.isSuccess = true) :
    ∃ r message subject applied,
      (∀ supply, Store.load supply w'.files path = (.ok r, supply)) ∧
        answer = .saved message subject applied ∧
        ((Json.int (r.version + 1)).isWritable = true → ∀ s' : Surroundings, s'.Unhindered settings →
          ∃ message' applied' w'',
            op.run settings (w'.within s') = (.ok (.saved message' subject applied'), w'') ∧
              SameButVersion path r (r.version + 1) w' w'') := by
  subst hpath
  obtain ⟨before, hstands⟩ := hreach.stands
  have hwithin := hstands.of_content_eq (content?_within s w _)
  obtain ⟨read, edit, edited, drawn, message, subject, applied, hedits, hedit, rfl, hrests,
    hreplaceable⟩ := hwithin.changed hupdates.isChange hrun hsuccess
  refine ⟨_, message, subject, applied, hrests.load, rfl, ?_⟩
  intro hroom s' hunhindered
  have hafter := hrests.stands.of_content_eq (content?_within s' w' _)
  obtain ⟨edit', hedits', hedit'⟩ := hedits.again hupdates hdistinct hedit (w'.within s').supply
  obtain ⟨message', applied', w'', hagain, hsame⟩ :=
    hafter.unchanged (hreplaceable s' _ hunhindered hroom) hedits' hedit'
  exact ⟨message', applied', w'', hagain, hsame.of_content_eq (content?_within s' w' _)⟩

/-- The first host gets another name and another port, and is asked to once more. -/
theorem updates_can_be_repeated_first_host :
    Reachable Clash.shelf (Clash.start.history Clash.settings Twins.first) ∧
      (Operation.updateHost (Twins.host 0).id Twins.otherName).Updates Twins.otherName ∧
      Twins.otherName.Distinct ∧ offline.Unhindered Clash.settings ∧
      ∃ message applied w', (Operation.updateHost (Twins.host 0).id Twins.otherName).run Clash.settings
          ((Clash.start.history Clash.settings Twins.first).within offline) =
            (.ok (.saved message (.host Twins.renamed) applied), w') ∧
        ∃ message' applied' w'',
          (Operation.updateHost (Twins.host 0).id Twins.otherName).run Clash.settings
              (w'.within offline) = (.ok (.saved message' (.host Twins.renamed) applied'), w'') ∧
            SameButVersion Clash.shelf (Twins.registry 2 [Twins.renamed]) 3 w' w'' := by
  have hreach := reachable_start Twins.first
  have hupdates : (Operation.updateHost (Twins.host 0).id Twins.otherName).Updates Twins.otherName :=
    .host _
  have hdistinct : Twins.otherName.Distinct := by
    simp [Twins.otherName, Json.Distinct, Json.DistinctFields]
  have hvalid : (Twins.registry 1 [Twins.renamed]).Valid :=
    ⟨by decide, by decide, by decide, by decide, by decide⟩
  have hshelved := Twins.shelved_after_first
  have hadmits := hshelved.admits (by decide)
  obtain ⟨r, hstands⟩ := hreach.stands
  obtain rfl := hstands.unique hshelved.ready.load
  have hwithin := hstands.of_content_eq (content?_within offline _ _)
  obtain ⟨message, applied, w', hrun, hrests⟩ :=
    hwithin.change hadmits (.updateHost (Twins.host 0).id Twins.otherName) rfl hvalid
  obtain ⟨r, message', subject, applied', hload, hanswer, hagain⟩ :=
    updates_can_be_repeated hreach rfl hupdates hdistinct hrun rfl
  cases hanswer
  obtain rfl := hrests.stands.unique hload
  have hroom : (Json.int 3).isWritable = true := Json.isWritable_small (by decide)
  have hunhindered : offline.Unhindered Clash.settings := unhindered_offline standard_arrives
  exact ⟨hreach, hupdates, hdistinct, hunhindered, message, applied, w', hrun, hagain hroom offline hunhindered⟩

end World

end EdgeProxy
