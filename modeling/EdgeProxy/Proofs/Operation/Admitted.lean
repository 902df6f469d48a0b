import EdgeProxy.Proofs.Operation.Once
import EdgeProxy.Proofs.Operation.RuleIds
import EdgeProxy.Proofs.Registry.Patterns
import EdgeProxy.Proofs.Registry.Writable
/-!
When a change goes through.  Where the file can be replaced, the exchange with the control plane returns and the
version can be counted on, every change of the stored registry that leads to a valid registry is saved.
-/

namespace EdgeProxy

/-- Whether a registry is valid does not depend on its patterns. -/
theorem Registry.valid_refreshPatterns_iff {r : Registry} : r.refreshPatterns.Valid ↔ r.Valid := by
  have houtline : r.refreshPatterns.outline = r.outline := by
    rw [refreshPatterns_eq]
    rfl
  exact ⟨fun h => h.of_outline_eq houtline.symm, fun h => h.of_outline_eq houtline⟩

namespace World

/-- Nothing outside the registry stands in the way of a change: the exchange with the control plane returns, there
is room for the next version, and the system lets the file be replaced. -/
structure Admits (settings : Settings) (version : Int) (w : World) : Prop where
  returns : settings.Returns w.line
  room : (Json.int (version + 1)).isWritable = true
  replaceable : ∃ made, w.files.makeDirectories settings.registryPath.parent = .ok made ∧
    ∀ bytes, (made.replace settings.registryPath bytes).1 = .ok ()

end World

namespace Operation

/-- An operation answers that it succeeded. -/
def Succeeds (settings : Settings) (op : Operation) (w : World) : Prop :=
  ∃ answer w', op.run settings w = (.ok answer, w') ∧ answer.isSuccess = true

variable {settings : Settings} {op : Operation} {w : World} {r edited : Registry} {subject : Subject}
  {read drawn : Supply} {edit : Edit}

/-- What an edit of a loaded registry leads to can be written if the next version can. -/
theorem Edits.isWritable {supply before left start : Supply} {files : Files} {path : Path}
    (hedits : op.Edits settings before read edit) (hload : Store.load supply files path = (.ok r, left))
    (hedit : edit start r = (.ok (edited, subject), drawn)) :
    (Store.advance edited.refreshPatterns).encode.isWritable = true ↔
      (Json.int (r.version + 1)).isWritable = true := by
  have hpreserves : r.Preserves edited.refreshPatterns :=
    (hedits.preserving hedit).trans (Registry.preserves_refreshPatterns edited)
  have hwell := (hpreserves.keeps (Store.wellFormed_of_load hload)).wellFormed
  have hkeeping := hpreserves.keeping Writable writable_nil (Store.writable_of_load hload)
  have hadvanced : (Store.advance edited.refreshPatterns).Keeping Writable :=
    ⟨hkeeping.environments, hkeeping.applications, hkeeping.hosts, hkeeping.provider, hkeeping.extra⟩
  rw [Registry.isWritable_encode_iff (Store.advance_wellFormed hwell) hadvanced, Store.advance,
    hpreserves.version]

/-- A valid change of the stored registry is saved if nothing else stands in its way. -/
theorem Edits.saves (hedits : op.Edits settings w.supply read edit) (hready : w.Ready settings r)
    (hadmits : w.Admits settings r.version) (hedit : edit read r = (.ok (edited, subject), drawn))
    (hvalid : edited.Valid) :
    ∃ written, op.Saves settings w r subject (Store.advance edited.refreshPatterns) written := by
  obtain ⟨made, hmade, hreplace⟩ := hadmits.replaceable
  have hwritable := (hedits.isWritable (hready.load w.supply) hedit).mpr hadmits.room
  have hchanged : changed edit read r = (.ok (edited.refreshPatterns, subject), drawn) :=
    changed_eq_ok.mpr ⟨edited, hedit, rfl,
      (Registry.violations_eq_nil_iff _).mpr (Registry.valid_refreshPatterns_iff.mpr hvalid)⟩
  exact ⟨_, .intro hedits (hready.load read) hchanged
    (hready.save hmade hwritable (Prod.ext (hreplace _) rfl))⟩

/-- A valid change that nothing else stands in the way of succeeds, and is what is read afterwards. -/
theorem Edits.succeeds (hedits : op.Edits settings w.supply read edit) (hready : w.Ready settings r)
    (hadmits : w.Admits settings r.version) (hedit : edit read r = (.ok (edited, subject), drawn))
    (hvalid : edited.Valid) :
    ∃ answer w', op.run settings w = (.ok answer, w') ∧ answer.isSuccess = true ∧
      w'.Ready settings (Store.advance edited.refreshPatterns).stored := by
  obtain ⟨written, hsaves⟩ := hedits.saves hready hadmits hedit hvalid
  rcases hsaves.run_spec with ⟨fault, line, hfault, -⟩ | ⟨-, message, applied, line, hrun, -⟩
  · cases (hadmits.returns _).symm.trans hfault
  · exact ⟨_, _, hrun, rfl, hsaves.ready.of_content_eq rfl⟩

/-- A change that the registry turns down is refused without effect. -/
theorem Edits.refused (hedits : op.Edits settings w.supply read edit) (hready : w.Ready settings r)
    {why : Rejection} (hchanged : changed edit read r = (.error (.rejected why), drawn)) :
    ∃ w', op.run settings w = (.ok (.refused (.rejected why)), w') ∧ w.Untouched w' := by
  obtain ⟨message, hrun⟩ := hedits.run_eq
  have hsame : op.run settings w = { w with supply := read }.mutate settings message edit :=
    hrun settings.adminUrl
  refine ⟨{ w with supply := drawn }, ?_, ?_⟩
  · rw [hsame]
    simp only [World.mutate, World.withRegistry, World.load, hready.load read, World.commit, hchanged]
  · have hdrawn : drawn.Extends read := hedits.draws.changed hchanged
    exact World.untouched_of_draws (hdrawn.trans hedits.extends_read)

end Operation

/-- An exchange with a proxy that cannot be reached returns. -/
theorem World.returns_offline {settings : Settings} (harrives : settings.client.arrives = true) :
    settings.Returns offline.line := by
  apply Settings.returns_of_not_accepted
  · rw [Client.pushReply_of_arrives harrives]
    rfl
  · rw [Client.accepts_of_arrives harrives]
    rfl

namespace Clash

variable {r : Registry} {used : Nat} {w : World}

/-- Nothing stands in the way of a change of what is on the shelf. -/
theorem Shelved.admits (h : Shelved r used w) (hversion : (r.version + 1).natAbs < 100000) :
    (w.within World.offline).Admits settings r.version where
  returns := World.returns_offline World.standard_arrives
  room := Json.isWritable_small hversion
  replaceable := by
    refine ⟨_, rfl, fun bytes => ?_⟩
    have hreplace := replace_shelf (w.within World.offline).files h.entries rfl bytes
    exact congrArg Prod.fst hreplace

/-- A valid change of what is on the shelf is written, as its next version can be. -/
theorem Shelved.changes {op : Operation} {edit : Edit} {r' : Registry} {subject : Subject}
    {used' : Nat} {read : Supply} (h : Shelved r used w)
    (hversion : (r.version + 1).natAbs < 100000)
    (hedits : op.Edits settings (Clash.supply used) read edit)
    (hedit : edit read r = (.ok (r', subject), Clash.supply used'))
    (hpatterns : r'.refreshPatterns = r') (hvalid : r'.Valid) :
    Shelved (Store.advance r').stored used' (op.run settings (w.within World.offline)).2 := by
  have hroom := Json.isWritable_small hversion
  have hwritable := (hedits.isWritable (h.ready.load w.supply) hedit).mpr hroom
  rw [hpatterns] at hwritable
  exact h.saves hedits hedit hpatterns hvalid hwritable

end Clash

end EdgeProxy
