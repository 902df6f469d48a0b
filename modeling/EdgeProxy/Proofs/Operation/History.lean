import EdgeProxy.Operation.Run
/-!
Histories: operations one after the other, each in surroundings of its own.  Between two operations the
proxy, the peers, the time and what the system lets be written may change in any way; the files and
the supply of identifiers stay as the last operation left them.
-/

namespace EdgeProxy

/-- What may be different at every operation. -/
structure Surroundings where
  line : Line
  peers : Peers
  now : Instant
  refuses : FileStep → Option String

namespace World

/-- The world in other surroundings. -/
def within (s : Surroundings) (w : World) : World :=
  { w with
    files := { w.files with refuses := s.refuses }
    line := s.line
    peers := s.peers
    supply := { w.supply with now := s.now } }

/-- The world after a history of operations. -/
def history (settings : Settings) (w : World) (steps : List (Surroundings × Operation)) : World :=
  steps.foldl (fun w (s, op) => (op.run settings (w.within s)).2) w

theorem history_nil (settings : Settings) (w : World) : w.history settings [] = w := rfl

theorem history_cons (settings : Settings) (w : World) (s : Surroundings) (op : Operation)
    (rest : List (Surroundings × Operation)) :
    w.history settings ((s, op) :: rest) = (op.run settings (w.within s)).2.history settings rest :=
  rfl

@[simp] theorem content?_within (s : Surroundings) (w : World) (p : Path) :
    (w.within s).files.content? p = w.files.content? p := rfl

/-- What surroundings and operations preserve holds throughout a history. -/
theorem history_invariant {P : World → Prop} {settings : Settings}
    (hwithin : ∀ (s : Surroundings) (w : World), P w → P (w.within s))
    (hrun : ∀ (op : Operation) (w : World), P w → P (op.run settings w).2)
    (steps : List (Surroundings × Operation)) {w : World} (h : P w) :
    P (w.history settings steps) := by
  induction steps generalizing w with
  | nil => exact h
  | cons step rest ih =>
      obtain ⟨s, op⟩ := step
      exact ih (hrun op _ (hwithin s w h))

end World

end EdgeProxy
