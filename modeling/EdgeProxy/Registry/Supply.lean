import EdgeProxy.Json.Basic
import EdgeProxy.Time.Instant
/-!
Identifiers and times for new entities.  A supply is a sequence of names of which some are used up,
together with the present time.
-/

namespace EdgeProxy

/-- A sequence of identifiers and the time that new entities are marked with. -/
structure Supply where
  name : Nat → String
  used : Nat
  now : Instant

namespace Supply

/-- The next identifier, and the supply without it. -/
def draw (supply : Supply) : String × Supply :=
  (supply.name supply.used, { supply with used := supply.used + 1 })

def timestamp (supply : Supply) : String := supply.now.text

end Supply

end EdgeProxy
