/-!
# Publication of metrics

The counts of a service are published on a port of their own, once that has been started.

## Main definitions

* `Criteria.Publication` — where counts are published, `Criteria.Publication.idle` while they are
  not.
-/

set_option autoImplicit false
set_option relaxedAutoImplicit false

namespace Criteria

/-- Where the counts of a service are published. -/
structure Publication where
  /-- The port, none while nothing is published. -/
  port : Option Nat
  deriving DecidableEq

namespace Publication

/-- Nothing is published. -/
def idle : Publication := ⟨none⟩

/-- Whether counts are published. -/
def isRunning (publication : Publication) : Bool := publication.port.isSome

end Publication

end Criteria
