/-!
# Request ids

Every request has an id, by which its traces are found. The caller may choose it.

## Main definitions

* `Criteria.RequestId.isVisible` — whether a text can be an id.
* `Criteria.RequestId.choose` — the id of a request: a visible id is kept, any other one is
  replaced.
-/

set_option autoImplicit false
set_option relaxedAutoImplicit false

namespace Criteria.RequestId

/-- Whether a text can be an id: its characters are printable ASCII or tabs. -/
def isVisible (text : String) : Bool :=
  text.toList.all fun c => (' ' ≤ c && c ≤ '~') || c == '\t'

/-- The id of a request: the one that was sent with it, if it can be one, else a fresh one. -/
def choose (sent : Option String) (fresh : String) : String :=
  (sent.filter isVisible).getD fresh

end Criteria.RequestId
