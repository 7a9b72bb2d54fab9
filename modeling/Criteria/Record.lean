import Criteria.Table
import Criteria.Value

/-!
# Records

What a rule is evaluated on: fields, each a name and a value.
-/

set_option autoImplicit false
set_option relaxedAutoImplicit false

namespace Criteria

/-- A finite map from the names of fields to their values. -/
abbrev Record := Table Value

end Criteria
