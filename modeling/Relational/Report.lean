import Relational.Error

/-!
# Reports

A report is an outcome together with the notices on the way to it.
-/

namespace Relational

/-- A computation that may fail and reports notices on the way, also when it fails later. -/
abbrev Report := ExceptT Error (StateM (List Notice))

/-- Report a notice. -/
def notify (n : Notice) : Report Unit := modify (· ++ [n])

end Relational
