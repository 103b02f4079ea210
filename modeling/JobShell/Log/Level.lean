/-!
# JobShell.Log.Level — how much is logged
-/

namespace JobShell.Log

/-- The importance of a record, most important first. -/
inductive Level where
  | error
  | warn
  | info
  | debug
  | trace
deriving DecidableEq, Repr

/-- The rank of a level; zero is left for logging nothing. -/
def Level.rank : Level → Nat
  | .error => 1
  | .warn => 2
  | .info => 3
  | .debug => 4
  | .trace => 5

/-- Whether records of a level are logged when the limit is `limit`; without a limit level nothing
is. -/
def isEnabled (limit : Option Level) (level : Level) : Bool :=
  level.rank ≤ limit.elim 0 Level.rank

end JobShell.Log
