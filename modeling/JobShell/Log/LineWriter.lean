import JobShell.Log.Router

/-!
# JobShell.Log.LineWriter — a logger that writes lines

Each message becomes one line with a fixed text in front. The shell's diagnostics for its user go
through such a logger to standard error.
-/

namespace JobShell.Log

/-- The line of a message. -/
def line (leader message : String) : String :=
  leader ++ message ++ "\n"

/-- The target of diagnostics for the user. -/
def userTarget : String := "smallsh::user"

/-- What stands in front of every diagnostic. -/
def userLeader : String := "smallsh: "

/-- The shell's own routing: one logger, for the user. -/
def shellRouter : Router :=
  ({} : Router).add userTarget

/-- The lines that a diagnostic for the user makes on standard error. -/
def userLines (message : String) : String :=
  let told := shellRouter.log { target := userTarget, level := .error, message := message }
  String.join (told.channels.flatMap fun channel => channel.received.map fun event =>
    match event with
    | .record record => line userLeader record.message
    | .flush => "")

end JobShell.Log
