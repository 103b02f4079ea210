import JobShell.Machine.Session

/-!
# JobShell.Main — the command line

The shell reads its lines from standard input and runs them on a machine of its own, in memory. What
the shell and its children have written is shown when it is over.
-/

namespace JobShell

/-- Reads all of a stream. -/
partial def readToEnd (stream : IO.FS.Stream) (known : Bytes) : IO Bytes := do
  let chunk ← stream.read bufferSize.toUSize
  if chunk.isEmpty then return known
  readToEnd stream (known ++ chunk.toList)

/-- What a shell writes for a command line and an input, and the code that it exits with. -/
def simulate (arguments : List String) (input : Bytes) : Nat × Bytes × Bytes :=
  let (streams, session) := Session.withInput Machine.standard ⟨FileTree.root, 0o022⟩ input
  let (code, shell) :=
    Supervisor.main Machine.host sessionPatience (some (Text.utf8 "/")) arguments session
  let machine := shell.world.finish sessionPatience
  (code, (machine.collect streams.output).1, (machine.collect streams.error).1)

end JobShell

/-- Runs the shell. -/
def main (arguments : List String) : IO UInt32 := do
  let input ← JobShell.readToEnd (← IO.getStdin) []
  let (code, output, error) := JobShell.simulate (JobShell.shellName :: arguments) input
  (← IO.getStdout).write (ByteArray.mk output.toArray)
  (← IO.getStderr).write (ByteArray.mk error.toArray)
  return code.toUInt32
