/-!
# JobShell.Shell.Help — the program's texts about itself
-/

namespace JobShell.Help

/-- How the program is called. -/
def usage : String := "usage: smallsh [-hV]"

/-- What the program is. -/
def description : String := "smallsh - a small interactive command shell"

/-- What the program understands. -/
def body : String :=
  "Commands are read from standard input, one per line:
  command [arg...] [< input] [> output] [&]

Built-in commands:
  cd [directory]           change the working directory, default $HOME
  status                   show how the last foreground command ended
  exit                     leave the shell

Options:
  -h, --help               display help message and exit
  -V, --version            display version information and exit
"

/-- The whole help text. -/
def message : String :=
  usage ++ "\n\n" ++ description ++ "\n\n" ++ body

/-- The version number. -/
def version : String := "0.1.0"

/-- What is written before each line is read. -/
def prompt : String := ": "

end JobShell.Help
