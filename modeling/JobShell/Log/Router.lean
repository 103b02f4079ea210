import JobShell.Log.Level

/-!
# JobShell.Log.Router — log records on their way to loggers

A logger is added for a heading such as `a::b` and receives the records whose target is the heading
itself or lies below it (`a::b::c`, not `a::bc`). Headings are kept with their final `::`, so that
both tests are comparisons with a beginning of the same text; the heading itself is recovered by
cutting two bytes off, and a cut inside a character would be `none`.
-/

namespace JobShell.Log

/-- One message for a target. -/
structure Record where
  target : String
  level : Level := .error
  message : String
deriving DecidableEq, Repr

/-- What a logger is told. -/
inductive Event where
  | record (record : Record)
  | flush
deriving DecidableEq, Repr

/-- The first bytes of a text, as a text; `none` if the text is shorter or the cut would fall
inside a character. -/
def takeBytes? : Nat → List Char → Option (List Char)
  | 0, _ => some []
  | _ + 1, [] => none
  | count + 1, c :: text =>
    if c.utf8Size ≤ count + 1 then
      (takeBytes? (count + 1 - c.utf8Size) text).map (c :: ·)
    else none

/-- The number of bytes of a text. -/
def byteSize (text : List Char) : Nat :=
  text.foldl (fun size c => size + c.utf8Size) 0

/-- A heading with its final colons. -/
def closeHeading (heading : List Char) : List Char :=
  if [':', ':'] <:+ heading then heading else heading ++ [':', ':']

/-- A logger together with the heading it was added for, and all that it was told. -/
structure Channel where
  /-- The heading, with its final colons. -/
  heading : List Char
  received : List Event := []
deriving DecidableEq, Repr

/-- Whether records for a target go to the channel. -/
def Channel.accepts (channel : Channel) (target : String) : Bool :=
  takeBytes? (byteSize channel.heading - 2) channel.heading == some target.toList
    || channel.heading.isPrefixOf target.toList

/-- Tells the channel's logger something. -/
def Channel.tell (channel : Channel) (event : Event) : Channel :=
  { channel with received := channel.received ++ [event] }

/-- The loggers in the order in which they were added. -/
structure Router where
  channels : List Channel := []
deriving DecidableEq, Repr

namespace Router

/-- Adds a logger for a heading. -/
def add (router : Router) (heading : String) : Router :=
  ⟨router.channels ++ [{ heading := closeHeading heading.toList }]⟩

/-- Sends a record to the loggers of its target. -/
def log (router : Router) (record : Record) : Router :=
  ⟨router.channels.map fun channel =>
    if channel.accepts record.target then channel.tell (.record record) else channel⟩

/-- Asks every logger to write out what it holds back. -/
def flush (router : Router) : Router :=
  ⟨router.channels.map (·.tell .flush)⟩

end Router

end JobShell.Log
