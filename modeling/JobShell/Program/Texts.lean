import JobShell.Program.Escape
import JobShell.Program.Options

/-!
# JobShell.Program.Texts — programs that read and write texts

Characters are bytes, and their order is that of their numbers.
-/

namespace JobShell.Program

/-- Whether bytes are a dash and then letters out of a given list. -/
def isFlags (letters : String) (argument : Bytes) : Bool :=
  match argument with
  | 45 :: flags => !flags.isEmpty && flags.all fun flag => (Text.utf8 letters).contains flag
  | _ => false

/-- Operands with a blank between them. -/
def spaced (operands : List Bytes) : Bytes :=
  (operands.intersperse [32]).flatten

/-- Writes the operands with a blank between them and a newline behind. -/
def echo (job : Job) : Task Nat :=
  let flags := (job.operands.takeWhile (isFlags "neE")).flatten
  let text := spaced (job.operands.dropWhile (isFlags "neE"))
  -- of two options that contradict each other the last one counts
  let escapes := (flags.filter fun flag => flag == 101 || flag == 69).getLast? == some 101
  let (text, ended) := if escapes then unescape true text.length text else (text, false)
  job.say (if ended || flags.contains 110 then text else text ++ [10])

/-- Puts numbers in front of lines. -/
def numberLines (text : Bytes) : Bytes :=
  ((Text.lines text).zipIdx 1).flatMap fun (line, n) =>
    let number := Text.numeral n
    List.replicate (6 - number.length) 32 ++ number ++ [9] ++ line

/-- Writes files one after the other. A file that is being written to is not read. Line numbers go
on from one file to the next. -/
def cat : Job → Task Nat := withOptions "nu" fun job options => do
  let shown (text : Bytes) : Bytes := if options.has 'n' then numberLines text else text
  let mut done := []
  let mut code := 0
  for path in Job.sources options.operands do
    match ← job.openFile path with
    | .error errno =>
      job.complainPlainly path errno
      code := 1
    | .ok handle =>
      if (← get).feeds handle (job.attributes.descriptors.file? Descriptors.standardOutput) then
        job.complainOf "" (FileName.asNeeded path) ": input file is output file"
        code := 1
      else
        match ← Task.ofStorage (·.readAll handle) with
        | .error errno =>
          job.complainPlainly path errno
          code := 1
        | .ok text =>
          -- what is shown for a text begins with what is shown for its beginning
          let fresh := (shown (done ++ text)).drop (shown done).length
          if (← job.say fresh) != 0 then return 1
          done := done ++ text
  return code

/-- Copies standard input to standard output and to files. -/
def tee : Job → Task Nat := withOptions "ai" fun job options => do
  let mut code := 0
  let mut outputs := []
  for path in options.operands do
    let place := job.attributes.place
    let opened ← Task.ofStorage fun storage =>
      if options.has 'a' then storage.openAppend place path
      else storage.openOutput place path 0o666
    match opened with
    | .ok handle => outputs := outputs ++ [handle]
    | .error errno =>
      job.complainPlainly path errno
      code := 1
  match ← job.readInput with
  | .error errno => job.refuse ("read error: " ++ errno.description) 1
  | .ok bytes =>
    match ← job.write Descriptors.standardOutput bytes with
    | .ok () => pure ()
    | .error errno =>
      job.complainPlainly (Text.utf8 "standard output") errno
      code := 1
    for handle in outputs do
      modify (·.write handle bytes)
    return code

/-- What is counted in a text. -/
structure Counts where
  lines : Nat := 0
  words : Nat := 0
  bytes : Nat := 0

/-- The counts of a text. -/
def Counts.of (text : Bytes) : Counts where
  lines := text.count 10
  words :=
    (text.foldl
      (fun (count, inside) byte =>
        if [9, 10, 11, 12, 13, 32].contains byte then (count, false)
        else (if inside then count else count + 1, true))
      (0, false)).1
  bytes := text.length

/-- The counts of two texts together. -/
def Counts.add (a b : Counts) : Counts :=
  ⟨a.lines + b.lines, a.words + b.words, a.bytes + b.bytes⟩

/-- The width of the columns for several files: as many digits as the number of all their bytes
has, and at least seven if there is one that does not know its size. -/
def countWidth (storage : Machine.Storage) (files : List (Except Errno Handle)) : Nat :=
  let sizes := files.filterMap fun file => (file.toOption.map storage.size?)
  let total := sizes.foldl (fun total size => total + size.getD 0) 0
  max (Text.Decimal.digits total).length (if sizes.contains none then 7 else 1)

/-- Counts lines, words and bytes of files. -/
def wc : Job → Task Nat := withOptions "lwcm" fun job options => do
  let shown (letter : Char) : Bool := options.flags.isEmpty || options.has letter
  let columns (counts : Counts) : List Nat :=
    (if shown 'l' then [counts.lines] else []) ++ (if shown 'w' then [counts.words] else [])
      ++ (if options.has 'm' then [counts.bytes] else [])
      ++ (if shown 'c' then [counts.bytes] else [])
  let paths := Job.sources options.operands
  let files ← paths.mapM job.openFile
  let before ← get
  let single := paths.length = 1 && (columns {}).length = 1
  let width := if single then 1 else countWidth before files
  let line (name : Bytes) (counts : Counts) : Bytes :=
    spaced ((columns counts).map fun n =>
      List.replicate (width - (Text.Decimal.digits n).length) 32 ++ Text.numeral n)
      ++ (if options.operands.isEmpty then [] else 32 :: name) ++ [10]
  let mut output := []
  let mut total : Counts := {}
  let mut code := 0
  for (path, file) in paths.zip files do
    let name := if options.operands.isEmpty then Text.utf8 "standard input" else path
    match file with
    | .error errno =>
      job.complainPlainly path errno
      code := 1
    | .ok handle =>
      match ← Task.ofStorage (·.readAll handle) with
      | .ok bytes =>
        -- the bytes of a file are counted without reading them
        let isOnlyBytes := options.flags.all (· == 99) && !options.flags.isEmpty
        if isOnlyBytes && (before.size? handle).isSome then
          modify (·.seek handle (before.position handle))
        output := output ++ line path (Counts.of bytes)
        total := total.add (Counts.of bytes)
      | .error errno =>
        job.complainPlainly name errno
        output := output ++ line path {}
        code := 1
  let summary := if 1 < paths.length then line (Text.utf8 "total") total else []
  return max code (← job.say (output ++ summary))

/-- Whether a text comes no later than another in the order of their bytes. -/
def precedes : Bytes → Bytes → Bool
  | [], _ => true
  | _ :: _, [] => false
  | a :: as, b :: bs => a < b || (a == b && precedes as bs)

/-- The number at the beginning of a line, zero if there is none. -/
def leadingNumber (line : Bytes) : Int :=
  let digits (text : Bytes) : Nat :=
    (Text.numeral? 10 (text.takeWhile fun byte => 48 ≤ byte && byte ≤ 57)).getD 0
  match line.dropWhile fun byte => byte == 32 || byte == 9 with
  | 45 :: rest => -(digits rest : Int)
  | rest => digits rest

/-- Writes the lines of files in order: that of their bytes, or first that of the numbers in
front. -/
def sort (job : Job) : Task Nat := withOptions "run" run job 2
where
  /-- Sorts with given options. -/
  run (job : Job) (options : Options) : Task Nat := do
    let paths := Job.sources options.operands
    for path in paths do
      match ← job.openFile path with
      | .error errno =>
        job.complainOf "cannot read: " (FileName.asNeeded path) (": " ++ errno.description)
        return 2
      | .ok _ => pure ()
    let mut bytes := []
    for path in paths do
      match ← job.readFile path with
      | .ok more =>
        let ended := if more.isEmpty || more.getLast? = some 10 then more else more ++ [10]
        bytes := bytes ++ ended
      | .error errno =>
        job.complainOf "read failed: " (FileName.asNeeded path) (": " ++ errno.description)
        return 2
    let before (a b : Bytes) : Bool :=
      if options.has 'n' && leadingNumber a != leadingNumber b then
        leadingNumber a ≤ leadingNumber b
      else precedes a b
    let same (a b : Bytes) : Bool :=
      if options.has 'n' then leadingNumber a == leadingNumber b else a == b
    let sorted := ((Text.lines bytes).map (·.filter (· != 10))).mergeSort before
    let sorted := if options.has 'r' then sorted.reverse else sorted
    let final := if options.has 'u' then sorted.eraseRepsBy same else sorted
    match ← job.write Descriptors.standardOutput (final.flatMap (· ++ [10])) with
    | .ok () => return 0
    | .error errno =>
      job.refuse ("fflush failed: 'standard output': " ++ errno.description) 2

/-- The part of a file that `head` and `tail` are asked for. -/
structure Extent where
  /-- So many lines or bytes. -/
  count : Nat := 10
  inBytes : Bool := false
  /-- Whether the count is of the other part, which is left out. -/
  inverted : Bool := false
deriving DecidableEq, Repr

/-- Reads a count; the sign that inverts it is a minus for `head` and a plus for `tail`. Behind
blanks a plus means nothing. -/
def Extent.ofCount? (fromEnd inBytes : Bool) (text : Bytes) : Option Extent :=
  match text with
  | 43 :: digits =>
    (Text.numeral? 10 digits).map fun count =>
      if fromEnd then ⟨count - 1, inBytes, true⟩ else ⟨count, inBytes, false⟩
  | 45 :: digits => (Text.numeral? 10 digits).map (⟨·, inBytes, !fromEnd⟩)
  | _ =>
    let bare := text.dropWhile [9, 10, 11, 12, 13, 32].contains
    let digits := if bare != text && bare.head? == some 43 then bare.tail else bare
    (Text.numeral? 10 digits).map (⟨·, inBytes, false⟩)

/-- How `head` and `tail` were called. -/
inductive ExtentCall where
  | good (extent : Extent) (operands : List Bytes)
  | badCount (inBytes : Bool) (count : Bytes)
  | noCount (letter : UInt8)
  | badOption (letter : UInt8)
deriving DecidableEq, Repr

/-- Reads the extent and the files from the operands. -/
def Extent.ofOperands (fromEnd : Bool) (extent : Extent) (files : List Bytes) :
    List Bytes → ExtentCall
  | [] => .good extent files
  | [45, 45] :: rest => .good extent (files ++ rest)
  | [45, letter] :: value :: rest =>
    if letter = 110 || letter = 99 then
      match Extent.ofCount? fromEnd (letter == 99) value with
      | some extent => ofOperands fromEnd extent files rest
      | none => .badCount (letter == 99) value
    else
      match Extent.ofCount? fromEnd false [letter] with
      | some extent => ofOperands fromEnd extent files (value :: rest)
      | none => .badOption letter
  | (45 :: letter :: value) :: rest =>
    if letter = 110 || letter = 99 then
      if value.isEmpty then .noCount letter
      else
        match Extent.ofCount? fromEnd (letter == 99) value with
        | some extent => ofOperands fromEnd extent files rest
        | none => .badCount (letter == 99) value
    else
      match Text.numeral? 10 (letter :: value) with
      | some count => ofOperands fromEnd { count } files rest
      | none => .badOption letter
  | path :: rest => ofOperands fromEnd extent (files ++ [path]) rest

/-- The part of a text that an extent means, from the front or from the end. -/
def Extent.part (extent : Extent) (fromEnd : Bool) (text : Bytes) : Bytes :=
  let parts := if extent.inBytes then text.map ([·]) else Text.lines text
  let count := if extent.inverted then parts.length - extent.count else extent.count
  if fromEnd then (parts.drop (parts.length - count)).flatten else (parts.take count).flatten

/-- How many bytes are read at a time while lines are counted. -/
def blockLength : Nat := 8192

/-- Writes the first or the last part of files. Of several files each has a heading. What `head`
leaves of a file is read by whoever shares the file. -/
def excerpt (fromEnd : Bool) (job : Job) : Task Nat := do
  match Extent.ofOperands fromEnd {} [] job.operands with
  | .badCount inBytes count =>
    let unit := if inBytes then "bytes" else "lines"
    job.complainOf ("invalid number of " ++ unit ++ ": ") (FileName.always count) ""
    return 1
  | .noCount letter => job.misused "option requires an argument -- '" [letter] "'"
  | .badOption letter => job.misused "invalid option -- '" [letter] "'"
  | .good extent operands =>
    let paths := Job.sources operands
    let mut output := []
    let mut code := 0
    for path in paths do
      let name := if path = Job.dash then Text.utf8 "standard input" else path
      match ← job.openFile path with
      | .error errno =>
        job.complainOf "cannot open " (FileName.always name)
          (" for reading: " ++ errno.description)
        code := 1
      | .ok handle =>
        if 1 < paths.length then
          let gap := if output.isEmpty then [] else [10]
          output := output ++ gap ++ Text.utf8 "==> " ++ name ++ Text.utf8 " <==\n"
        if extent.count != 0 || extent.inverted then
          let start := (← get).position handle
          match ← Task.ofStorage (·.readAll handle) with
          | .error errno =>
            job.complainAbout "error reading" name errno
            code := 1
          | .ok text =>
            let shown := extent.part fromEnd text
            let block :=
              if extent.inverted then text.length else if extent.inBytes then 1 else blockLength
            if !fromEnd then modify (·.giveBack handle start shown.length block)
            output := output ++ shown
    return max code (← job.say output)

end JobShell.Program
