import GoldenRun.Machine.Calendar
import GoldenRun.Machine.Layout
import GoldenRun.Machine.Utility.Table

/-!
# The state of the machine

Time is counted in nanoseconds since the start of the command, and nothing takes time but sleeping. What
a process writes is kept in *chunks*, each with the stream that it went to and its time, so that
processes that run at the same time can be carried out one after the other: a stream is put in order by
time when it is read.

* A *channel* is what a process has under a stream number: something to read, something to write to, or
  a file. A number without a channel is closed.
* A *job* is a process that is not waited for. It holds the streams that it got until it ends.
-/

namespace GoldenRun.Machine

/-- What stands behind a stream number of a process. -/
inductive Channel where
  /-- Read from the reader of that number. -/
  | reader (number : Nat)
  /-- Write to the stream of that number. -/
  | stream (number : Nat)
  /-- Read from or write to the open file of that number. -/
  | file (number : Nat)
  deriving DecidableEq, Repr

/-- A file as it was opened. -/
structure OpenFile where
  location : Location
  /-- Where the next byte is read or written. -/
  offset : Nat := 0
  readable : Bool := false
  writable : Bool := false
  /-- Everything is written to the end. -/
  appends : Bool := false
  deriving DecidableEq, Repr

/-- The channels of a process by their numbers. -/
abbrev Channels := List (Nat × Channel)

/-- Bytes written to a stream. -/
structure Chunk where
  stream : Nat
  time : Nat
  bytes : Bytes
  deriving DecidableEq, Repr

/-- A moment that does not come. -/
def never : Nat := Nat.pow 10 40

/-- How a process ended. -/
inductive Ending where
  | exited (status : Nat)
  | killed (signal : Nat)
  /-- It had not ended at the limit. -/
  | running
  deriving DecidableEq, Repr

/-- The status that a shell sees. -/
def Ending.status : Ending → Nat
  | .exited status => status
  | .killed signal => 128 + signal
  | .running => 0

/-- A process that is not waited for. -/
structure Job where
  number : Nat
  ends : Nat
  ending : Ending
  deriving DecidableEq, Repr

/-- The state of the machine. -/
structure System where
  files : FileTree
  now : Nat := 0
  /-- When the process that is waited for is killed. -/
  deadline : Option Nat := none
  /-- The newest chunk first. -/
  chunks : List Chunk := []
  readers : List (Nat × Source) := []
  opened : List (Nat × OpenFile) := []
  jobs : List Job := []
  /-- Streams that are written to over and over, and what. -/
  poured : List (Nat × Bytes) := []
  /-- Streams and the jobs that hold them. -/
  holds : List (Nat × Nat) := []
  /-- The next number for a reader, a stream, an open file or a job. -/
  fresh : Nat := 100

namespace System

/-! ## 1. Streams -/

/-- The stream of a process that its caller reads as output. -/
def outStream : Nat := 1

/-- The stream of a process that its caller reads as errors. -/
def errStream : Nat := 2

/-- The files, for changes at this moment. -/
def filesNow (system : System) : FileTree :=
  { system.files with clock := Calendar.start + system.now }

/-- A new number. -/
def take (system : System) : Nat × System :=
  (system.fresh, { system with fresh := system.fresh + 1 })

/-- What was written to a stream so far, in order of time. -/
def collected (system : System) (stream : Nat) : Bytes :=
  let chunks := system.chunks.reverse.filter (·.stream == stream)
  (chunks.mergeSort fun a b => a.time ≤ b.time).flatMap Chunk.bytes

/-- When the last job that holds a stream ends. -/
def heldUntil (system : System) (stream : Nat) : Nat :=
  let holders := (system.holds.filter (·.1 == stream)).map Prod.snd
  ((system.jobs.filter (holders.contains ·.number)).map Job.ends).foldl max 0

/-- What a reader of a stream finds. Nothing is put in front of what comes over and over. -/
def sourceOf (system : System) (stream : Nat) : Source :=
  match system.poured.lookup stream with
  | some pattern => .cycle pattern
  | none => .bytes (system.collected stream)

/-- The system without what was written to a stream. -/
def forget (system : System) (stream : Nat) : System :=
  { system with
    chunks := system.chunks.filter (·.stream != stream)
    poured := system.poured.filter (·.1 != stream) }

/-- The time after a wait until the given moment; `none` if the deadline comes first. -/
def waitUntil? (system : System) (moment : Nat) : Option System :=
  let moment := max system.now moment
  match system.deadline with
  | some deadline => if deadline < moment then none else some { system with now := moment }
  | none => some { system with now := moment }

/-- A new reader of a source. -/
def addReader (system : System) (source : Source) : Channel × System :=
  let (number, system) := system.take
  (.reader number, { system with readers := (number, source) :: system.readers })

/-- A file that was opened. -/
def addFile (system : System) (file : OpenFile) : Channel × System :=
  let (number, system) := system.take
  (.file number, { system with opened := (number, file) :: system.opened })

/-- The content of a file. -/
def contentAt (system : System) (location : Location) : Bytes :=
  match system.files.at? location with
  | some (.file _ content) => content
  | _ => []

/-- The system with another place in an open file. -/
def setOffset (system : System) (number offset : Nat) : System :=
  { system with
    opened := system.opened.map fun (n, file) =>
      (n, if n = number then { file with offset } else file) }

/-- What is left to a reader. -/
def source (system : System) (channels : Channels) : Source :=
  match channels.lookup 0 with
  | some (.reader number) => (system.readers.lookup number).getD (.bytes [])
  | some (.file number) =>
    match system.opened.lookup number with
    | some file =>
      if file.readable then .bytes ((system.contentAt file.location).drop file.offset)
      else .refusing .badDescriptor
    | none => .refusing .badDescriptor
  | some (.stream _) => .bytes []
  | none => .refusing .badDescriptor

/-- The input is a file, so that what a program did not use is left for the next one. -/
def isSeekable (channels : Channels) : Bool :=
  match channels.lookup 0 with
  | some (.file _) => true
  | _ => false

/-- The system with something else left to the reader of a process. -/
def setSource (system : System) (channels : Channels) (source : Source) : System :=
  match channels.lookup 0, source with
  | some (.reader number), _ =>
    { system with readers := (number, source) :: system.readers.filter (·.1 != number) }
  | some (.file number), .bytes rest =>
    match system.opened.lookup number with
    | some file =>
      system.setOffset number ((system.contentAt file.location).length - rest.length)
    | none => system
  | _, _ => system

/-- Bytes in place of those from an offset on; what lies between the end and the offset is zero. -/
def overwritten (old : Bytes) (offset : Nat) (bytes : Bytes) : Bytes :=
  old.take offset ++ List.replicate (offset - old.length) 0 ++ bytes ++
    old.drop (offset + bytes.length)

/-- The system after bytes were written to a numbered stream of a process. What is written to a file that
    was removed is lost. -/
def write (system : System) (channels : Channels) (number : Nat) (bytes : Bytes) :
    Except Errno System :=
  match channels.lookup number with
  | some (.stream stream) =>
    .ok { system with chunks := ⟨stream, system.now, bytes⟩ :: system.chunks }
  | some (.file number) =>
    match system.opened.lookup number with
    | none => .error .badDescriptor
    | some file =>
      if !file.writable then .error .badDescriptor
      else
        match system.files.at? file.location with
        | none => .ok system
        | some _ =>
          let old := system.contentAt file.location
          let offset := if file.appends then old.length else file.offset
          (system.filesNow.writeAt file.location (overwritten old offset bytes)).map fun files =>
            { system with files := files }.setOffset number (offset + bytes.length)
  | _ => .error .badDescriptor

/-! ## 2. Programs -/

/-- A program with its arguments, ready to be started. -/
structure Executable where
  /-- The program's name on the machine. -/
  program : String
  /-- The name that it was called by. -/
  calledAs : String
  args : List String
  deriving DecidableEq, Repr

/-- The longest argument, in bytes. -/
def maxArgument : Nat := 131071

/-- The longest list of arguments, in bytes, a pointer being counted for each. -/
def maxArguments : Nat := 2097152

/-- How many interpreters a script may lead through. -/
def maxInterpreters : Nat := 5

/-- How many bytes of a file say what it is. -/
def headSize : Nat := 256

/-- A blank or a tabulator. -/
def isBlankByte (b : UInt8) : Bool := b = 0x20 || b = 0x09

/-- The beginning of a file behind `#!`, with zero bytes behind its end; `none` for a file that does not
    begin so. -/
def scriptHead? (content : Bytes) : Option Bytes :=
  if (utf8 "#!").isPrefixOf content then
    some ((content.take headSize ++ List.replicate (headSize - content.length) 0).drop 2)
  else none

/-- The bytes without blanks at both ends. -/
def withoutBlanks (bytes : Bytes) : Bytes :=
  ((bytes.reverse.dropWhile isBlankByte).reverse).dropWhile isBlankByte

/-- The interpreter that the first line of a script names, and its argument. A line that does not end
    within the first bytes is cut off there, but its name has to end. `none` stands for a file that is no
    script, and a name that is missing is empty. -/
def interpreter? (content : Bytes) : Option (String × List String) :=
  (scriptHead? content).map fun head =>
    let whole := head.takeWhile fun b => b != 0x0A && b != 0
    let isComplete := (head.drop whole.length).head? == some 0x0A
    let line := withoutBlanks (if isComplete then whole else head.dropLast)
    let name := line.takeWhile fun b => !isBlankByte b && b != 0
    let behind := line.drop name.length
    let arg := if behind.head? == some 0 then []
      else (behind.dropWhile isBlankByte).takeWhile (· != 0)
    let ends := isComplete || ((head.dropWhile isBlankByte).drop name.length).any fun b =>
      isBlankByte b || b == 0
    (if ends then ByteText.ofBytes name else "",
      if arg.isEmpty then [] else [ByteText.ofBytes arg])

/-- The program that the file at a path holds, called by a name. -/
def executableAt (tree : FileTree) :
    (interpreters : Nat) → (path name : String) → (args : List String) → Except Errno Executable
  | interpreters, path, calledAs, args =>
    match tree.find true (ByteText.toBytes path) with
    | .error e => .error e
    | .ok (.file attributes content) =>
      if attributes.mode &&& 0o111 = 0 then .error .accessDenied
      else
        match interpreter? content, interpreters with
        | some ("", _), _ => .error .execFormat
        | some _, 0 => .error .tooManyLinks
        | some (name, extra), n + 1 => executableAt tree n name name (extra ++ path :: args)
        | none, _ =>
          if magic.isPrefixOf content then
            .ok ⟨ByteText.ofBytes (content.drop magic.length), calledAs, args⟩
          else .error .execFormat
    | .ok _ => .error .accessDenied

/-- Where programs without a slash in their name are looked for. -/
def searchPath : String :=
  "/usr/local/sbin:/usr/local/bin:/usr/sbin:/usr/bin:/sbin:/bin"

/-- The paths that a name without a slash may stand for. -/
def candidates (searchPath name : String) : List String :=
  (cut (· = ':') searchPath.toList).map fun dir =>
    if dir.isEmpty then name else String.ofList dir ++ "/" ++ name

/-- The path of a program by its name. -/
def programPath (tree : FileTree) (searchPath name : String) : Except Errno String :=
  if name.isEmpty then .error .notFound
  else if name.toList.contains '/' then .ok name
  else if FileTree.maxName < name.length then .error .nameTooLong
  else
    let paths := candidates searchPath name
    match paths.find? fun path => tree.isFile (ByteText.toBytes path) with
    | some path => .ok path
    | none =>
      .error (if paths.any fun path => tree.exists? (ByteText.toBytes path) then .accessDenied
        else .notFound)

/-- The arguments are not too long, the name of the program among them. -/
def argumentsFit (args : List String) : Bool :=
  args.all (·.length ≤ maxArgument) &&
    args.foldl (fun total arg => total + arg.length + 9) 0 ≤ maxArguments

/-- The program of the given name with its arguments. -/
def find (system : System) (searchPath name : String) (args : List String) :
    Except Errno Executable := do
  let path ← programPath system.files searchPath name
  let executable ← executableAt system.files maxInterpreters path name args
  if argumentsFit (name :: args) then return executable else .error .argumentsTooLong

/-! ## 3. Utilities -/

/-- The number of an output stream. -/
def outletNumber : Outlet → Nat
  | .out => 1
  | .err => 2

/-- Write what was said, in order; and why the first refused part of the output was refused. -/
def writeAll (channels : Channels) :
    List (Outlet × Bytes) → System → Option Errno × System
  | [], system => (none, system)
  | (outlet, bytes) :: rest, system =>
    match if bytes.isEmpty then .ok system else system.write channels (outletNumber outlet) bytes with
    | .ok system => writeAll channels rest system
    | .error e =>
      let (later, system) := writeAll channels rest system
      (if outlet = .out then some e else later, system)

/-- Carry out a utility under a name. The answer also says why its output could not be written, if it
    could not. -/
def runUtility (system : System) (channels : Channels) (utility : Utility) (name : String)
    (args : List String) (environment : List (String × String) := []) :
    Ending × Option Errno × System :=
  let effort := utility {
    name, args, environment
    input := system.source channels
    files := system.filesNow
    seekable := isSeekable channels }
  let system := { system with files := effort.files }.setSource channels effort.unread
  let (refused, system) := writeAll channels effort.said system
  let (stopped, system) := match effort.pours, channels.lookup 1 with
    | some pattern, some (.stream stream) =>
      (none, { system with poured := (stream, pattern) :: system.poured })
    | some pattern, _ =>
      match system.write channels 1 pattern with
      | .error e => (some e, system)
      | .ok _ => (none, system)
    | none, _ => (none, system)
  let refused := refused.or stopped
  match effort.endless && stopped.isNone, system.waitUntil? (system.now + effort.slept) with
  | false, some system =>
    (.exited (if refused.isSome then max 1 effort.code else effort.code), refused, system)
  | _, _ => (.running, refused, system)

/-- What a program says when its output is refused, and its exit code. A closed output may have got the number
    of a file that was opened, and then it can be closed once more. -/
def outputRefused (executable : Executable) (cause : Errno) : String × Nat :=
  let ⟨program, calledAs, args⟩ := executable
  let isClosed := cause = .badDescriptor
  let reason := ": " ++ cause.message
  let say (name text : String) : String := name ++ ": " ++ text ++ "\n"
  match program with
  | "diff" => (say calledAs ("standard output" ++ reason), 2)
  | "cat" => (say calledAs ((if isClosed then "standard output" else "write error") ++ reason), 1)
  | "yes" => (say calledAs ("standard output" ++ reason), 1)
  | "ls" => (say calledAs ("write error" ++ reason), 2)
  | "expr" => (say calledAs ("write error" ++ reason), 3)
  | "grep" | "egrep" | "fgrep" | "rgrep" => (say "grep" ("write error" ++ reason), 2)
  | "wc" => (say calledAs ("write error" ++ if isClosed then reason else ""), 1)
  | "sort" =>
    let isFree := isClosed && args.all fun arg => arg.toList.head? = some '-'
    (say calledAs ("fflush failed: 'standard output'" ++ reason) ++
      say calledAs ("write error" ++ if isFree then reason else ""), 2)
  | "sed" => (say "sed" ((if isClosed then "couldn't close stdout" else "couldn't flush stdout") ++ reason), 4)
  | _ => (say calledAs ("write error" ++ reason), 1)

/-- Carry out a utility as a program. -/
def runProgram (system : System) (channels : Channels) (executable : Executable)
    (environment : List (String × String)) : Ending × System :=
  let ⟨program, calledAs, args⟩ := executable
  match utility? program with
  | none => (.exited 127, system)
  | some utility =>
    match system.runUtility channels utility calledAs args environment with
    | (.exited _, some cause, system) =>
      let (reason, code) := outputRefused executable cause
      (.exited code, (writeAll channels [(.err, ByteText.toBytes reason)] system).2)
    | (ending, _, system) => (ending, system)

end System

end GoldenRun.Machine
