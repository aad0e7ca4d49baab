import GoldenRun.Machine.Editor.Grammar
import GoldenRun.Machine.Editor.Session
import GoldenRun.Machine.Utility.Content
import GoldenRun.Machine.Utility.Deed

/-!
# Editing

`sed` reads an editing script from its options or its first operand and runs it on the files that the other
operands name, or on the input. Output is held back until the end, so that messages come first.
-/

namespace GoldenRun.Machine

/-- How `sed` is called. -/
def editUsage : List String :=
  ["Usage: sed [OPTION]... \x7bscript-only-if-no-other-script\x7d [input-file]...",
    "",
    "  -n, --quiet, --silent",
    "                 suppress automatic printing of pattern space",
    "      --debug",
    "                 annotate program execution",
    "  -e script, --expression=script",
    "                 add the script to the commands to be executed",
    "  -f script-file, --file=script-file",
    "                 add the contents of script-file to the commands to be executed",
    "  --follow-symlinks",
    "                 follow symlinks when processing in place",
    "  -i[SUFFIX], --in-place[=SUFFIX]",
    "                 edit files in place (makes backup if SUFFIX supplied)",
    "  -l N, --line-length=N",
    "                 specify the desired line-wrap length for the \x60l' command",
    "  --posix",
    "                 disable all GNU extensions.",
    "  -E, -r, --regexp-extended",
    "                 use extended regular expressions in the script",
    "                 (for portability use POSIX -E).",
    "  -s, --separate",
    "                 consider files as separate rather than as a single,",
    "                 continuous long stream.",
    "      --sandbox",
    "                 operate in sandbox mode (disable e/r/w commands).",
    "  -u, --unbuffered",
    "                 load minimal amounts of data from the input files and flush",
    "                 the output buffers more often",
    "  -z, --null-data",
    "                 separate lines by NUL characters",
    "      --help     display this help and exit",
    "      --version  output version information and exit",
    "",
    "If no -e, --expression, -f, or --file option is given, then the first",
    "non-option argument is taken as the sed script to interpret.  All",
    "remaining arguments are names of input files; if no input files are",
    "specified, then the standard input is read.",
    ""]

/-- The options of `sed`. -/
def editOptions : List OptionKind :=
  [flag 'b' ["binary"], flag 'E' [], flag 'r' ["regexp-extended"], long "debug",
    { flag 'i' ["in-place"] with takes := .attached "" }, valued 'e' ["expression"], valued 'f' ["file"],
    valued 'l' ["line-length"], flag 'z' ["null-data", "zero-terminated"], flag 'n' ["quiet", "silent"],
    long "posix", long "sandbox", flag 's' ["separate"], flag 'u' ["unbuffered"], long "version",
    long "help", long "follow-symlinks"]

/-- What options and the script in them ask for. -/
structure EditRequest where
  script : ScriptState := {}
  style : ScriptStyle := {}
  silent : Bool := false
  width : Nat := 70
  separate : Bool := false
  inPlace : Option String := none
  zeroLines : Bool := false
  strict : Bool := false
  unbuffered : Bool := false
  /-- A file that is written by a command that is at fault. -/
  output : Option String := none
  /-- Some of the script was read. -/
  hasScript : Bool := false
  /-- The beginning of messages about the script while it runs. -/
  place : String := ""

namespace EditRequest

/-- Why `sed` does not begin: an exit code and what is said. -/
structure Refusal where
  code : Nat
  text : String
  deriving DecidableEq, Repr

/-- One more piece of the script. -/
def read (request : EditRequest) (origin : ScriptOrigin) (piece : List Char) :
    EditRequest × Option Refusal :=
  let (script, stop) := request.script.read request.style origin piece
  let place : ScriptPlace := { origin, offset := 0, line := piece.countP (· = '\n') + 1 }
  let output := stop.bind fun (_, stop) => stop.output
  ({ request with script, output, hasScript := true, place := place.beginning },
    stop.map fun (place, stop) =>
      if stop.fault = .bareClass then { code := 4, text := stop.fault.message }
      else { code := 1, text := place.message stop.fault })

/-- One more option. -/
def withOption (errand : Errand) (request : EditRequest) (option : String × String) :
    EditRequest × Option Refusal :=
  match option with
  | ("E", _) | ("r", _) => ({ request with style := { request.style with extended := true } }, none)
  | ("sandbox", _) => ({ request with style := { request.style with sandboxed := true } }, none)
  | ("n", _) => ({ request with silent := true }, none)
  | ("l", text) => ({ request with width := ((leadingDigits text.toList).1).getD 0 }, none)
  | ("s", _) => ({ request with separate := true }, none)
  | ("i", ending) => ({ request with separate := true, inPlace := some ending }, none)
  | ("z", _) => ({ request with zeroLines := true }, none)
  | ("posix", _) => ({ request with strict := true }, none)
  | ("u", _) => ({ request with unbuffered := true }, none)
  | ("e", text) => request.read (.expression (request.script.expressions + 1)) text.toList
  | ("f", path) =>
    match errand.read path with
    | .ok source => request.read (.file path) ((source.all?.getD []).map ByteText.charOf)
    | .error cause =>
      if cause = Errno.isDirectory then request.read (.file path) []
      else
        (request, some { code := 4, text := "couldn't open file " ++ path ++ ": " ++ cause.message })
  | _ => (request, none)

/-- All options, up to the first that cannot be used. -/
def withOptions (errand : Errand) : EditRequest → List (String × String) → EditRequest × Option Refusal
  | request, [] => (request, none)
  | request, option :: rest =>
    match request.withOption errand option with
    | (request, some refusal) => (request, some refusal)
    | (request, none) => withOptions errand request rest

/-- What is wrong with the script as a whole. -/
def refusal? (request : EditRequest) : Option Refusal :=
  match request.script.openBlock?, request.script.program.missingLabel? with
  | some (place, fault), _ => some { code := 1, text := place.message fault }
  | none, some label => some { code := 4, text := "can't find label for jump to \x60" ++ label ++ "'" }
  | none, none => none

/-- The files that the script writes, emptied. -/
def emptied (request : EditRequest) (files : FileTree) : FileTree × Option Refusal :=
  (request.script.program.outputs ++ request.output.toList).foldl (fun (files, refusal) path =>
    match refusal, EditSession.outletOf path with
    | none, .file path =>
      match files.write (ByteText.toBytes path) [] with
      | .ok files => (files, none)
      | .error cause =>
        (files, some { code := 4, text := "couldn't open file " ++ path ++ ": " ++ cause.message })
    | refusal, _ => (files, refusal)) (files, none)

/-- The plan of a session. -/
def plan (request : EditRequest) (errand : Errand) : EditPlan where
  program := { request.script.program with silent := request.script.program.silent || request.silent }
  width := request.width
  separate := request.separate
  inPlace := request.inPlace
  ending := if request.zeroLines then '\x00' else '\n'
  strict := request.strict
  leavesInput := errand.seekable || request.unbuffered
  scriptPlace := request.place

/-- What the session of a request leaves. -/
def run (request : EditRequest) (errand : Errand) (operands : List String) : Effort :=
  let plan := request.plan errand
  let start : EditSession :=
    { waiting := operands
      ranges := EditSession.freshRanges plan
      input := errand.input
      files := errand.files }
  let session := start.run plan EditSession.maxEffort
  let said := session.said.reverse
  let endless := session.stage != .over || EditSession.maxEffort < session.effort
  let written := (said.filter (·.1 = .out)).flatMap Prod.snd
  { code := if session.refused then 2 else session.code
    said := if request.unbuffered then said else said.filter (·.1 = .err) ++ said.filter (·.1 = .out)
    files := session.files
    unread := session.input
    endless
    pours := if endless && !written.isEmpty then some written else none }

end EditRequest

/-- The lines of texts as an editing script wants them. -/
def sed : Utility := fun errand =>
  let usage := String.join (editUsage.map (· ++ "\n"))
  let arguments := readOptions editOptions true errand.args
  let (request, refusal) := EditRequest.withOptions errand {} arguments.options
  let (operands, request, refusal) :=
    if request.hasScript || refusal.isSome || arguments.fault.isSome then (arguments.operands, request, refusal)
    else
      match arguments.operands with
      | [] => ([], request, refusal)
      | script :: rest => (rest, request.read (.expression 1) script.toList)
  let (files, unopened) := request.emptied errand.files
  let errand := { errand with files }
  let fault := if refusal.isNone then arguments.fault else none
  let refusal := unopened <|> refusal <|> (if fault.isNone then request.refusal? else none)
  if arguments.has "help" then errand.say usage
  else
    match refusal, fault with
    | some refusal, _ => errand.complain refusal.code ("sed: " ++ refusal.text ++ "\n")
    | none, some fault => errand.complain 1 ("sed: " ++ fault.message ++ "\n" ++ usage)
    | none, none =>
      if !request.hasScript then errand.complain 1 usage
      else if request.inPlace.isSome && operands.isEmpty then errand.complain 4 "sed: no input files\n"
      else request.run errand (orInput operands)

end GoldenRun.Machine
