import GoldenRun.Machine.Shell.Redirect

/-!
# Commands of the shell itself

What the commands have in common that a shell carries out without starting a program: options in front of
their arguments, numbers, and texts in quotes.

* `specialCommands` are those whose failure ends the shell; `plainCommands` are the others.
-/

namespace GoldenRun.Machine.Shell

/-- The commands of the shell that are not special. -/
def plainCommands : List String :=
  ["alias", "bg", "cd", "chdir", "command", "echo", "false", "fg", "getopts", "hash", "jobs", "kill",
    "printf", "pwd", "read", "test", "[", "true", "type", "ulimit", "umask", "unalias", "wait"]

/-- Note a status and go on. -/
def ended (status : Nat) : Action Flow := do
  setStatus status
  return .next

/-- The number that an argument is. -/
def number (arg : String) : Action Nat :=
  match decimal? arg with
  | some n => return n
  | none => refuse ("Illegal number: " ++ arg)

/-- Options as they were given, with their values. -/
abbrev GivenOptions := List (Char × Option String)

/-- The options in a row of letters. The last one may take the rest of the row, or the next argument, as
    its value; the answer holds the arguments behind. -/
def readRow (known : List Char) (valued : List Char) (args : List String) :
    List Char → Action (GivenOptions × List String)
  | [] => return ([], args)
  | c :: cs => do
    if valued.contains c then
      match cs, args with
      | [], [] => refuse ("No arg for -" ++ String.singleton c ++ " option")
      | [], value :: args => return ([(c, some value)], args)
      | cs, args => return ([(c, some (String.ofList cs))], args)
    else if known.contains c then
      let (options, args) ← readRow known valued args cs
      return ((c, none) :: options, args)
    else refuse ("Illegal option -" ++ String.singleton c)

/-- The options in front of the arguments of a command. `fuel` covers the arguments. -/
def takeOptionsFrom (known valued : List Char) :
    (fuel : Nat) → List String → Action (GivenOptions × List String)
  | 0, args => return ([], args)
  | _, [] => return ([], [])
  | fuel + 1, arg :: rest => do
    match after? "-" arg with
    | none | some "" => return ([], arg :: rest)
    | some "-" => return ([], rest)
    | some letters =>
      let (options, rest) ← readRow known valued rest letters.toList
      let (more, rest) ← takeOptionsFrom known valued fuel rest
      return (options ++ more, rest)

/-- The options in front of the arguments of a command: letters that are known, and those that take a
    value. -/
def takeOptions (known valued : String) (args : List String) :
    Action (GivenOptions × List String) :=
  takeOptionsFrom known.toList valued.toList (args.length + 1) args

/-- Runs of a text that are all single quotes, or hold none. -/
def quoteRuns : List Char → List (List Char)
  | [] => []
  | c :: cs =>
    match quoteRuns cs with
    | (d :: run) :: runs =>
      if (c = '\x27') = (d = '\x27') then (c :: d :: run) :: runs else [c] :: (d :: run) :: runs
    | runs => [c] :: runs

/-- A text in single quotes, with double quotes for the single quotes in it. -/
def inQuotes (text : String) : String :=
  let quoted := (quoteRuns text.toList).flatMap fun run =>
    if run.head? = some '\x27' then '"' :: run ++ ['"'] else '\x27' :: run ++ ['\x27']
  String.ofList
    (if text.isEmpty || text.toList.head? = some '\x27' then "''".toList ++ quoted else quoted)

/-- A variable with its value as a script can read it. -/
def assignmentText (name : String) (value : Option String) : String :=
  match value with
  | some value => name ++ "=" ++ inQuotes value
  | none => name

/-- The place of a name in a table with so many places: sixteen times its first character and all of its
    characters, taken together. -/
def bucket (places : Nat) (name : String) : Nat :=
  (16 * (name.toList.headD '\x00').toNat +
    name.toList.foldl (fun total c => total + c.toNat) 0) % places

/-- Entries in the order of a table with so many places; those of one place stay as they are. -/
def byBucket {α : Type} (places : Nat) (name : α → String) (entries : List α) : List α :=
  entries.mergeSort fun a b => bucket places (name a) ≤ bucket places (name b)

/-- Carry out a command of the shell under its name. Its failure ends the shell if it is special. -/
def asCommand (name : String) (isSpecial : Bool) (action : Action Flow) : Action Flow :=
  if isSpecial then underName name action else underName name action <|> pure .next

end GoldenRun.Machine.Shell
