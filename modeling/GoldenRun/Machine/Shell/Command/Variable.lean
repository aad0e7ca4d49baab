import GoldenRun.Machine.Shell.Command.Basic

/-!
# Variables, arguments and options

* `export`, `readonly`, `local` and `unset` change what variables are;
* `set` and `shift` change arguments and options, `getopts` reads options out of arguments;
* `read` gives variables the fields of a line of input;
* `alias` and `unalias` give words another meaning.
-/

namespace GoldenRun.Machine.Shell

/-! ## 1. What variables are -/

/-- An argument of the form `NAME=VALUE`, or a name alone. -/
def splitAssignment (arg : String) : String × Option String :=
  let name := arg.toList.takeWhile (· != '=')
  let value := if name.length = arg.length then none
    else some (String.ofList (arg.toList.drop (name.length + 1)))
  (String.ofList name, value)

/-- Tell variables and their values in order of their names, with a text in front of each. -/
def listVariables (heading : String) (bindings : List (String × Option String)) : Action Unit := do
  for (name, value) in bindings.mergeSort fun a b => a.1 ≤ b.1 do
    say (heading ++ assignmentText name value ++ "\n")

/-- Mark the variables that arguments name, which may give them values, or list those that are marked. -/
def markAll (command : String) (mark : String → Action Unit) (marked : State → List String)
    (args : List String) : Action Flow := do
  let (options, args) ← takeOptions "p" "" args
  if options.isEmpty && !args.isEmpty then
    for arg in args do
      let (name, value) := splitAssignment arg
      if !isName name.toList then refuse (name ++ ": bad variable name")
      match value with
      | some value => assign name value
      | none => pure ()
      mark name
  else
    let shell ← getShell
    listVariables (command ++ " ") ((marked shell).map fun name => (name, shell.value? name))
  ended 0

/-- Make a variable known to other programs. -/
def exportVariable (name : String) : Action Unit :=
  modifyShell fun shell =>
    { shell with exported := name :: shell.exported.filter (· != name) }

/-- Make a variable keep its value. -/
def freeze (name : String) : Action Unit :=
  modifyShell fun shell =>
    { shell with constant := name :: shell.constant.filter (· != name) }

/-- `local`: the names get back their values at the end of the function. -/
def makeLocal (args : List String) : Action Flow := do
  if (← getShell).locals.isNone then refuse "not in a function"
  for arg in args do
    let (name, value) := splitAssignment arg
    if name = "-" then pure ()
    else
      if !isName name.toList then refuse (name ++ ": bad variable name")
      modifyShell fun shell =>
        { shell with locals := shell.locals.map (shell.outside name :: ·) }
      match value with
      | some value => assign name value
      | none => pure ()
  ended 0

/-- `unset`. -/
def unset (args : List String) : Action Flow := do
  let (options, args) ← takeOptions "vf" "" args
  let isFunction := (options.getLast?.map Prod.fst) = some 'f'
  for name in args do
    if isFunction then
      modifyShell fun shell => { shell with functions := shell.functions.filter (·.1 != name) }
    else if !isName name.toList then refuse (name ++ ": bad variable name")
    else unassign name
  ended 0

/-! ## 2. Arguments and options of the shell -/

/-- The options with their states. -/
def listOptions (asCommands : Bool) : Action Unit := do
  let shell ← getShell
  unless asCommands do say "Current option settings\n"
  for (name, _) in shellOptions do
    if asCommands then say ("set " ++ (if shell.has name then "-o " else "+o ") ++ name ++ "\n")
    else
      let blanks := String.ofList (List.replicate (16 - name.length) ' ')
      say (name ++ blanks ++ (if shell.has name then "on" else "off") ++ "\n")

/-- Turn options on or off by their letters; `o` is followed by a name among the arguments. The answer
    holds what is left of them. -/
def setLetters (on : Bool) (args : List String) : List Char → Action (List String)
  | [] => return args
  | 'o' :: letters => do
    match args with
    | [] => listOptions (!on)
    | name :: _ =>
      if shellOptions.any (·.1 == name) then modifyShell (·.setOption on name)
      else refuse ("Illegal option -o " ++ name)
    setLetters on (args.drop 1) letters
  | letter :: letters => do
    match shellOptions.find? (·.2 == some letter) with
    | some (name, _) => modifyShell (·.setOption on name)
    | none => refuse ("Illegal option -" ++ String.singleton letter)
    setLetters on args letters

/-- The shell with other arguments. -/
def setArguments (args : List String) : Action Unit :=
  modifyShell fun shell => { shell with args, optionPlace := (1, none) }

/-- Options of `set` in front of arguments. `fuel` covers the arguments. -/
def setOptionsFrom : (fuel : Nat) → List String → Action Unit
  | 0, _ | _, [] => return
  | fuel + 1, arg :: rest => do
    match after? "-" arg, after? "+" arg with
    | some "", _ => do
      modifyShell fun shell => (shell.setOption false "xtrace").setOption false "verbose"
      unless rest.isEmpty do setArguments rest
    | some "-", _ => setArguments rest
    | some letters, _ => do
      setOptionsFrom fuel (← setLetters true rest letters.toList)
    | none, some letters => do
      setOptionsFrom fuel (← setLetters false rest letters.toList)
    | none, none => setArguments (arg :: rest)

/-- `set`. -/
def setOptions (args : List String) : Action Flow := do
  let shell ← getShell
  if args.isEmpty then
    listVariables "" (shell.bindings.map fun (name, value) => (name, some value))
  else setOptionsFrom (args.length + 1) args
  ended 0

/-- `shift`. -/
def shift (args : List String) : Action Flow := do
  let count ← match args with
    | [] => pure 1
    | arg :: _ => number arg
  let shell ← getShell
  if shell.args.length < count then refuse "can't shift that many"
  else do
    setArguments (shell.args.drop count)
    ended 0

/-! ## 3. Options among arguments -/

/-- What `getopts` found: the letter or a sign for what is wrong, the value, the place of the next option,
    and what is said. -/
structure FoundOption where
  letter : Char
  value : Option String
  place : Nat × Option Nat
  complaint : Option String := none
  isDone : Bool := false
  deriving DecidableEq, Repr

/-- The next option in arguments, by the letters in a text; those with a colon take a value. -/
def nextOption (letters : String) (args : List String) (place : Nat × Option Nat) : FoundOption :=
  let (place, offset) :=
    if args.length + 1 < place.1 then ((1, none) : Nat × Option Nat) else place
  let isQuiet := letters.toList.head? = some ':'
  let current : List Char := match offset with
    | some offset => ((args[place - 2]?.getD "").toList).drop offset
    | none => []
  let (row, next, offset) : List Char × Nat × Nat :=
    if place ≤ 1 || current.isEmpty then
      match args[place - 1]? with
      | some arg =>
        match after? "-" arg with
        | some letters =>
          if letters.isEmpty then ([], place, 0) else (letters.toList, place + 1, 1)
        | none => ([], place, 0)
      | none => ([], place, 0)
    else (current, place, offset.getD 0)
  match row with
  | [] => { letter := '?', value := none, place := (place, none), isDone := true }
  | c :: rest =>
    if c = '-' && rest.isEmpty && offset = 1 then
      { letter := '?', value := none, place := (next, none), isDone := true }
    else
      let after : Nat × Option Nat := (next, some (offset + 1))
      let behind := (letters.toList.dropWhile fun d => d != c)
      if behind.isEmpty || c = ':' then
        { letter := '?', value := if isQuiet then some (String.singleton c) else none, place := after
          complaint := if isQuiet then none else some ("Illegal option -" ++ String.singleton c) }
      else if behind[1]? = some ':' then
        if !rest.isEmpty then
          { letter := c, value := some (String.ofList rest), place := (next, none) }
        else
          match args[next - 1]? with
          | some value => { letter := c, value := some value, place := (next + 1, none) }
          | none =>
            { letter := if isQuiet then ':' else '?'
              value := if isQuiet then some (String.singleton c) else none, place := (next, none)
              complaint :=
                if isQuiet then none else some ("No arg for -" ++ String.singleton c ++ " option") }
      else { letter := c, value := some "", place := after }

/-- `getopts`. -/
def getOption (args : List String) : Action Flow := do
  let (_, args) ← takeOptions "" "" args
  match args with
  | letters :: name :: given => do
    let shell ← getShell
    let found := nextOption letters (if given.isEmpty then shell.args else given) shell.optionPlace
    match found.complaint with
    | some text => tell text
    | none => pure ()
    unless found.isDone do
      match found.value with
      | some value => assign "OPTARG" value
      | none => unassign "OPTARG"
    modifyShell fun shell =>
      { shell.bind "OPTIND" (toString found.place.1) with optionPlace := found.place }
    assign name (String.singleton found.letter)
    ended (if found.isDone then 1 else 0)
  | _ => refuse "Usage: getopts optstring var [arg...]"

/-! ## 4. Reading a line -/

/-- The next line of the input, with the characters that backslashes protect marked, whether it was
    complete, and what is left. With `raw`, backslashes mean nothing. -/
def takeLine (raw : Bool) : Bytes → List Glyph × Bool × Bytes
  | [] => ([], false, [])
  | b :: rest =>
    if b = 0x0A then ([], true, rest)
    else if b = 0 then takeLine raw rest
    else if b = 0x5C && !raw then
      match rest with
      | [] => ([], false, [])
      | c :: rest =>
        let (glyphs, complete, rest) := takeLine raw rest
        (if c = 0x0A then glyphs else ⟨ByteText.charOf c, true⟩ :: glyphs, complete, rest)
    else
      let (glyphs, complete, rest) := takeLine raw rest
      (⟨ByteText.charOf b, false⟩ :: glyphs, complete, rest)

/-- `read`. -/
def readLine (args : List String) : Action Flow := do
  let (options, names) ← takeOptions "r" "p" args
  if names.isEmpty then refuse "arg count"
  let scene ← get
  match (scene.system.source scene.shell.channels).all? with
  | none => return .running
  | some content => do
    let (line, complete, rest) := takeLine (options.any (·.1 == 'r')) content
    modifySystem fun system => system.setSource scene.shell.channels (.bytes rest)
    let fields := splitLine (separators scene.shell) names.length line
    for (name, field) in names.zip fields do
      assign name (String.ofList (field.map Glyph.char))
    ended (if complete then 0 else 1)

/-! ## 5. Aliases -/

/-- The name and the value of an alias that an argument defines. -/
def splitAlias (arg : String) : Option (String × String) :=
  let rest := arg.toList.drop 1
  let name := arg.toList.take 1 ++ rest.takeWhile (· != '=')
  if name.length = arg.length then none
  else some (String.ofList name, String.ofList (arg.toList.drop (name.length + 1)))

/-- `alias`. -/
def defineAliases (args : List String) : Action Flow := do
  let shown (name value : String) : String := assignmentText name (some value) ++ "\n"
  if args.isEmpty then
    for (name, value) in byBucket 39 Prod.fst (← getShell).aliases do say (shown name value)
  setStatus 0
  for arg in args do
    match splitAlias arg with
    | some (name, value) =>
      modifyShell fun shell =>
        { shell with
          aliases := if shell.aliases.any (·.1 == name) then
              shell.aliases.map fun (n, v) => (n, if n = name then value else v)
            else shell.aliases ++ [(name, value)] }
    | none =>
      match (← getShell).aliases.lookup arg with
      | some value => say (shown arg value)
      | none => do
        tell ("alias: " ++ arg ++ " not found")
        setStatus 1
  return .next

/-- `unalias`. -/
def removeAliases (args : List String) : Action Flow := do
  let (options, args) ← takeOptions "a" "" args
  setStatus 0
  if !options.isEmpty then modifyShell fun shell => { shell with aliases := [] }
  else
    for name in args do
      if (← getShell).aliases.any (·.1 == name) then
        modifyShell fun shell => { shell with aliases := shell.aliases.filter (·.1 != name) }
      else do
        tell ("unalias: " ++ name ++ " not found")
        setStatus 1
  return .next

end GoldenRun.Machine.Shell
