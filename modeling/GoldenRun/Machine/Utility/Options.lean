import GoldenRun.Machine.Utility.Basic

/-!
# Options of utilities

The arguments of a utility are options and operands; `--` ends the options. An option is a letter behind
`-`, several of which may stand together, or a long name behind `--`, of which a beginning is enough that
no other option has. The value of an option that takes one is what follows the letter, or what follows
`=` behind the long name, or else the next argument.

* `readOptions` gives the options in order up to the first that is at fault, and the operands.
* Options and operands come in any order, but some utilities take no option behind an operand.
-/

namespace GoldenRun.Machine

/-- Whether an option takes a value. -/
inductive ValueRule where
  | never
  | always
  /-- Only one that follows the letter at once, or `=` behind the long name; without one, this is the value. -/
  | attached (otherwise : String)
  deriving DecidableEq, Repr

/-- A way to write an option of a utility. -/
structure OptionKind where
  /-- What the utility knows the option by. -/
  key : String
  letter : Option Char := none
  names : List String := []
  takes : ValueRule := .never
  deriving DecidableEq, Repr

/-- Options without values that have no long names. -/
def flags (letters : String) : List OptionKind :=
  letters.toList.map fun letter => { key := String.singleton letter, letter := some letter }

/-- An option without a value, known by its letter. -/
def flag (letter : Char) (names : List String) : OptionKind :=
  { key := String.singleton letter, letter := some letter, names }

/-- An option with a value, known by its letter. -/
def valued (letter : Char) (names : List String) : OptionKind :=
  { flag letter names with takes := .always }

/-- A long name, known by itself. -/
def long (name : String) (takes : ValueRule := .never) : OptionKind :=
  { key := name, names := [name], takes }

/-- What is wrong with an option. -/
inductive OptionFault where
  | unknownLetter (letter : Char)
  | unknownName (arg : String)
  /-- More than one long name begins so. -/
  | ambiguous (arg : String) (names : List String)
  | missingValue (letter : Char)
  | missingNamedValue (name : String)
  /-- There is a value where none is taken. -/
  | unwantedValue (name : String)
  deriving DecidableEq, Repr

/-- What is said about a fault. -/
def OptionFault.message : OptionFault → String
  | unknownLetter letter => "invalid option -- '" ++ String.singleton letter ++ "'"
  | unknownName arg => "unrecognized option '" ++ arg ++ "'"
  | ambiguous arg names =>
    "option '" ++ arg ++ "' is ambiguous; possibilities:" ++
      String.join (names.map fun name => " '--" ++ name ++ "'")
  | missingValue letter => "option requires an argument -- '" ++ String.singleton letter ++ "'"
  | missingNamedValue name => "option '--" ++ name ++ "' requires an argument"
  | unwantedValue name => "option '--" ++ name ++ "' doesn't allow an argument"

/-- Arguments as they were read. -/
structure Arguments where
  /-- The options and their values, up to the first that is at fault. -/
  options : List (String × String) := []
  fault : Option OptionFault := none
  operands : List String := []
  /-- The arguments that are no operands. -/
  words : List String := []
  deriving DecidableEq, Repr

namespace Arguments

/-- The option of the given key is among them. -/
def has (arguments : Arguments) (key : String) : Bool :=
  arguments.options.any (·.1 == key)

/-- An option of one of these letters is among them. -/
def hasAny (arguments : Arguments) (letters : String) : Bool :=
  letters.toList.any fun letter => arguments.has (String.singleton letter)

/-- The values that were given for the option of the given key. -/
def values (arguments : Arguments) (key : String) : List String :=
  (arguments.options.filter (·.1 == key)).map Prod.snd

/-- Some more options in front, and the arguments that they are. -/
def withOptions (options : List (String × String)) (words : List String) (arguments : Arguments) :
    Arguments :=
  { arguments with
    options := options ++ arguments.options
    words := words ++ arguments.words }

/-- One more operand in front. -/
def withOperand (operand : String) (arguments : Arguments) : Arguments :=
  { arguments with operands := operand :: arguments.operands }

end Arguments

section

variable (kinds : List OptionKind)

/-- The options that letters behind one `-` are; and a fault, or a letter that still wants its value. -/
def readLetters :
    List Char → List (String × String) × Option (Except OptionFault (Char × String))
  | [] => ([], none)
  | c :: cs =>
    match kinds.find? (·.letter == some c) with
    | none => ([], some (.error (.unknownLetter c)))
    | some kind =>
      match kind.takes with
      | .never =>
        let (options, rest) := readLetters cs
        ((kind.key, "") :: options, rest)
      | .attached otherwise => ([(kind.key, if cs.isEmpty then otherwise else String.ofList cs)], none)
      | .always =>
        if cs.isEmpty then ([], some (.ok (c, kind.key))) else ([(kind.key, String.ofList cs)], none)

/-- The option that has a long name or its beginning, and the name in full. -/
def namedOption (arg name : String) : Except OptionFault (OptionKind × String) :=
  let all := kinds.flatMap fun kind => kind.names.map fun full => (kind, full)
  match all.find? (·.2 == name), all.filter fun o => name.toList.isPrefixOf o.2.toList with
  | some option, _ => .ok option
  | none, [] => .error (.unknownName arg)
  | none, option :: others =>
    if others.all fun o => o.1.key == option.1.key && o.1.takes == option.1.takes then .ok option
    else .error (.ambiguous arg ((option :: others).map Prod.snd))

/-- Arguments read from the left; `anywhere` allows options behind operands. `fuel` covers their
    number. -/
def readFrom (anywhere : Bool) : (fuel : Nat) → List String → Arguments
  | 0, args => { operands := args }
  | _ + 1, [] => {}
  | fuel + 1, arg :: rest =>
    match arg.toList with
    | ['-', '-'] => { operands := rest, words := [arg] }
    | '-' :: '-' :: cs =>
      let name := cs.takeWhile (· != '=')
      let value := if name.length = cs.length then none
        else some (String.ofList (cs.drop (name.length + 1)))
      match namedOption kinds arg (String.ofList name), value, rest with
      | .error fault, _, _ => { fault := some fault }
      | .ok (kind, name), value, rest =>
        let go (value : String) (words rest : List String) :=
          (readFrom anywhere fuel rest).withOptions [(kind.key, value)] words
        match kind.takes, value, rest with
        | .never, none, rest => go "" [arg] rest
        | .never, some _, _ => { fault := some (.unwantedValue name) }
        | .always, some value, rest | .attached _, some value, rest => go value [arg] rest
        | .always, none, value :: rest => go value [arg, value] rest
        | .always, none, [] => { fault := some (.missingNamedValue name) }
        | .attached otherwise, none, rest => go otherwise [arg] rest
    | '-' :: c :: cs =>
      match readLetters kinds (c :: cs), rest with
      | (options, none), rest => (readFrom anywhere fuel rest).withOptions options [arg]
      | (options, some (.error fault)), _ => { options, fault := some fault }
      | (options, some (.ok (_, key))), value :: rest =>
        (readFrom anywhere fuel rest).withOptions (options ++ [(key, value)]) [arg, value]
      | (options, some (.ok (letter, _))), [] => { options, fault := some (.missingValue letter) }
    | _ =>
      if anywhere then (readFrom anywhere fuel rest).withOperand arg else { operands := arg :: rest }

end

/-- Arguments of a utility with these options. -/
def readOptions (kinds : List OptionKind) (anywhere : Bool) (args : List String) : Arguments :=
  readFrom kinds anywhere (args.length + 1) args

/-! ## Trouble -/

/-- Why a utility does nothing. -/
structure Trouble where
  message : String
  /-- It is said where there is help. -/
  helps : Bool := false
  /-- The exit code, if it is not the usual one of the utility. -/
  code : Option Nat := none
  deriving DecidableEq, Repr

namespace Trouble

/-- Nothing is done, for a reason. -/
def because {α : Type} (message : String) : Except Trouble α := .error { message }

/-- Nothing is done because the utility is called wrongly. -/
def misuse {α : Type} (message : String) : Except Trouble α := .error { message, helps := true }

/-- The faulty option. -/
def ofFault (fault : OptionFault) : Trouble := { message := fault.message, helps := true }

end Trouble

/-- A word out of several groups of words of the same meaning, or a beginning that belongs to one group
    only. The answer is the first word of the group. -/
def oneOf (option : String) (groups : List (List String)) (value : String) : Except Trouble String :=
  let chosen := groups.filter (·.any (value.toList.isPrefixOf ·.toList))
  match groups.find? (·.contains value), chosen with
  | some group, _ | none, [group] => .ok (group.headD value)
  | none, _ =>
    .error {
      message := (if chosen.isEmpty then "invalid" else "ambiguous") ++ " argument " ++
        quotedWord value ++ " for " ++ quotedWord option ++ "\nValid arguments are:" ++
        String.join (groups.map fun group => "\n  - " ++ ", ".intercalate (group.map quotedWord))
      helps := true
      code := some 1 }

/-- The end of an errand that came to nothing. -/
def Errand.giveUp (errand : Errand) (code : Nat) (trouble : Trouble) : Effort :=
  let code := trouble.code.getD code
  if trouble.helps then { errand.misused trouble.message with code }
  else errand.complain code (errand.line trouble.message)

/-- The options of an errand put together from the first to the last; the first that cannot be used and a
    fault give up. -/
def Errand.foldOptions {σ : Type} (errand : Errand) (code : Nat) (arguments : Arguments) (start : σ)
    (step : σ → String × String → Except Trouble σ) (proceed : σ → Effort) : Effort :=
  match arguments.options.foldlM step start, arguments.fault with
  | .error trouble, _ => errand.giveUp code trouble
  | .ok _, some fault => errand.giveUp code (Trouble.ofFault fault)
  | .ok state, none => proceed state

/-- An errand whose options come in any order; a fault is told. -/
def Errand.withOptions (errand : Errand) (kinds : List OptionKind) (proceed : Arguments → Effort) :
    Effort :=
  let arguments := readOptions kinds true errand.args
  match arguments.fault with
  | some fault => errand.misused fault.message
  | none => proceed arguments

end GoldenRun.Machine
