import GoldenRun.Machine.Utility.Options

/-!
# Programs in another environment

What the program `env` is asked to do: variables taken away, variables given, another directory, and the
program to start then. `EnvironmentOrder.ofArguments` reads its arguments, and `splitString` cuts the words
out of a text that stands for several arguments.
-/

namespace GoldenRun.Machine.Shell

/-- What `env` is asked to do. -/
structure EnvironmentOrder where
  /-- No variable is kept. -/
  clears : Bool := false
  removed : List String := []
  directory : Option String := none
  /-- Variables are shown with zero bytes between them. -/
  zero : Bool := false
  /-- Variables in order, and the words of the program. -/
  given : List (String × String) := []
  program : List String := []
  deriving DecidableEq, Repr

/-- Where a character of a text with several words stands. -/
inductive SplitPlace where
  | between
  | word
  | single
  | double
  deriving DecidableEq, Repr

/-- What a character behind a backslash stands for. -/
def splitEscape (c : Char) : Option Char :=
  match c with
  | 'f' => some '\x0c'
  | 'n' => some '\n'
  | 'r' => some '\r'
  | 't' => some '\t'
  | 'v' => some '\x0b'
  | '#' | '$' | '"' | '\\' | '_' | '\x27' => some c
  | _ => none

/-- The words of a text; the newest character of the open word comes first. Variables stand in braces
    behind a dollar sign. -/
def splitFrom (value? : String → Option String) :
    (fuel : Nat) → SplitPlace → (open_ : List Char) → List Char → Except String (List String)
  | 0, _, _, _ => .ok []
  | fuel + 1, place, word, cs =>
    let finished (rest : List String) : List String :=
      if place = .between then rest else String.ofList word.reverse :: rest
    match cs with
    | [] =>
      if place = .single || place = .double then .error "no terminating quote in -S string"
      else .ok (finished [])
    | '\\' :: c :: rest =>
      let inWord : SplitPlace := if place = .between then .word else place
      if place = .single && c != '\\' && c != '\x27' then
        splitFrom value? fuel place (c :: '\\' :: word) rest
      else if c = 'c' then
        if place = .double then .error "'\\c' must not appear in double-quoted -S string"
        else .ok (finished [])
      else if c = '_' && place != .double then
        (splitFrom value? fuel .between [] rest).map finished
      else
        match splitEscape c with
        | some d => splitFrom value? fuel inWord ((if c = '_' then ' ' else d) :: word) rest
        | none => .error ("invalid sequence '\\" ++ String.singleton c ++ "' in -S")
    | ['\\'] => .error "invalid backslash at end of string in -S"
    | c :: rest =>
      match place with
      | .single =>
        if c = '\x27' then splitFrom value? fuel .word word rest
        else splitFrom value? fuel place (c :: word) rest
      | _ =>
        if c = '"' then splitFrom value? fuel (if place = .double then .word else .double) word rest
        else if c = '\x27' && place != .double then splitFrom value? fuel .single word rest
        else if c = '$' then
          let name := (rest.drop 1).takeWhile fun c => c.isAlphanum || c = '_'
          if rest.head? = some '\x7b' && (rest.drop (name.length + 1)).head? = some '\x7d' then
            let text := ((value? (String.ofList name)).getD "").toList
            splitFrom value? fuel (if place = .between then .word else place) (text.reverse ++ word)
              (rest.drop (name.length + 2))
          else
            .error ("only $\x7bVARNAME\x7d expansion is supported, error at: " ++ String.ofList cs)
        else if place != .double && " \t\n\x0b\x0c\r".toList.contains c then
          (splitFrom value? fuel .between [] rest).map finished
        else if place = .between && c = '#' then .ok []
        else splitFrom value? fuel (if place = .between then .word else place) (c :: word) rest

/-- The words of a text that stands for several arguments. -/
def splitString (value? : String → Option String) (text : String) : Except String (List String) :=
  splitFrom value? (text.length + 1) .between [] text.toList

namespace EnvironmentOrder

/-- The options of `env`. -/
def kinds : List OptionKind :=
  [flag 'i' ["ignore-environment"], flag '0' ["null"], valued 'u' ["unset"], valued 'C' ["chdir"],
    valued 'S' ["split-string"], flag 'v' ["debug"]]

/-- The arguments with a text that stands for several replaced by them. The text is what follows the
    first `-S`. -/
def splitArguments (value? : String → Option String) :
    (fuel : Nat) → List String → Except String (List String)
  | 0, args => .ok args
  | _, [] => .ok []
  | fuel + 1, arg :: rest =>
    let spliced (text : String) (rest : List String) : Except String (List String) := do
      let words ← splitString value? text
      splitArguments value? fuel (words ++ rest)
    match after? "-S" arg <|> after? "-vS" arg <|> after? "--split-string=" arg with
    | some "" =>
      match rest with
      | text :: rest => spliced text rest
      | [] => .ok [arg]
    | some text => spliced text rest
    | none =>
      if (after? "-" arg).isNone || arg = "--" || arg = "-" then .ok (arg :: rest)
      else if arg = "-u" || arg = "-C" then
        match rest with
        | value :: rest => (splitArguments value? fuel rest).map (arg :: value :: ·)
        | [] => .ok [arg]
      else (splitArguments value? fuel rest).map (arg :: ·)

/-- The name and the value of a variable that an argument gives. -/
def setting? (arg : String) : Option (String × String) :=
  let name := arg.toList.takeWhile (· != '=')
  if name.length = arg.length then none
  else some (String.ofList name, String.ofList (arg.toList.drop (name.length + 1)))

/-- The order that arguments give, or what is wrong with them and whether help is offered. -/
def ofArguments (value? : String → Option String) (args : List String) :
    Except (String × Bool) EnvironmentOrder := do
  let args ← (splitArguments value? (args.length + 16) args).mapError fun reason => (reason, false)
  let arguments := readOptions kinds false args
  match arguments.fault with
  | some fault => .error (fault.message, true)
  | none =>
    let isDash := arguments.operands.head? = some "-"
    let operands := if isDash then arguments.operands.drop 1 else arguments.operands
    let given := operands.takeWhile fun arg => (setting? arg).isSome
    let program := operands.drop given.length
    let removed := arguments.values "u"
    match removed.find? fun name => name.isEmpty || name.toList.contains '=' with
    | some name => .error ("cannot unset '" ++ name ++ "': Invalid argument", false)
    | none =>
      if arguments.has "0" && !program.isEmpty then
        .error ("cannot specify --null (-0) with command", true)
      else if arguments.has "C" && program.isEmpty then
        .error ("must specify command with --chdir (-C)", true)
      else
        return {
          clears := isDash || arguments.has "i"
          removed
          directory := (arguments.values "C").getLast?
          zero := arguments.has "0"
          given := given.filterMap setting?
          program }

end EnvironmentOrder

end GoldenRun.Machine.Shell
