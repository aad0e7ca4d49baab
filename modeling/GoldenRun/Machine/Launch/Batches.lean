import GoldenRun.Machine.Launch.Basic

/-!
# Words put behind commands

`xargs` reads words and starts a command with them, as many at a time as fit or are asked for. With a *marker* it
starts the command for each line, which is put in place of the marker.

* `readWords` cuts the input into words: blanks and line feeds end a word, and quotes and backslashes keep them.
  With a separator, nothing else ends a word, and nothing keeps one together.
* `BatchState.add` puts words together to batches.
* `runBatches` starts the commands one after the other, until one of them cannot be started or ends in a way that
  leaves no point in going on.
-/

namespace GoldenRun.Machine.Launch

open Shell

/-! ## 1. Plans -/

/-- How commands are put together. -/
structure BatchPlan where
  /-- What ends a word, if it is not blanks. -/
  separator : Option Char := none
  /-- What a line is put in place of. -/
  marker : Option String := none
  /-- The most words of a command. -/
  words : Option Nat := none
  /-- The most lines of a command. -/
  lines : Option Nat := none
  /-- The most bytes of a command, each word having one more. -/
  size : Nat := 131072
  /-- A word that ends the input. -/
  last : Option String := none
  /-- A command that does not get as many words as it may is not started. -/
  isStrict : Bool := false
  /-- Without words no command is started. -/
  needsWords : Bool := false
  /-- Commands are told before they are started. -/
  isTold : Bool := false
  /-- The file that is read instead of the input. -/
  file : Option String := none
  warnings : List String := []
  deriving DecidableEq, Repr

/-- The options of `xargs`. -/
def batchOptions : List OptionKind :=
  [flag '0' ["null"], valued 'a' ["arg-file"], valued 'd' ["delimiter"], valued 'E' [],
    { flag 'e' ["eof"] with takes := .attached "" }, valued 'I' [],
    { flag 'i' ["replace"] with takes := .attached "\x7b\x7d" }, valued 'L' [],
    { flag 'l' ["max-lines"] with takes := .attached "1" }, valued 'n' ["max-args"],
    flag 'o' ["open-tty"], flag 'p' ["interactive"], flag 'r' ["no-run-if-empty"],
    valued 's' ["max-chars"], flag 't' ["verbose"], flag 'x' ["exit"], valued 'P' ["max-procs"],
    long "process-slot-var" .always, long "show-limits"]

namespace BatchPlan

/-- A number that an option gives. -/
def number (letter : Char) (least : Nat) (text : String) : Except Trouble Nat :=
  let cs := text.toList.dropWhile Size.isIndent
  let (isNegative, digits) : Bool × List Char :=
    match cs with
    | '-' :: rest => (true, rest)
    | '+' :: rest => (false, rest)
    | cs => (false, cs)
  let option := " for -" ++ String.singleton letter ++ " option"
  match decimal? (String.ofList digits) with
  | none => Trouble.misuse ("invalid number \"" ++ text ++ "\"" ++ option)
  | some n =>
    if (isNegative && n != 0) || n < least then
      Trouble.misuse ("value " ++ text ++ option ++ " should be >= " ++ toString least)
    else .ok n

/-- The character that a text for a separator stands for. -/
def separatorOf (text : String) : Except Trouble Char :=
  let invalid (more : String) : Except Trouble Char :=
    Trouble.because ("Invalid escape sequence " ++ text ++ " in input delimiter specification" ++ more)
  let numbered (digit? : Char → Option Nat) (base most : Nat) (digits : List Char) : Except Trouble Char :=
    let (n, rest) := takeDigits digit? base digits.length 0 digits
    if 255 < n then
      invalid ("; character values must not exceed " ++ String.ofList (Nat.toDigits base most) ++ ".")
    else if !rest.isEmpty then
      invalid ("; trailing characters " ++ String.ofList rest ++ " not recognised.")
    else .ok (Char.ofNat n)
  match text.toList with
  | [c] => .ok c
  | '\\' :: 'x' :: rest => numbered hex? 16 255 rest
  | '\\' :: c :: rest =>
    if (octal? c).isSome then numbered octal? 8 255 (c :: rest)
    else
      match escaped? c with
      | some d => .ok d
      | none => invalid "."
  | _ =>
    Trouble.because ("Invalid input delimiter specification " ++ text ++
      ": the delimiter must be either a single character or an escape sequence starting with \\.")

/-- The plan with a warning, if the options named by two texts exclude each other here. -/
def excluding (plan : BatchPlan) (isThere : Bool) (new old : String) : BatchPlan :=
  if isThere then
    { plan with
      warnings := plan.warnings ++ ["warning: options --" ++ old ++ " and " ++ new ++
        " are mutually exclusive, ignoring previous --" ++ old ++ " value"] }
  else plan

/-- The plan with a limit of lines, which is called by the given names in warnings. -/
def withLines (plan : BatchPlan) (letter : Char) (name : String) (text : String) :
    Except Trouble BatchPlan := do
  let lines ← number letter 1 text
  let plan := (plan.excluding plan.words.isSome name "max-args").excluding plan.marker.isSome
    (if letter = 'l' then "--max-lines" else name) "replace"
  return { plan with lines := some lines, words := none, marker := none }

/-- The plan with a marker. -/
def withMarker (plan : BatchPlan) (marker : String) : BatchPlan :=
  let name := "--replace/-I/-i"
  let plan := (plan.excluding plan.words.isSome name "max-args").excluding plan.lines.isSome name "max-lines"
  { plan with marker := some marker, words := none, lines := none }

/-- The plan with one more option. -/
def withOption (plan : BatchPlan) (option : String × String) : Except Trouble BatchPlan :=
  let (key, text) := option
  match key with
  | "0" => .ok { plan with separator := some '\x00' }
  | "a" => .ok { plan with file := some text }
  | "d" => do return { plan with separator := some (← separatorOf text) }
  | "E" | "e" => .ok { plan with last := if text.isEmpty then none else some text }
  | "I" | "i" => .ok (plan.withMarker text)
  | "L" => plan.withLines 'L' "-L" text
  | "l" => plan.withLines 'l' "--max-lines/-l" text
  | "n" => do
    let words ← number 'n' 1 text
    if words = 1 && plan.marker.isSome then return plan
    else
      let plan := (plan.excluding plan.lines.isSome "--max-args/-n" "max-lines").excluding plan.marker.isSome
        "--max-args/-n" "replace"
      return { plan with words := some words, lines := none, marker := none }
  | "P" => (number 'P' 0 text).map fun _ => plan
  | "r" => .ok { plan with needsWords := true }
  | "s" => do
    let size ← number 's' 1 text
    return { plan with size := min size 131072 }
  | "t" | "p" => .ok { plan with isTold := true }
  | "x" => .ok { plan with isStrict := true }
  | _ => .ok plan

end BatchPlan

/-! ## 2. Words -/

/-- What is met while words are read. -/
inductive WordEvent where
  | word (text : String)
  /-- The end of a line behind a word; whether it counts as one. -/
  | line (counts : Bool)
  | fault (reason : String)
  deriving DecidableEq, Repr

/-- Where a reader of words is. -/
inductive WordPlace where
  | between
  | word
  | quoted (quote : Char)
  | escaped
  deriving DecidableEq, Repr

/-- A word as it is handed on; it ends at a zero byte. -/
def wordText (reversed : List Char) : String :=
  String.ofList (reversed.reverse.takeWhile (· != '\x00'))

/-- The complaint about a quote without an end. -/
def unmatchedQuote (quote : Char) : WordEvent :=
  .fault ("unmatched " ++ (if quote = '"' then "double" else "single") ++
    " quote; by default quotes are special to xargs unless you use the -0 option")

/-- The words behind a place. `word` is the open word, its newest character first; `met` says whether the line has
    a word, even an empty one, and `isFirst` whether no word of the line was handed on yet. -/
def readWords (plan : BatchPlan) :
    (place : WordPlace) → (met isFirst : Bool) → (before : Char) → (word : List Char) → List Char →
    List WordEvent
  | place, _, isFirst, _, word, [] =>
    if word.isEmpty then []
    else
      match place with
      | .quoted quote => [unmatchedQuote quote]
      | _ =>
        if isFirst && plan.last = some (wordText word) then []
        else [.word (wordText word)]
  | place, met, isFirst, before, word, c :: cs =>
    let isBlank (c : Char) : Bool := c = ' ' || c = '\t'
    let inWord (met : Bool) : List WordEvent :=
      if c = '\n' then
        if word.isEmpty && !met then readWords plan .between false true c [] cs
        else if plan.last = some (wordText word) then []
        else
          .word (wordText word) :: .line (!isBlank before) :: readWords plan .between false true c [] cs
      else if plan.marker.isNone && isBlank c then
        if plan.last = some (wordText word) then []
        else .word (wordText word) :: readWords plan .between true false c [] cs
      else if c = '\\' then readWords plan .escaped true isFirst c word cs
      else if c = '\x27' || c = '"' then readWords plan (.quoted c) true isFirst c word cs
      else readWords plan .word true isFirst c (c :: word) cs
    match place with
    | .between =>
      if Size.isIndent c then readWords plan .between met isFirst c word cs else inWord met
    | .word => inWord met
    | .quoted quote =>
      if c = '\n' then [unmatchedQuote quote]
      else if c = quote then readWords plan .word true isFirst c word cs
      else readWords plan place met isFirst c (c :: word) cs
    | .escaped => readWords plan .word met isFirst c (c :: word) cs

/-- The words between separators. -/
def readParts (separator : Char) (cs : List Char) : List WordEvent :=
  let parts := cut (· = separator) cs
  let parts := if parts.getLast? = some [] then parts.dropLast else parts
  parts.flatMap fun part => [.word (wordText part.reverse), .line true]

/-! ## 3. Batches -/

/-- Batches, and the one that is open. -/
structure BatchState where
  /-- The finished batches, the newest first. -/
  done : List (List String) := []
  /-- The words of the open batch, the newest first. -/
  words : List String := []
  bytes : Nat := 0
  lines : Nat := 0
  fault : Option String := none
  deriving DecidableEq, Repr

namespace BatchState

/-- The state with its open batch closed. -/
def close (state : BatchState) : BatchState :=
  { state with done := state.words.reverse :: state.done, words := [], bytes := 0, lines := 0 }

/-- The state with its open batch closed, if there are words in it and it may be started before a fault. -/
def closeFor (plan : BatchPlan) (reason : String) (state : BatchState) : BatchState :=
  let state := if state.words.isEmpty || plan.isStrict || plan.marker.isSome then state else state.close
  { state with fault := some reason }

/-- The state after an event; `initial` is the size of the command without words. -/
def add (plan : BatchPlan) (initial : Nat) (state : BatchState) (event : WordEvent) : BatchState :=
  if state.fault.isSome then state
  else
    match event with
    | .fault reason => state.closeFor plan reason
    | .line counts =>
      let lines := if counts then state.lines + 1 else state.lines
      if plan.lines.any (· ≤ lines) then { state with lines }.close else { state with lines }
    | .word text =>
      let length := text.length + 1
      if plan.size < length + initial + 1 then state.closeFor plan "argument line too long"
      else
        let isFull := plan.size < initial + state.bytes + length
        if isFull && plan.isStrict && (plan.words.isSome || plan.lines.isSome) then
          { state with fault := some "argument list too long" }
        else
          let state := if isFull then { state.close with lines := state.lines } else state
          let state := { state with words := text :: state.words, bytes := state.bytes + length }
          if plan.words.any (· ≤ state.words.length) then { state.close with lines := state.lines } else state

end BatchState

/-- The commands that are started, and what is wrong behind them. -/
def batchesOf (plan : BatchPlan) (program : List String) (input : List Char) :
    List (List String) × Option String :=
  let events := match plan.separator with
    | some separator => readParts separator input
    | none => readWords plan .between false true ' ' [] input
  match plan.marker with
  | some marker =>
    let lines := events.filterMap fun
      | .word text => some text
      | _ => none
    let fault := events.findSome? fun
      | .fault reason => some reason
      | _ => none
    let filled (line : String) (arg : String) : String :=
      String.ofList (replaceMarker marker.toList line.toList (arg.length + 1) arg.toList)
    (lines.map fun line => program.take 1 ++ (program.drop 1).map (filled line), fault)
  | none =>
    let initial := program.foldl (fun n word => n + word.length + 1) 0
    if plan.size ≤ initial + 1 && (plan.size < initial || !events.isEmpty) then
      ([], some "cannot fit single argument within argument list size limit")
    else
      let state := events.foldl (BatchState.add plan initial) {}
      let isIdle := state.done.isEmpty && !plan.needsWords && state.fault.isNone
      let state := if !state.words.isEmpty && state.fault.isNone then state.close
        else if isIdle && state.words.isEmpty then state.close else state
      (state.done.reverse.map (program ++ ·), state.fault)

/-! ## 4. Commands -/

/-- Start commands one after the other. The answer is the exit code, or the end of it all if that comes before the
    last command. -/
def runCommands (launcher : Launcher) (name : String) (isTold : Bool) :
    (code : Nat) → List (List String) → Action (Except Ending Nat)
  | code, [] => return .ok code
  | code, command :: rest => do
    let program := command.headD ""
    if isTold then tell (spaced (command.map wordForShell))
    let stop (code : Nat) (reason : String) : Action (Except Ending Nat) := do
      tell (name ++ ": " ++ program ++ ": " ++ reason)
      return .error (.exited code)
    match ← launch launcher program (command.drop 1) with
    | .error cause => stop (if cause = .notFound then 127 else 126) cause.message
    | .ok (.exited 0) => runCommands launcher name isTold code rest
    | .ok (.exited 255) => stop 124 "exited with status 255; aborting"
    | .ok (.exited _) => runCommands launcher name isTold 123 rest
    | .ok (.killed signal) => stop 125 ("terminated by signal " ++ toString signal)
    | .ok .running => return .error .running

/-- Words put behind a command, which is started with them. -/
def runBatches (launcher : Launcher) (name : String) (args : List String) : Action Ending := do
  let arguments := readOptions batchOptions false args
  withPlan name 1 arguments ({} : BatchPlan) BatchPlan.withOption fun plan => do
    for warning in plan.warnings do tell (name ++ ": " ++ warning)
    let files := (← getSystem).files
    let content : Except String (Option Bytes) ←
      match plan.file.filter (· != "-") with
      | some path =>
        match Source.ofPath files path with
        | .ok source => pure (.ok source.all?)
        | .error cause =>
          pure (.error ("Cannot open input file " ++ quotedName path ++ ": " ++ cause.message))
      | none => do
        match ← readInput with
        | .ok content => pure (.ok content)
        | .error _ => pure (.ok (some []))
    match content with
    | .error reason => do
      tell (name ++ ": " ++ reason)
      return .exited 1
    | .ok none => return .running
    | .ok (some bytes) => do
      if plan.separator.isNone && bytes.contains 0 then
        tell (name ++ ": WARNING: a NUL character occurred in the input.  It cannot be passed through in the " ++
          "argument list.  Did you mean to use the --null option?")
      let program := if arguments.operands.isEmpty then ["echo"] else arguments.operands
      let (commands, fault) := batchesOf plan program (ByteText.ofBytes bytes).toList
      let run := runCommands launcher name plan.isTold 0 commands
      match ← (if plan.file.isSome then run else withInput (.bytes []) run), fault with
      | .error ending, _ => return ending
      | .ok _, some reason => do
        tell (name ++ ": " ++ reason)
        return .exited 1
      | .ok code, none => return .exited code

end GoldenRun.Machine.Launch
