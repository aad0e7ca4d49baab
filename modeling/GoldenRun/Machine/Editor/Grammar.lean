import GoldenRun.Machine.Editor.Syntax
import GoldenRun.Machine.Numeral

/-!
# The grammar of editing scripts

A script comes in pieces: expressions and files, in any order. Blocks and labels belong to the whole script,
and a text that goes on at the end of a piece goes on in the next one.

* `plainText` resolves the escapes of a text.
* `ScriptReader` reads a part of a piece; what is left when it fails tells where the fault is.
* `ScriptState.read` reads a piece behind others.
-/

namespace GoldenRun.Machine

/-! ## 1. Escapes -/

/-- What an escaped text is for. -/
inductive EscapeUse where
  | pattern
  | replacement
  /-- A text to be written. -/
  | text
  /-- Single characters. -/
  | table
  deriving DecidableEq, Repr

/-- The character that a letter behind a backslash stands for. -/
def control? : Char → Option Char
  | 'a' => some '\x07'
  | 'f' => some '\x0c'
  | 'n' => some '\n'
  | 'r' => some '\r'
  | 't' => some '\t'
  | 'v' => some '\x0b'
  | _ => none

/-- The digits behind a letter that stands for a base, and how many of them are read. -/
def codeBase? : Char → Option ((Char → Option Nat) × Nat × Nat)
  | 'd' => some (digit?, 10, 3)
  | 'o' => some (octal?, 8, 3)
  | 'x' => some (hex?, 16, 2)
  | _ => none

/-- A text with control characters and codes in place of their escapes. Other escapes stay, and so does the
    backslash in front of a character that would be taken for an operator. `fuel` covers the text. -/
def plainText (use : EscapeUse) : (fuel : Nat) → List Char → Except EditFault (List Char)
  | 0, _ | _, [] => .ok []
  | fuel + 1, '\\' :: c :: rest =>
    match control? c, codeBase? c with
    | some control, _ => (plainText use fuel rest).map (control :: ·)
    | none, some (digit, base, count) =>
      let (n, behind) := takeDigits digit base count 0 rest
      if behind.length = rest.length then (plainText use fuel rest).map (c :: ·)
      else
        let char := Char.ofNat (n % 256)
        let isOperator := use != .pattern && (char = '\\' || (char = '&' && use = .replacement))
        (plainText use fuel behind).map ((if isOperator then ['\\', char] else [char]) ++ ·)
    | none, none =>
      if c = 'c' then
        match rest with
        | [] => .ok ['\\']
        | '\\' :: '\\' :: rest => (plainText use fuel rest).map ('\x1c' :: ·)
        | '\\' :: _ => .error .nestedControl
        | d :: rest => (plainText use fuel rest).map (Char.ofNat (Nat.xor d.toUpper.toNat 64) :: ·)
      else (plainText use fuel rest).map (['\\', c] ++ ·)
  | fuel + 1, c :: rest => (plainText use fuel rest).map (c :: ·)

/-- A text without the backslashes that are left in it. -/
def withoutBackslashes : List Char → List Char
  | '\\' :: c :: rest => c :: withoutBackslashes rest
  | c :: rest => c :: withoutBackslashes rest
  | [] => []

/-! ## 2. Delimited texts -/

/-- Where in brackets a text is. -/
inductive BracketPlace where
  | beginning
  | behindCaret
  | inside
  /-- Behind another opening bracket. -/
  | opened
  /-- In a name of a class. -/
  | named (sign : Char)
  /-- Behind a sign that may end a name. -/
  | closing (sign : Char)
  deriving DecidableEq, Repr

/-- The place behind one more character, unless the brackets end with it. -/
def BracketPlace.next? (place : BracketPlace) (c : Char) : Option BracketPlace :=
  let isSign := c = '.' || c = ':' || c = '='
  match place, c with
  | .beginning, '^' => some .behindCaret
  | .beginning, ']' | .behindCaret, ']' => some .inside
  | .inside, ']' | .opened, ']' => none
  | .opened, '[' => some .opened
  | .opened, c => if isSign then some (.named c) else some .inside
  | .named sign, c => some (if c = sign then .closing sign else .named sign)
  | .closing _, ']' => some .inside
  | .closing sign, '[' => some (.closing sign)
  | .closing sign, _ => some (.named sign)
  | _, '[' => some .opened
  | _, _ => some .inside

/-- What a backslash and a character stand for in a delimited text. -/
def delimitedEscape (delimiter : Char) (isPattern : Bool) (c : Char) : List Char :=
  if isPattern && c = 'n' then ['\n']
  else if c = '\n' || (c = delimiter && (isPattern || c != '&')) then [c]
  else ['\\', c]

/-- Where in brackets a delimited text is behind one more character. -/
def bracketsBehind (isPattern : Bool) (place : Option BracketPlace) (c : Char) : Option BracketPlace :=
  match place with
  | some place => place.next? c
  | none => if isPattern && c = '[' then some .beginning else none

/-- A text up to a delimiter, and what is behind it. A backslash in front of the delimiter is dropped, and in
    a pattern the delimiter may stand in brackets. A text that does not end gives what is left to read. -/
def delimited (delimiter : Char) (isPattern : Bool) :
    (place : Option BracketPlace) → List Char → Except (List Char) (List Char × List Char)
  | _, [] => .error []
  | place, [c] =>
    if c = '\n' then .error [c]
    else if place.isNone && c = delimiter then .ok ([], [])
    else .error []
  | place, c :: d :: rest =>
    if c = '\n' then .error (c :: d :: rest)
    else if place.isNone && c = delimiter then .ok ([], d :: rest)
    else if place.isNone && c = '\\' then
      (delimited delimiter isPattern none rest).map fun (text, rest) =>
        (delimitedEscape delimiter isPattern d ++ text, rest)
    else
      (delimited delimiter isPattern (bracketsBehind isPattern place c) (d :: rest)).map fun (text, rest) =>
        (c :: text, rest)

/-! ## 3. Replacements -/

/-- Where the reading of a replacement is. -/
structure ReplacementState where
  /-- The parts, the last one first. -/
  parts : List ReplacementPart := []
  /-- The text behind the last part, backwards. -/
  text : List Char := []
  /-- What becomes of the case of the next part, and of those behind it. -/
  now : CaseRule := {}
  later : CaseRule := {}

/-- The state behind one more part. -/
def ReplacementState.close (state : ReplacementState) (group : Option Nat) : ReplacementState :=
  { state with
    parts := { text := state.text.reverse, group, rule := state.now } :: state.parts
    text := []
    now := state.later }

/-- The parts of a replacement behind some of them. A rule for the first letter is for the next part only. -/
def readParts (state : ReplacementState) : List Char → List ReplacementPart
  | [] =>
    (if state.text.isEmpty then state else state.close none).parts.reverse
  | ['\\'] => ({ state with text := '\\' :: state.text }.close none).parts.reverse
  | '\\' :: c :: rest =>
    let always (all : CaseChange) : ReplacementState :=
      { state.close none with now := { all }, later := { all } }
    let once (first : CaseChange) : ReplacementState :=
      let state := state.close none
      { state with later := state.now, now := { state.now with first } }
    match c with
    | 'L' => readParts (always .lower) rest
    | 'U' => readParts (always .upper) rest
    | 'E' => readParts (always .same) rest
    | 'l' => readParts (once .lower) rest
    | 'u' => readParts (once .upper) rest
    | c =>
      match digit? c with
      | some n => readParts (state.close (some n)) rest
      | none => readParts { state.close none with text := [c] } rest
  | '&' :: rest => readParts (state.close (some 0)) rest
  | c :: rest => readParts { state with text := c :: state.text } rest

/-! ## 4. Reading -/

/-- How a script is read. -/
structure ScriptStyle where
  /-- Its expressions are extended ones. -/
  extended : Bool := false
  /-- It must not reach for files and programs. -/
  sandboxed : Bool := false
  deriving DecidableEq, Repr

/-- A fault and where it is. -/
structure ScriptStop where
  fault : EditFault
  /-- What was not yet read. -/
  rest : List Char
  /-- A file that the command at fault writes. -/
  output : Option String := none

/-- A reader of a part of a script. -/
abbrev ScriptReader := StateT (List Char) (Except ScriptStop)

namespace ScriptReader

/-- The script is at fault here. -/
def fail {α : Type} (fault : EditFault) : ScriptReader α :=
  fun rest => .error { fault, rest }

/-- A reader of something behind the name of a file that is written. -/
def behindOutput {α : Type} (output : Option String) (reader : ScriptReader α) : ScriptReader α :=
  fun rest => (reader rest).mapError fun stop => { stop with output }

/-- The next character is read, unless the end is here. -/
def next? : ScriptReader (Option Char) := fun
  | [] => .ok (none, [])
  | c :: rest => .ok (some c, rest)

/-- The next character. -/
def peek? : ScriptReader (Option Char) := fun rest => .ok (rest.head?, rest)

/-- Characters of a kind are read. -/
def takeWhile (kind : Char → Bool) : ScriptReader (List Char) := fun rest =>
  .ok (rest.takeWhile kind, rest.dropWhile kind)

/-- Blanks are read past. -/
def skipBlanks : ScriptReader Unit := do
  let _ ← takeWhile fun c => c = ' ' || c = '\t'

/-- The next character that is no blank is read. -/
def nextFull? : ScriptReader (Option Char) := do
  skipBlanks
  next?

/-- A number in decimal digits; no digits make zero. -/
def number : ScriptReader Nat := fun rest =>
  let (n, rest) := leadingDigits rest
  .ok (n.getD 0, rest)

/-- The end of a command. -/
def commandEnd : ScriptReader Unit := do
  skipBlanks
  match ← peek? with
  | some '\x7d' | some '#' => pure ()
  | _ =>
    match ← next? with
    | none | some '\n' | some ';' => pure ()
    | _ => fail .excessText

/-- The name of a label. -/
def label : ScriptReader String := do
  skipBlanks
  let name ← takeWhile fun c => !c.isWhitespace && c != '\x0b' && c != '\x0c' && c != ';' && c != '\x7d' && c != '#'
  return String.ofList name

/-- The name of a file, up to the end of the line. -/
def fileName (style : ScriptStyle) : ScriptReader String := do
  if style.sandboxed then fail .sandboxed
  skipBlanks
  let name ← takeWhile (· != '\n')
  let _ ← next?
  if name.isEmpty then fail .missingFile else return String.ofList name

/-- A text up to a delimiter. -/
def upTo (delimiter : Option Char) (isPattern : Bool) (fault : EditFault) : ScriptReader (List Char) :=
  fun rest =>
    match delimiter with
    | none => .error { fault, rest }
    | some delimiter =>
      match delimited delimiter isPattern none rest with
      | .ok result => .ok result
      | .error rest => .error { fault, rest }

/-- A text with its escapes resolved. -/
def resolved (use : EscapeUse) (text : List Char) : ScriptReader (List Char) := fun rest =>
  match plainText use text.length text with
  | .ok text => .ok (text, rest)
  | .error fault => .error { fault, rest }

/-- The expression that a pattern spells, which may have to have some groups; an empty one stands for the last
    that was used. -/
def regex (extended folded byLine : Bool) (groups : Nat) (pattern : List Char) :
    ScriptReader (Option Regex) := do
  if pattern.isEmpty then
    if folded || byLine then fail .modifiedNothing else return none
  else
    let pattern ← resolved .pattern pattern
    match Regex.ofText (if extended then .extended else .basic) folded pattern byLine with
    | .error fault => fail (.regex fault)
    | .ok regex =>
      if regex.groupCount < groups then fail (.missingGroup groups)
      else if Regex.hasBareClass pattern.length pattern then fail .bareClass
      else return some regex

/-! ## 5. Addresses -/

/-- The letters behind a pattern of an address: whether case does not matter, and whether lines do. `fuel`
    covers the letters. -/
def patternFlags : (fuel : Nat) → (flags : Bool × Bool) → ScriptReader (Bool × Bool)
  | 0, flags => return flags
  | fuel + 1, flags => do
    skipBlanks
    match ← peek? with
    | some 'I' =>
      let _ ← next?
      patternFlags fuel (true, flags.2)
    | some 'M' =>
      let _ ← next?
      patternFlags fuel (flags.1, true)
    | _ => return flags

/-- An address, if there is one. -/
def limit? (extended : Bool) : ScriptReader (Option EditLimit) := do
  let found (delimiter : Option Char) : ScriptReader (Option EditLimit) := do
    let pattern ← upTo delimiter true .openAddress
    let (folded, byLine) ← patternFlags (← get).length (false, false)
    return some (.address (.found (← regex extended folded byLine 0 pattern)))
  match ← peek? with
  | some '/' =>
    let _ ← next?
    found (some '/')
  | some '\\' =>
    let _ ← next?
    found (← next?)
  | some '$' =>
    let _ ← next?
    return some (.address .last)
  | some '+' =>
    let _ ← next?
    skipBlanks
    return some (.lines (← number))
  | some '~' =>
    let _ ← next?
    skipBlanks
    return some (.multiple (← number))
  | some c =>
    if c.isDigit then do
      let first ← number
      skipBlanks
      if (← peek?) = some '~' then do
        let _ ← next?
        skipBlanks
        let size ← number
        return some (.address (if size = 0 then .line first else .step first size))
      else return some (.address (.line first))
    else return none
  | none => return none

/-- What a command is for, and the first character behind it that is no blank. -/
def scope (extended : Bool) : ScriptReader (EditScope × Option Char) := do
  match ← limit? extended with
  | none => return (.all, ← nextFull?)
  | some (.lines _) | some (.multiple _) => fail .stepFirst
  | some (.address first) =>
    let isZero := match first with
      | .line 0 => true
      | _ => false
    let c ← nextFull?
    if c = some ',' then
      skipBlanks
      match ← limit? extended with
      | none =>
        let _ ← next?
        fail .strayComma
      | some limit =>
        let c ← nextFull?
        let isFound := match limit with
          | .address (.found _) => true
          | _ => false
        if isZero && !isFound then fail .lineZero else return (.range first limit, c)
    else if isZero && c != some 'r' then fail .lineZero
    else return (.lines first, c)

/-! ## 6. Commands -/

/-- A text as it is written in a script, up to the end of its line; a backslash in front of a line feed goes
    on. The second part says whether the text goes on behind the end of the piece. -/
def textLines : List Char → List Char × Bool × List Char
  | [] => (['\n'], false, [])
  | ['\\'] => (['\n'], true, [])
  | '\\' :: c :: rest =>
    let (text, isOpen, rest) := textLines rest
    ('\\' :: c :: text, isOpen, rest)
  | c :: rest =>
    if c = '\n' then (['\n'], false, rest)
    else
      let (text, isOpen, rest) := textLines rest
      (c :: text, isOpen, rest)

/-- A text that is read from here on, and whether it goes on behind the end of the piece. -/
def openText : ScriptReader (List Char × Bool) := do
  let (text, isOpen, rest) := textLines (← get)
  set rest
  let text ← resolved .text text
  return (withoutBackslashes text, isOpen)

/-- The text of a command that writes it. -/
def text : ScriptReader (List Char × Bool) := do
  skipBlanks
  match ← peek? with
  | none => fail .missingText
  | some '\\' =>
    let _ ← next?
    if (← get).isEmpty then return ([], true)
    else
      if (← peek?) = some '\n' then
        let _ ← next?
      openText
  | some _ => openText

/-- The flags of a substitution. -/
structure SubstitutionFlags where
  folded : Bool := false
  byLine : Bool := false
  global : Bool := false
  executed : Bool := false
  printed : Bool := false
  printedBefore : Bool := false
  first : Option Nat := none
  output : Option String := none

/-- The flags of a substitution behind some of them. `fuel` covers what is left. -/
def substitutionFlags (style : ScriptStyle) : (fuel : Nat) → SubstitutionFlags → ScriptReader SubstitutionFlags
  | 0, flags => return flags
  | fuel + 1, flags => do
    let more (flags : SubstitutionFlags) : ScriptReader SubstitutionFlags := do
      substitutionFlags style fuel flags
    match ← peek? with
    | some '\x7d' | some '#' => return flags
    | some c =>
      if c.isDigit then
        if flags.first.isSome then
          let _ ← next?
          fail .severalNumbers
        else
          let n ← number
          if n = 0 then fail .zeroNumber else more { flags with first := some n }
      else
        let _ ← next?
        match c with
        | '\n' | ';' => return flags
        | ' ' | '\t' => more flags
        | 'i' | 'I' => more { flags with folded := true }
        | 'm' | 'M' => more { flags with byLine := true }
        | 'e' => more { flags with executed := true }
        | 'g' => if flags.global then fail .severalGlobals else more { flags with global := true }
        | 'p' =>
          if flags.printed || flags.printedBefore then fail .severalPrints
          else if flags.executed then more { flags with printed := true }
          else more { flags with printedBefore := true }
        | 'w' => return { flags with output := some (← fileName style) }
        | '\r' => if (← next?) = some '\n' then return flags else fail .unknownFlag
        | _ => fail .unknownFlag
    | none => return flags

/-- A substitution. -/
def substitution (style : ScriptStyle) : ScriptReader Substitution := do
  let delimiter ← next?
  let pattern ← upTo delimiter true .openSubstitution
  let replacement ← upTo delimiter false .openSubstitution
  let parts := readParts {} (← resolved .replacement replacement)
  let flags ← substitutionFlags style (← get).length.succ {}
  let pattern ← behindOutput flags.output
    (regex style.extended flags.folded flags.byLine (Substitution.highestGroup parts) pattern)
  if flags.executed && style.sandboxed then fail .sandboxed
  return {
    pattern, parts
    first := flags.first.getD 1
    global := flags.global
    executed := flags.executed
    printedBefore := flags.printedBefore && flags.executed
    printed := flags.printed || (flags.printedBefore && !flags.executed)
    output := flags.output }

/-- Pairs of characters, of which the first becomes the second. -/
def translation : ScriptReader (List (Char × Char)) := do
  let delimiter ← next?
  let source ← upTo delimiter false .openTranslation
  let source ← resolved .table source
  let result ← upTo delimiter false .openTranslation
  let result ← resolved .table result
  let source := withoutBackslashes source
  let result := withoutBackslashes result
  if source.length != result.length then fail .unequalLengths
  else
    commandEnd
    return source.zip result

/-- An optional number, and the end of the command. -/
def numberedEnd : ScriptReader (Option Nat) := do
  skipBlanks
  let n : Option Nat ← if (← peek?).any Char.isDigit then some <$> number else pure none
  commandEnd
  return n

/-- The command of a letter that has neither to do with blocks nor with labels, and whether its text goes on
    behind the end of the piece. -/
def action (style : ScriptStyle) (command : Char) : ScriptReader (EditAction × Bool) := do
  let simple (action : EditAction) : ScriptReader (EditAction × Bool) := do
    commandEnd
    return (action, false)
  let ofText (place : TextPlace) : ScriptReader (EditAction × Bool) := do
    let (text, isOpen) ← text
    return (.text place text, isOpen)
  match command with
  | 'a' => ofText .behind
  | 'i' => ofText .before
  | 'c' => ofText .instead
  | '=' => simple .lineNumber
  | 'F' => simple .fileName
  | 'p' => simple (.print false)
  | 'P' => simple (.print true)
  | 'd' => simple (.delete false)
  | 'D' => simple (.delete true)
  | 'n' => simple (.next false)
  | 'N' => simple (.next true)
  | 'h' => simple (.hold false)
  | 'H' => simple (.hold true)
  | 'g' => simple (.fetch false)
  | 'G' => simple (.fetch true)
  | 'x' => simple .exchange
  | 'z' => simple .clear
  | 'l' => return (.list (← numberedEnd), false)
  | 'q' => return (.quit ((← numberedEnd).getD 0) true, false)
  | 'Q' => return (.quit ((← numberedEnd).getD 0) false, false)
  | 'r' => return (.readFile (← fileName style), false)
  | 'R' => return (.readLine (← fileName style), false)
  | 'w' => return (.write false (← fileName style), false)
  | 'W' => return (.write true (← fileName style), false)
  | 's' => return (.substitute (← substitution style), false)
  | 'y' => return (.translate (← translation), false)
  | 'e' =>
    if style.sandboxed then fail .sandboxed
    skipBlanks
    let command ← takeWhile (· != '\n')
    let _ ← next?
    return (.execute command, false)
  | 'b' => return (.jump .always (← label), false)
  | 't' => return (.jump .replaced (← label), false)
  | 'T' => return (.jump .unreplaced (← label), false)
  | c => fail (.unknownCommand c)

end ScriptReader

/-! ## 7. Pieces -/

/-- Where a piece of a script comes from. -/
inductive ScriptOrigin where
  /-- The expression of a number, counted from 1. -/
  | expression (number : Nat)
  | file (name : String)
  deriving DecidableEq, Repr

/-- The place of a fault. -/
structure ScriptPlace where
  origin : ScriptOrigin
  /-- How many characters are in front of it. -/
  offset : Nat
  /-- The number of the line. -/
  line : Nat
  deriving DecidableEq, Repr

/-- How a message about a place begins. -/
def ScriptPlace.beginning (place : ScriptPlace) : String :=
  match place.origin with
  | .expression n => "-e expression #" ++ toString n ++ ", char " ++ toString place.offset
  | .file name => "file " ++ name ++ " line " ++ toString place.line

/-- What is said about a fault at a place. -/
def ScriptPlace.message (place : ScriptPlace) (fault : EditFault) : String :=
  place.beginning ++ ": " ++ fault.message

/-- Where the reading of a script is. -/
structure ScriptState where
  program : EditProgram := {}
  /-- The open blocks, the innermost first, with the number and the place of their beginning. -/
  blocks : List (Nat × ScriptPlace) := []
  /-- The text of the last command goes on. -/
  isOpen : Bool := false
  /-- Nothing was read yet. -/
  isFirst : Bool := true
  /-- How many expressions were read. -/
  expressions : Nat := 0

namespace ScriptState

/-- The state with one more command. -/
def put (state : ScriptState) (command : EditCommand) : ScriptState :=
  { state with program := { state.program with commands := state.program.commands.push command } }

/-- The text of the last command goes on with another. -/
def extend (state : ScriptState) (more : List Char) (isOpen : Bool) : ScriptState :=
  let commands := state.program.commands
  let commands := match commands.back? with
    | some command =>
      match command.action with
      | .text place text => commands.pop.push { command with action := .text place (text ++ more) }
      | _ => commands
    | none => commands
  { state with program := { state.program with commands }, isOpen }

/-- The beginning of the innermost block is told where the block ends. -/
def closeBlock (state : ScriptState) : ScriptState :=
  match state.blocks with
  | [] => state
  | (number, _) :: blocks =>
    let commands := state.program.commands.modify number fun command =>
      { command with action := .block state.program.commands.size }
    { state with program := { state.program with commands }, blocks }

/-- One more command read; `place` is the place of what is left of a piece. The state is the same at the end
    of the piece. -/
def readCommand (style : ScriptStyle) (isWhole : Bool) (place : List Char → ScriptPlace) (state : ScriptState) :
    ScriptReader ScriptState := do
  let isSpace (c : Char) : Bool := c.isWhitespace || c = '\x0b' || c = '\x0c'
  let _ ← ScriptReader.takeWhile fun c => isSpace c || c = ';'
  let atStart := (place (← get)).offset = 0
  if (← get).isEmpty then return state
  else
    let (scope, c) ← ScriptReader.scope style.extended
    let negated := c = some '!'
    let c ← if negated then ScriptReader.nextFull? else pure c
    let isAll := match scope with
      | .all => true
      | _ => false
    let put (action : EditAction) : ScriptState := state.put { scope, negated, action }
    match c with
    | none => ScriptReader.fail .missingCommand
    | some '!' => ScriptReader.fail .severalNegations
    | some '#' =>
      if !isAll then ScriptReader.fail .addressedComment
      else
        let silent := atStart && isWhole && (← ScriptReader.peek?) = some 'n'
        let _ ← ScriptReader.takeWhile (· != '\n')
        return { state with program := { state.program with silent := state.program.silent || silent } }
    | some ':' =>
      if !isAll then ScriptReader.fail .addressedLabel
      else
        let label ← ScriptReader.label
        if label.isEmpty then ScriptReader.fail .missingLabel
        else
          let labels := (label, state.program.commands.size) :: state.program.labels
          return { put .nothing with
            program := { (put .nothing).program with labels } }
    | some '\x7b' =>
      let number := state.program.commands.size
      return { put (.block (number + 1)) with blocks := (number, place (← get)) :: state.blocks }
    | some '\x7d' =>
      if state.blocks.isEmpty then ScriptReader.fail .strayBrace
      else if !isAll then ScriptReader.fail .addressedBrace
      else
        ScriptReader.commandEnd
        return (put .nothing).closeBlock
    | some 'v' =>
      let version ← ScriptReader.label
      let (major, rest) := leadingDigits version.toList
      let minor := (leadingDigits (rest.drop 1)).1.getD 0
      let isNewer := !version.isEmpty &&
        match major with
        | none => version.toList.head?.any ('4' < ·)
        | some major => 4 < major || (major = 4 && 9 < minor)
      if isNewer then ScriptReader.fail .newerVersion else return state
    | some c =>
      let isRange := match scope with
        | .range _ _ => true
        | _ => false
      if (c = 'q' || c = 'Q') && isRange then ScriptReader.fail .oneAddress
      else
        let (action, isOpen) ← ScriptReader.action style c
        match scope, action with
        | .lines (.line 0), .readFile path =>
          return state.put { scope := .lines (.line 1), action := .insertFile path }
        | _, _ => return { put action with isOpen }

/-- All commands of a piece behind others; at a fault, what was read in front of it. `fuel` covers the
    piece. -/
def readCommands (style : ScriptStyle) (isWhole : Bool) (place : List Char → ScriptPlace) :
    (fuel : Nat) → ScriptState → List Char → ScriptState × Option ScriptStop
  | 0, state, _ => (state, none)
  | fuel + 1, state, rest =>
    if rest.isEmpty then (state, none)
    else
      match state.readCommand style isWhole place rest with
      | .error stop => (state, some stop)
      | .ok (state, rest) => readCommands style isWhole place fuel state rest

/-- A piece of a script behind others. -/
def read (state : ScriptState) (style : ScriptStyle) (origin : ScriptOrigin) (piece : List Char) :
    ScriptState × Option (ScriptPlace × ScriptStop) :=
  let place (rest : List Char) : ScriptPlace :=
    let offset := piece.length - rest.length
    { origin, offset, line := (piece.take offset).countP (· = '\n') + 1 }
  let isWhole := state.isFirst
  let expressions := match origin with
    | .expression n => n
    | .file _ => state.expressions
  let state := { state with isFirst := false, expressions }
  let go := readCommands style isWhole place (piece.length + 1)
  let (state, stop) :=
    if state.isOpen then
      match ScriptReader.openText piece with
      | .error stop => (state, some stop)
      | .ok ((more, isOpen), rest) => go (state.extend more isOpen) rest
    else go state piece
  (state, stop.map fun stop => (place stop.rest, stop))

/-- What is wrong with the script as a whole. -/
def openBlock? (state : ScriptState) : Option (ScriptPlace × EditFault) :=
  state.blocks.head?.map fun (_, place) =>
    match place.origin with
    | .expression _ => ({ place with offset := 0 }, .openBlock)
    | .file _ => (place, .openBlock)

end ScriptState

end GoldenRun.Machine
