import GoldenRun.Machine.Shell.Syntax

/-!
# The grammar of shell scripts

A script is read command by command: `nextCommand?` gives the commands up to the end of the line in which
they end, and a `Cursor` to what follows. What stands in front of a fault is thus carried out before the
fault is found, and the aliases that it makes count from there on.

A text means different things in different places; `Place` lists them. The readers call one another
through `fuel`, which covers the length of the text and the depth of what lies in one another.

* `Reader.pieces` reads text up to the end of its place;
* `Reader.readToken` reads the next word or operator, aliases replaced;
* `Reader.list`, `Reader.command` and those between them read commands.
-/

namespace GoldenRun.Machine.Shell

/-! ## 1. The cursor -/

/-- A token. -/
inductive Token where
  | word (word : Word)
  | operator (text : String)
  | reserved (text : String)
  /-- A redirection with the number in front of it. -/
  | redirection (number : Option Nat) (redirection : Redirection)
  | newline
  | ending

namespace Token

/-- The token as messages show it. -/
def shown : Token → String
  | .word _ => "word"
  | .operator text | .reserved text => "\"" ++ text ++ "\""
  | .redirection _ _ => "redirection"
  | .newline => "newline"
  | .ending => "end of file"

/-- The token is this operator. -/
def isOperator (text : String) : Token → Bool
  | .operator found => found == text
  | _ => false

/-- The token is this reserved word. -/
def isReserved (text : String) : Token → Bool
  | .reserved found => found == text
  | _ => false

/-- The token ends a list of commands. -/
def closesList : Token → Bool
  | .operator text => text == ")" || text == ";;"
  | .reserved text => closingWords.contains text
  | .ending => true
  | _ => false

end Token

/-- An alias whose text is being read. -/
structure RunningAlias where
  name : String
  /-- How much is left behind the text. -/
  behind : Nat
  /-- The text ends in a blank, so that the word behind it may be an alias too. -/
  leadsOn : Bool
  deriving DecidableEq, Repr

/-- A place in a script. -/
structure Cursor where
  rest : List Char
  line : Nat := 1
  /-- The lines of documents behind the current line. -/
  owed : Nat := 0
  aliases : List (String × String) := []
  running : List RunningAlias := []
  /-- A token that was read and put back. -/
  token : Option Token := none

/-- The cursor behind lines that are continued here. -/
def joinLines : List Char → Nat → List Char × Nat
  | '\\' :: '\n' :: rest, line => joinLines rest (line + 1)
  | rest, line => (rest, line)

/-- What reads from a cursor, or finds a fault in a line. -/
abbrev Reader := StateT Cursor (Except (SyntaxFault × Nat))

namespace Reader

/-- A fault at this place. -/
def fail {α : Type} (fault : SyntaxFault) : Reader α := do
  throw (fault, (← get).line)

/-- A fault that shows at the end of the text only. -/
def failAtEnd {α : Type} (fault : SyntaxFault) : Reader α := do
  let cursor ← get
  throw (fault, cursor.line + cursor.rest.countP (· == '\n'))

/-- A token stands where it does not belong. -/
def unexpected {α : Type} (token : Token) (expected : Option String := none) : Reader α :=
  fail (.unexpected token.shown expected)

/-- The next character. -/
def peek? : Reader (Option Char) := do
  let cursor ← get
  let (rest, line) := joinLines cursor.rest cursor.line
  set { cursor with rest, line }
  return rest.head?

/-- Go on by so many characters, none of them a line feed. -/
def skip (count : Nat) : Reader Unit :=
  modify fun cursor => { cursor with rest := cursor.rest.drop count }

/-- Go on behind a line feed. -/
def skipLineFeed : Reader Unit :=
  modify fun cursor =>
    { cursor with rest := cursor.rest.drop 1, line := cursor.line + 1 + cursor.owed, owed := 0 }

/-- Take a character. -/
def take (c : Char) : Reader Unit :=
  if c = '\n' then skipLineFeed else skip 1

/-- Take the next character if it is the given one. -/
def takeIf (c : Char) : Reader Bool := do
  if (← peek?) = some c then
    skip 1
    return true
  else return false

/-- Take the characters of a kind. -/
def takeWhile (kind : Char → Bool) : (fuel : Nat) → Reader (List Char)
  | 0 => return []
  | fuel + 1 => do
    match ← peek? with
    | some c =>
      if kind c then
        skip 1
        return c :: (← takeWhile kind fuel)
      else return []
    | none => return []

/-- Take all characters of a kind. -/
def takeAll (kind : Char → Bool) : Reader String := do
  return String.ofList (← takeWhile kind ((← get).rest.length + 1))

/-! ## 2. Places of text -/

/-- Where a text stands. -/
inductive Place where
  /-- A word of a command, up to a blank or an operator. -/
  | word
  /-- The word that a document ends with. Nothing is expanded in it. -/
  | mark
  /-- Double quotes, up to the closing one. -/
  | quotes
  /-- A document, to its end. -/
  | document
  /-- The braces of a parameter outside of quotes. -/
  | braces
  /-- The braces of a parameter in quotes or in a document. Further quotes may be open in them. -/
  | quotedBraces (inDocument inQuotes : Bool)
  /-- An expression in which so many brackets are open. -/
  | expression (open_ : Nat)
  deriving DecidableEq, Repr

namespace Place

/-- The text is quoted. -/
def isQuoted : Place → Bool
  | .word | .mark | .braces => false
  | .quotes | .document | .quotedBraces _ _ | .expression _ => true

/-- The braces of a parameter in this place. -/
def within : Place → Place
  | .word | .mark | .braces => .braces
  | .document => .quotedBraces true false
  | .quotedBraces inDocument _ => .quotedBraces inDocument false
  | .quotes | .expression _ => .quotedBraces false false

/-- A piece of text in this place. -/
def text (place : Place) (text : String) : Piece :=
  if place.isQuoted then .quoted text else .plain text

/-- A backslash takes the meaning of the character from it, and does not stand for itself. -/
def protects (place : Place) (c : Char) : Bool :=
  match place with
  | .word | .mark | .braces => true
  | .quotes | .expression _ => "\\\x60$\"".toList.contains c
  | .document => "\\\x60$".toList.contains c
  | .quotedBraces _ _ => "\\\x60$\"\x7d".toList.contains c

/-- What is wrong if the text ends in this place. -/
def faultAtEnd? : Place → Option SyntaxFault
  | .word | .mark | .document => none
  | .quotes | .quotedBraces false _ => some .unterminatedQuote
  | .braces | .quotedBraces true _ => some (.missing "\x7d")
  | .expression _ => some (.missing "))")

end Place

/-- A character that ends a word. -/
def isMeta (c : Char) : Bool :=
  " \t\n;&|<>()".toList.contains c

/-- A character that stands for itself in every place. -/
def isOrdinary (c : Char) : Bool :=
  !(isMeta c || "\\\x27\"\x60$\x7b\x7d".toList.contains c)

/-- Neighbouring pieces of text in one. -/
def joinPieces : Word → Word
  | .plain a :: rest =>
    match joinPieces rest with
    | .plain b :: rest => .plain (a ++ b) :: rest
    | rest => .plain a :: rest
  | .quoted a :: rest =>
    match joinPieces rest with
    | .quoted b :: rest => .quoted (a ++ b) :: rest
    | rest => .quoted a :: rest
  | piece :: rest => piece :: joinPieces rest
  | [] => []

/-- What double quotes make of their pieces: a field, even if nothing is in it, unless it is all
    arguments alone. -/
def quotedWord : Word → Word
  | [.parameter true "@" .value] => [.parameter true "@" .value]
  | word => .quoted "" :: word

/-- The text of a back-quoted script, and what follows it, with its lines counted. -/
def takeBackquoted (quoted : Bool) : List Char → Nat → Option (List Char × List Char × Nat)
  | [], _ => none
  | '\\' :: '\n' :: cs, line => takeBackquoted quoted cs (line + 1)
  | '\\' :: c :: cs, line =>
    (takeBackquoted quoted cs (if c = '\n' then line + 1 else line)).map fun (text, rest) =>
      (if "\\\x60$".toList.contains c || (quoted && c = '"') then c :: text else '\\' :: c :: text,
        rest)
  | c :: cs, line =>
    if c = '\x60' then some ([], cs, line)
    else
      (takeBackquoted quoted cs (if c = '\n' then line + 1 else line)).map fun (text, rest) =>
        (c :: text, rest)

/-- The name of a parameter in braces, and whether its length is asked for. -/
def parameterHead : Reader (Option String × Bool) := do
  match ← peek? with
  | none | some '\x7d' => return (none, false)
  | some c =>
    if isNameStart c then return (some (← takeAll isNameChar), false)
    else if c.isDigit then return (some (← takeAll Char.isDigit), false)
    else do
      skip 1
      let special : Option String × Bool :=
        (if isSpecialParameter c then some (String.singleton c) else none, false)
      if c != '#' then return special
      match ← peek? with
      | none => return special
      | some d =>
        if isNameStart d then return (some (← takeAll isNameChar), true)
        else if d.isDigit then return (some (← takeAll Char.isDigit), true)
        else
          let cursor ← get
          let behind := (joinLines (cursor.rest.drop 1) 0).1
          if d != '\x7d' && behind.head? = some '\x7d' then do
            skip 1
            return if isSpecialParameter d then (some (String.singleton d), true) else (none, false)
          else return special

/-! ## 3. Documents -/

/-- The rest of a line that goes on in quotes, its line feed included, and what follows it. -/
def takeLogicalLine : (quote : Option Char) → List Char → List Char × List Char
  | _, [] => ([], [])
  | quote, '\\' :: c :: cs =>
    if quote = some '\x27' then
      let (line, rest) := takeLogicalLine (if c = '\x27' then none else quote) cs
      ('\\' :: c :: line, rest)
    else
      let (line, rest) := takeLogicalLine quote cs
      ('\\' :: c :: line, rest)
  | quote, c :: cs =>
    if c = '\n' && quote.isNone then ([c], cs)
    else
      let quote :=
        if quote = some c then none
        else if quote.isNone && (c = '\x27' || c = '"') then some c
        else quote
      let (line, rest) := takeLogicalLine quote cs
      (c :: line, rest)

/-- What a document is like. -/
structure DocumentRule where
  /-- The line that ends it. -/
  mark : List Char
  /-- Tabulators at the beginning of lines do not count. -/
  indented : Bool
  /-- Nothing in it is expanded, and no line is continued. -/
  literal : Bool

/-- The line is continued in the next one. -/
def isContinued (line : List Char) : Bool :=
  (line.reverse.takeWhile (· = '\\')).length % 2 = 1

/-- The lines in front of the one that ends a document, and what follows that one. A line that continues
    another ends nothing. `fuel` covers the lines. -/
def takeDocument (rule : DocumentRule) :
    (fuel : Nat) → (continued : Bool) → List Char → List Char × List Char
  | 0, _, cs => ([], cs)
  | _, _, [] => ([], [])
  | fuel + 1, continued, cs =>
    let whole := cs.takeWhile (· != '\n')
    let rest := cs.drop (whole.length + 1)
    let line := if rule.indented && !continued then whole.dropWhile (· = '\t') else whole
    if !continued && line = rule.mark then ([], rest)
    else
      let (lines, behind) :=
        takeDocument rule fuel (!rule.literal && isContinued line) rest
      (line ++ (if whole.length = cs.length then [] else ['\n']) ++ lines, behind)

/-- Cut the text of a document out of what follows the current line. -/
def cutDocument (rule : DocumentRule) : Reader (List Char) := do
  let cursor ← get
  let (line, behind) := takeLogicalLine none cursor.rest
  let (text, rest) := takeDocument rule (behind.length + 1) false behind
  let lines := (behind.take (behind.length - rest.length)).countP (· == '\n')
  set { cursor with rest := line ++ rest, owed := cursor.owed + lines }
  return text

/-- Read another text, and then go on here. -/
def elsewhere {α : Type} (text : List Char) (line : Nat) (reader : Reader α) : Reader α := do
  let cursor ← get
  set { cursor with rest := text, line, owed := 0, running := [], token := none }
  let value ← reader
  set cursor
  return value

/-! ## 4. Tokens -/

/-- What the next token may be besides itself. -/
structure Expecting where
  /-- Line ends are skipped. -/
  newlines : Bool := false
  /-- A word may be reserved. -/
  keywords : Bool := false
  /-- A word may be an alias. -/
  aliases : Bool := false

/-- The beginning of a command. -/
def Expecting.command : Expecting := { newlines := true, keywords := true, aliases := true }

/-- The redirections, longer ones first. -/
def redirections : List (String × Redirection) :=
  [("<<", .document), ("<>", .both), ("<&", .duplicate false), ("<", .input), (">>", .append),
    (">|", .overwrite), (">&", .duplicate true), (">", .output)]

/-- The operators, longer ones first. -/
def operators : List String := ["&&", "||", ";;", ";", "&", "|", "(", ")"]

/-- The operator, or the redirection with a digit in front of it, at the beginning of a text. -/
def operatorToken? (cs : List Char) : Option (Token × List Char) :=
  let (number, behind) : Option Nat × List Char :=
    match cs with
    | d :: rest => if d.isDigit then (some (d.toNat - 48), (joinLines rest 0).1) else (none, cs)
    | [] => (none, [])
  let after (text : String) (cs : List Char) : Option (List Char) :=
    text.toList.foldl (fun rest? c => rest?.bind fun rest =>
      match (joinLines rest 0).1 with
      | d :: rest => if c = d then some rest else none
      | [] => none) (some cs)
  match redirections.findSome? fun (text, r) => (after text behind).map fun rest => (r, rest) with
  | some (r, rest) => some (.redirection number r, rest)
  | none => operators.findSome? fun text => (after text cs).map fun rest => (.operator text, rest)

/-- Put a token back. -/
def putBack (token : Token) : Reader Unit :=
  modify fun cursor => { cursor with token := some token }

/-- The aliases whose text was read. -/
def finishAliases (cursor : Cursor) : Cursor :=
  if cursor.running.isEmpty then cursor
  else
    let size := cursor.rest.length
    { cursor with running := cursor.running.filter (·.behind < size) }

/-- The text of an alias that ends in a blank was left with the last token. -/
def isLedOn (cursor : Cursor) : Bool :=
  !cursor.running.isEmpty &&
    cursor.running.any fun a => a.leadsOn && cursor.rest.length ≤ a.behind

/-- The text of an alias in place of its name. -/
def enterAlias (name text : String) (cursor : Cursor) : Cursor :=
  let behind := cursor.rest.length
  let leadsOn := text.toList.getLast?.any fun c => c = ' ' || c = '\t'
  let running := cursor.running.map fun a => { a with behind := min a.behind behind }
  { cursor with
    rest := text.toList ++ cursor.rest
    running := if text.isEmpty then running else ⟨name, behind, leadsOn⟩ :: running }

mutual

/-- The pieces up to the end of a place. The end is taken, unless it is that of a word. -/
def pieces (fuel : Nat) (place : Place) : Reader Word :=
  match fuel with
  | 0 => fail .unterminatedQuote
  | fuel + 1 => do
    let also (piece : Piece) (place : Place := place) : Reader Word := do
      return piece :: (← pieces fuel place)
    match ← peek? with
    | none =>
      match place.faultAtEnd? with
      | some fault => fail fault
      | none => return []
    | some c =>
      if isOrdinary c then
        let text := (← get).rest.takeWhile isOrdinary
        skip text.length
        also (place.text (String.ofList text))
      else if c = '\\' then
        skip 1
        match (← get).rest with
        | [] => also (.quoted "\\")
        | d :: _ => do
          take d
          also (.quoted (if place.protects d then String.singleton d else String.ofList [c, d]))
      else if c = '$' && place != .mark then
        skip 1
        let word ← dollar fuel place
        return word ++ (← pieces fuel place)
      else if c = '\x60' && place != .mark then
        skip 1
        let piece ← backquoted fuel place
        also piece
      else
        match place with
        | .word | .mark | .braces =>
          if c = '\x27' then
            let text := ((← get).rest.drop 1).takeWhile (· != '\x27')
            if text.length + 1 = (← get).rest.length then failAtEnd .unterminatedQuote
            else
              modify fun cursor =>
                { cursor with
                  rest := cursor.rest.drop (text.length + 2)
                  line := cursor.line + text.countP (· == '\n') }
              also (.quoted (String.ofList text))
          else if c = '"' then
            skip 1
            let word ← pieces fuel .quotes
            return quotedWord word ++ (← pieces fuel place)
          else if place = .braces then
            take c
            if c = '\x7d' then return [] else also (.plain (String.singleton c))
          else if isMeta c then return []
          else
            skip 1
            also (.plain (String.singleton c))
        | .quotes =>
          take c
          if c = '"' then return [] else also (.quoted (String.singleton c))
        | .document =>
          take c
          also (.quoted (String.singleton c))
        | .quotedBraces inDocument inQuotes =>
          take c
          if c = '"' then pieces fuel (.quotedBraces inDocument (!inQuotes))
          else if c = '\x7d' && !inQuotes then return []
          else also (.quoted (String.singleton c))
        | .expression depth =>
          take c
          if c = '(' then also (.quoted "(") (.expression (depth + 1))
          else if c = ')' && 0 < depth then also (.quoted ")") (.expression (depth - 1))
          else
            let isEnd ← if c = ')' then takeIf ')' else pure false
            if isEnd then return [] else also (.quoted (String.singleton c))

/-- The pieces that a dollar sign makes, which was taken. -/
def dollar (fuel : Nat) (place : Place) : Reader Word :=
  match fuel with
  | 0 => fail .unterminatedQuote
  | fuel + 1 => do
    let quoted := place.isQuoted
    match ← peek? with
    | none => return [place.text "$"]
    | some c =>
      if c = '(' then
        skip 1
        if ← takeIf '(' then
          return [.arithmetic quoted (joinPieces (← pieces fuel (.expression 0)))]
        else
          let commands ← list fuel true
          expectOperator fuel ")"
          return [.command quoted commands]
      else if c = '\x7b' then
        skip 1
        return [← braced fuel place]
      else if isNameStart c then return [.parameter quoted (← takeAll isNameChar) .value]
      else if isSpecialParameter c then
        skip 1
        return [.parameter quoted (String.singleton c) .value]
      else return [place.text "$"]

/-- The parameter in braces, of which the opening one was taken. -/
def braced (fuel : Nat) (place : Place) : Reader Piece :=
  match fuel with
  | 0 => fail (.missing "\x7d")
  | fuel + 1 => do
    let quoted := place.isQuoted
    let (name?, isLength) ← parameterHead
    let senseless (_ : Unit) : Reader Piece := do
      let _ ← pieces fuel place.within
      return .parameter quoted (name?.getD "") .senseless
    let treatment? (c : Char) (strict : Bool) : Option (Word → Treatment) :=
      if c = '-' then some (.instead strict)
      else if c = '=' then some (.assign strict)
      else if c = '?' then some (.demand strict)
      else if c = '+' then some (.whenGiven strict)
      else none
    match name?, ← peek? with
    | none, _ | _, none => senseless ()
    | some name, some c =>
      let made (treatment : Treatment) : Piece := .parameter quoted name treatment
      if isLength then
        if c = '\x7d' then
          skip 1
          return made .length
        else senseless ()
      else if c = '\x7d' then
        skip 1
        return made .value
      else if c = '%' || c = '#' then
        skip 1
        let longest ← takeIf c
        return made (.trim (c = '%') longest (joinPieces (← pieces fuel .braces)))
      else do
        take c
        let operator? ← if c = ':' then peek? else pure (some c)
        if c = ':' then
          match operator? with
          | some d => take d
          | none => pure ()
        match operator? with
        | none => senseless ()
        | some d =>
          match treatment? d (c = ':') with
          | some treatment => return made (treatment (joinPieces (← pieces fuel place.within)))
          | none =>
            if d = '\x7d' then
              let _ ← pieces fuel place.within
              return made .value
            else senseless ()

/-- The output of a script in back quotes, of which the first was taken. -/
def backquoted (fuel : Nat) (place : Place) : Reader Piece :=
  match fuel with
  | 0 => fail .unterminatedScript
  | fuel + 1 => do
    let cursor ← get
    match takeBackquoted place.isQuoted cursor.rest cursor.line with
    | none => failAtEnd .unterminatedScript
    | some (text, rest, line) =>
      set { cursor with rest, line }
      let commands ← elsewhere text 1 (list fuel true)
      return .command place.isQuoted commands

/-- The next token, whatever it is. -/
def lexToken (fuel : Nat) (place : Place) : Reader Token :=
  match fuel with
  | 0 => return .ending
  | fuel + 1 => do
    match ← peek? with
    | none => return .ending
    | some c =>
      if c = ' ' || c = '\t' then
        skip 1
        lexToken fuel place
      else if c = '#' then
        modify fun cursor => { cursor with rest := cursor.rest.dropWhile (· != '\n') }
        lexToken fuel place
      else if c = '\n' then
        skipLineFeed
        return .newline
      else
        match operatorToken? (← get).rest with
        | some (token, rest) =>
          modify fun cursor => { cursor with rest }
          return token
        | none => return .word (joinPieces (← pieces fuel place))

/-- The next token. Words that are reserved or aliases are found out if they are expected. -/
def readToken (fuel : Nat) (expecting : Expecting) : Reader Token :=
  match fuel with
  | 0 => return .ending
  | fuel + 1 => do
    let cursor ← get
    let token ← match cursor.token with
      | some token => do
        set { cursor with token := none }
        pure token
      | none => do
        modify finishAliases
        lexToken fuel .word
    match token with
    | .newline => if expecting.newlines then readToken fuel expecting else return .newline
    | .word word =>
      match bareText? word with
      | none => return token
      | some text =>
        if expecting.keywords && reservedWords.contains text then return .reserved text
        else
          let cursor ← get
          if cursor.aliases.isEmpty then return token
          else if expecting.aliases || isLedOn cursor then
            match cursor.aliases.lookup text with
            | some value =>
              if cursor.running.any (·.name == text) then return token
              else
                set (enterAlias text value cursor)
                readToken fuel { expecting with aliases := true }
            | none => return token
          else return token
    | _ => return token

/-- An operator that has to follow. -/
def expectOperator (fuel : Nat) (text : String) : Reader Unit :=
  match fuel with
  | 0 => fail .unterminatedQuote
  | fuel + 1 => do
    let token ← readToken fuel {}
    unless token.isOperator text do unexpected token (some ("\"" ++ text ++ "\""))

/-- A reserved word that has to follow. -/
def expectReserved (fuel : Nat) (text : String) (expecting : Expecting := {}) : Reader Unit :=
  match fuel with
  | 0 => fail .unterminatedQuote
  | fuel + 1 => do
    let token ← readToken fuel expecting
    unless token.isReserved text do unexpected token (some ("\"" ++ text ++ "\""))

/-- Commands up to a token that ends them; at least one, unless there may be none. -/
def list (fuel : Nat) (mayBeEmpty : Bool) : Reader (List Statement) :=
  match fuel with
  | 0 => fail .unterminatedQuote
  | fuel + 1 => do
    let token ← readToken fuel .command
    putBack token
    match token with
    | .ending => return []
    | _ =>
      if mayBeEmpty && token.closesList then return []
      else do
        let command ← andOr fuel {}
        let token ← readToken fuel {}
        if token.isOperator "&" then return .background command :: (← list fuel true)
        else if token.isOperator ";" then return command :: (← list fuel true)
        else do
          putBack token
          match token with
          | .newline => return command :: (← list fuel true)
          | _ => return [command]

/-- Pipelines with `&&` and `||` between them. -/
def andOr (fuel : Nat) (expecting : Expecting) : Reader Statement :=
  match fuel with
  | 0 => fail .unterminatedQuote
  | fuel + 1 => do
    let first ← pipeline fuel expecting
    andOrRest fuel first

/-- What follows a pipeline that was read. -/
def andOrRest (fuel : Nat) (first : Statement) : Reader Statement :=
  match fuel with
  | 0 => fail .unterminatedQuote
  | fuel + 1 => do
    let token ← readToken fuel {}
    if token.isOperator "&&" then
      let second ← pipeline fuel .command
      andOrRest fuel (.both first second)
    else if token.isOperator "||" then
      let second ← pipeline fuel .command
      andOrRest fuel (.either first second)
    else do
      putBack token
      return first

/-- Commands with `|` between them, negated or not. -/
def pipeline (fuel : Nat) (expecting : Expecting) : Reader Statement :=
  match fuel with
  | 0 => fail .unterminatedQuote
  | fuel + 1 => do
    let token ← readToken fuel expecting
    let negated := token.isReserved "!"
    unless negated do putBack token
    let first ← command fuel
      (if negated then { keywords := true, aliases := true } else {})
    let rest ← stages fuel
    let body := if rest.isEmpty then first else .pipeline (first :: rest)
    return if negated then .negated body else body

/-- The further stages of a pipeline. -/
def stages (fuel : Nat) : Reader (List Statement) :=
  match fuel with
  | 0 => fail .unterminatedQuote
  | fuel + 1 => do
    let token ← readToken fuel {}
    if token.isOperator "|" then
      let stage ← command fuel .command
      return stage :: (← stages fuel)
    else do
      putBack token
      return []

/-- One command. -/
def command (fuel : Nat) (expecting : Expecting) : Reader Statement :=
  match fuel with
  | 0 => fail .unterminatedQuote
  | fuel + 1 => do
    let line := (← get).line
    let token ← readToken fuel expecting
    match token with
    | .word _ | .redirection _ _ => do
      putBack token
      simple fuel line [] [] []
    | .operator "(" => do
      let body ← list fuel false
      expectOperator fuel ")"
      withRedirects fuel line (.subshell line (.sequence body))
    | .reserved "\x7b" => do
      let body ← list fuel false
      expectReserved fuel "\x7d"
      withRedirects fuel line (.sequence body)
    | .reserved "if" => do
      let body ← choice fuel
      withRedirects fuel line body
    | .reserved "for" => do
      let body ← forEach fuel line
      withRedirects fuel line body
    | .reserved "case" => do
      let body ← caseOf fuel line
      withRedirects fuel line body
    | _ =>
      if token.isReserved "while" || token.isReserved "until" then do
        let condition ← list fuel false
        expectReserved fuel "do"
        let body ← list fuel false
        expectReserved fuel "done"
        withRedirects fuel line
          (.loop (token.isReserved "until") (.sequence condition) (.sequence body))
      else unexpected token

/-- The rest of a simple command, of which the given parts were read, the newest first. -/
def simple (fuel : Nat) (line : Nat) (assignments : List (String × Word)) (words : List Word)
    (redirects : List Redirect) : Reader Statement :=
  match fuel with
  | 0 => fail .unterminatedQuote
  | fuel + 1 => do
    let token ← readToken fuel { aliases := words.isEmpty }
    match token with
    | .word word =>
      match words, assignment? word with
      | [], some a => simple fuel line (a :: assignments) [] redirects
      | _, _ => simple fuel line assignments (word :: words) redirects
    | .redirection number r => do
      let target ← target fuel r
      simple fuel line assignments words ((number.getD r.defaultStream, r, target) :: redirects)
    | _ =>
      match token.isOperator "(", words, assignments, redirects with
      | true, [name], [], [] => do
        expectOperator fuel ")"
        match bareText? name with
        | some name =>
          if isName name.toList && !specialCommands.contains name then
            return .define name (← command fuel .command)
          else fail .badFunctionName
        | none => fail .badFunctionName
      | _, _, _, _ => do
        putBack token
        return .simple line assignments.reverse words.reverse redirects.reverse

/-- The word behind a redirection; for a document, its text. -/
def target (fuel : Nat) (redirection : Redirection) : Reader Word :=
  match fuel with
  | 0 => fail .unterminatedQuote
  | fuel + 1 => do
    if redirection = .document then
      let indented := (← get).rest.head? = some '-'
      if indented then skip 1
      let token ← lexToken fuel .mark
      match token with
      | .word word =>
        let mark := word.flatMap fun piece => match piece with
          | .plain text | .quoted text => text.toList
          | _ => []
        let literal := (bareText? word).isNone
        let text ← cutDocument { mark, indented, literal }
        if literal then return [.quoted (String.ofList text)]
        else do
          let line := (← get).line
          return joinPieces (← elsewhere text (line + 1) (pieces fuel .document))
      | _ => unexpected token
    else
      match ← readToken fuel {} with
      | .word word => return word
      | token => unexpected token

/-- A compound command with the redirections behind it. -/
def withRedirects (fuel : Nat) (line : Nat) (body : Statement) : Reader Statement :=
  match fuel with
  | 0 => fail .unterminatedQuote
  | fuel + 1 => do
    let redirects ← redirectsBehind fuel
    return if redirects.isEmpty then body else .redirected line body redirects

/-- The redirections behind a compound command. -/
def redirectsBehind (fuel : Nat) : Reader (List Redirect) :=
  match fuel with
  | 0 => fail .unterminatedQuote
  | fuel + 1 => do
    let token ← readToken fuel { keywords := true, aliases := true }
    match token with
    | .redirection number r => do
      let target ← target fuel r
      return (number.getD r.defaultStream, r, target) :: (← redirectsBehind fuel)
    | _ => do
      putBack token
      return []

/-- What follows `if` or `elif`. -/
def choice (fuel : Nat) : Reader Statement :=
  match fuel with
  | 0 => fail .unterminatedQuote
  | fuel + 1 => do
    let condition ← list fuel false
    expectReserved fuel "then"
    let body ← list fuel false
    let token ← readToken fuel {}
    if token.isReserved "elif" then
      let otherwise ← choice fuel
      return .choice (.sequence condition) (.sequence body) (some otherwise)
    else if token.isReserved "else" then
      let otherwise ← list fuel false
      expectReserved fuel "fi"
      return .choice (.sequence condition) (.sequence body) (some (.sequence otherwise))
    else do
      putBack token
      expectReserved fuel "fi"
      return .choice (.sequence condition) (.sequence body) none

/-- What follows `for`. -/
def forEach (fuel : Nat) (line : Nat) : Reader Statement :=
  match fuel with
  | 0 => fail .unterminatedQuote
  | fuel + 1 => do
    let token ← readToken fuel {}
    let name? := match token with
      | .word word => (bareText? word).bind fun name => if isName name.toList then some name else none
      | _ => none
    match name? with
    | none => fail .badLoopVariable
    | some name => do
      let token ← readToken fuel .command
      let words? : Option (List Word) ←
        if token.isReserved "in" then do
          let words ← wordList fuel
          let token ← readToken fuel {}
          match token with
          | .newline => pure (some words)
          | _ => if token.isOperator ";" then pure (some words) else unexpected token
        else do
          unless token.isOperator ";" do putBack token
          pure none
      expectReserved fuel "do" .command
      let body ← list fuel false
      expectReserved fuel "done"
      return .forEach line name words? (.sequence body)

/-- The words up to another token. -/
def wordList (fuel : Nat) : Reader (List Word) :=
  match fuel with
  | 0 => fail .unterminatedQuote
  | fuel + 1 => do
    match ← readToken fuel {} with
    | .word word => return word :: (← wordList fuel)
    | token => do
      putBack token
      return []

/-- What follows `case`. -/
def caseOf (fuel : Nat) (line : Nat) : Reader Statement :=
  match fuel with
  | 0 => fail .unterminatedQuote
  | fuel + 1 => do
    match ← readToken fuel {} with
    | .word word => do
      expectReserved fuel "in" .command
      return .caseOf line word (← clauses fuel)
    | token => unexpected token (some "word")

/-- The clauses of a `case`, and its end. -/
def clauses (fuel : Nat) : Reader (List (List Word × Statement)) :=
  match fuel with
  | 0 => fail .unterminatedQuote
  | fuel + 1 => do
    let expecting : Expecting := { newlines := true, keywords := true }
    let token ← readToken fuel expecting
    if token.isReserved "esac" then return []
    else do
      let token ← if token.isOperator "(" then readToken fuel {} else pure token
      let patterns ← patterns fuel token
      let body ← list fuel true
      let clause := (patterns, Statement.sequence body)
      let token ← readToken fuel expecting
      if token.isReserved "esac" then return [clause]
      else if token.isOperator ";;" then return clause :: (← clauses fuel)
      else unexpected token (some "\";;\"")

/-- The patterns of a clause, of which the first was read, and the bracket behind them. -/
def patterns (fuel : Nat) (first : Token) : Reader (List Word) :=
  match fuel with
  | 0 => fail .unterminatedQuote
  | fuel + 1 => do
    let word := match first with
      | .word word => word
      | .reserved text => [.plain text]
      | _ => []
    let token ← readToken fuel {}
    if token.isOperator "|" then
      let next ← readToken fuel {}
      return word :: (← patterns fuel next)
    else if token.isOperator ")" then return [word]
    else unexpected token (some "\")\"")

end

/-- The commands up to the end of a line; none at the end of the script. -/
def completeCommand (depth : Nat) : (fuel : Nat) → (begun : Bool) → Reader (Option (List Statement))
  | 0, _ => fail .unterminatedQuote
  | fuel + 1, begun => do
    let token ← readToken depth { keywords := true, aliases := true }
    match token with
    | .newline => return some []
    | .ending => do
      putBack token
      return if begun then some [] else none
    | _ => do
      putBack token
      let command ← andOr depth {}
      let token ← readToken depth {}
      let command := if token.isOperator "&" then .background command else command
      match token with
      | .newline => return some [command]
      | .ending => do
        putBack token
        return some [command]
      | _ =>
        if token.isOperator "&" || token.isOperator ";" then
          let rest ← completeCommand depth fuel true
          return some (command :: rest.getD [])
        else unexpected token

end Reader

/-- The beginning of a script. -/
def Cursor.ofText (text : String) : Cursor := { rest := text.toList }

/-- How deep readers may call one another in a text of the given length. -/
def readerDepth (size : Nat) : Nat := 8 * size + 4096

/-- The next commands of a script and what follows them; nothing at its end. -/
def nextCommand? (cursor : Cursor) : Except (SyntaxFault × Nat) (Option (List Statement) × Cursor) :=
  let depth := readerDepth cursor.rest.length
  (Reader.completeCommand depth depth false).run cursor

/-- A text as it would stand in a document. -/
def documentWord (text : String) : Word :=
  match ((Reader.pieces (readerDepth text.length) .document).run (Cursor.ofText text)) with
  | .ok (word, _) => Reader.joinPieces word
  | .error _ => [.quoted text]

end GoldenRun.Machine.Shell
