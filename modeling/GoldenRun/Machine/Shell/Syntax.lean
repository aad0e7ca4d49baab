import GoldenRun.Machine.ByteText

/-!
# The form of shell scripts

A script consists of commands, and a command of words, redirections and further commands. A word is a list
of *pieces*: text that is quoted or not, and things to be expanded.

* `Piece`, `Treatment` and `Statement` are the forms themselves.
* `SyntaxFault` says why a text is no script, and `SyntaxFault.message` how that is told.

Nothing is lost by quoting: a quoted piece stays in its word even if it is empty, so that it makes a
field of its own.
-/

namespace GoldenRun.Machine.Shell

/-- What a redirection does. -/
inductive Redirection where
  /-- `<` -/
  | input
  /-- `<>` -/
  | both
  /-- `>` -/
  | output
  /-- `>|` -/
  | overwrite
  /-- `>>` -/
  | append
  /-- `>&` and `<&` -/
  | duplicate (output : Bool)
  /-- `<<`: the word is what is to be read. -/
  | document
  deriving DecidableEq, Repr

/-- The stream that a redirection is about if it does not say so. -/
def Redirection.defaultStream : Redirection → Nat
  | .input | .both | .document | .duplicate false => 0
  | .output | .overwrite | .append | .duplicate true => 1

/-! ## 1. Pieces and commands -/

mutual

/-- A piece of a word. -/
inductive Piece where
  /-- Text without quotes. -/
  | plain (text : String)
  /-- Text in quotes. -/
  | quoted (text : String)
  /-- What is made of a parameter. -/
  | parameter (quoted : Bool) (name : String) (treatment : Treatment)
  /-- The output of commands. -/
  | command (quoted : Bool) (commands : List Statement)
  /-- The value of an expression. -/
  | arithmetic (quoted : Bool) (expression : List Piece)

/-- What is made of a parameter. A strict treatment counts an empty value as none. -/
inductive Treatment where
  /-- Its value. -/
  | value
  /-- The length of its value. -/
  | length
  /-- A word if there is no value. -/
  | instead (strict : Bool) (word : List Piece)
  /-- A word, which becomes its value, if there is no value. -/
  | assign (strict : Bool) (word : List Piece)
  /-- A refusal with a word as its reason if there is no value. -/
  | demand (strict : Bool) (word : List Piece)
  /-- A word if there is a value. -/
  | whenGiven (strict : Bool) (word : List Piece)
  /-- Its value without what a pattern describes at its beginning or end. -/
  | trim (fromEnd longest : Bool) (pattern : List Piece)
  /-- Nothing: what stands in the braces has no meaning. -/
  | senseless

/-- A command. The number is its line. -/
inductive Statement where
  /-- Assignments, words and redirections. -/
  | simple (line : Nat) (assignments : List (String × List Piece)) (words : List (List Piece))
      (redirects : List (Nat × Redirection × List Piece))
  /-- Commands whose streams are connected. -/
  | pipeline (stages : List Statement)
  /-- A command whose success counts as failure and the other way round. -/
  | negated (command : Statement)
  /-- The second command only after success of the first. -/
  | both (a b : Statement)
  /-- The second command only after failure of the first. -/
  | either (a b : Statement)
  /-- Commands one after the other. -/
  | sequence (commands : List Statement)
  /-- A command that is not waited for. -/
  | background (command : Statement)
  /-- A command in a shell of its own. -/
  | subshell (line : Nat) (body : Statement)
  | choice (condition body : Statement) (otherwise : Option Statement)
  /-- Repeat the body while the condition succeeds, or until it does. -/
  | loop (untilSuccess : Bool) (condition body : Statement)
  /-- Repeat the body for each word; without words, for each argument. -/
  | forEach (line : Nat) (name : String) (words : Option (List (List Piece))) (body : Statement)
  | caseOf (line : Nat) (word : List Piece) (clauses : List (List (List Piece) × Statement))
  | define (name : String) (body : Statement)
  /-- A command with redirections for all of it. -/
  | redirected (line : Nat) (body : Statement)
      (redirects : List (Nat × Redirection × List Piece))

end

instance : Inhabited Statement := ⟨.sequence []⟩

/-- A word. -/
abbrev Word := List Piece

/-- A redirection with the number of its stream in front and the word behind it. -/
abbrev Redirect := Nat × Redirection × Word

/-! ## 2. Names -/

/-- A character that a name may begin with. -/
def isNameStart (c : Char) : Bool := c.isAlpha || c = '_'

/-- A character that a name may hold behind its first. -/
def isNameChar (c : Char) : Bool := c.isAlphanum || c = '_'

/-- A name. -/
def isName (text : List Char) : Bool :=
  text.head?.any isNameStart && text.all isNameChar

/-- A parameter whose name is a single sign or a digit. -/
def isSpecialParameter (c : Char) : Bool :=
  "@*#?$!-".toList.contains c || c.isDigit

/-- Words that end a list of commands. -/
def closingWords : List String :=
  ["then", "else", "elif", "fi", "do", "done", "esac", "\x7d"]

/-- Words that mean something at the beginning of a command. -/
def reservedWords : List String :=
  closingWords ++ ["!", "case", "for", "if", "in", "until", "while", "\x7b"]

/-- The commands of the shell whose failures end it. No function takes the place of one. -/
def specialCommands : List String :=
  [":", ".", "break", "continue", "eval", "exec", "exit", "export", "local", "readonly", "return",
    "set", "shift", "times", "trap", "unset"]

/-- The text of a word without quotes and without anything to be expanded. -/
def bareText? : Word → Option String
  | [] => some ""
  | .plain text :: rest => (bareText? rest).map (text ++ ·)
  | _ => none

/-- The name and the value of an assignment. -/
def assignment? : Word → Option (String × Word)
  | .plain text :: rest =>
    let name := text.toList.takeWhile (· != '=')
    let value := text.toList.drop (name.length + 1)
    if isName name && name.length < text.length then
      some (String.ofList name,
        if value.isEmpty then rest else .plain (String.ofList value) :: rest)
    else none
  | _ => none

/-! ## 3. Faults -/

/-- Why a text is no script. -/
inductive SyntaxFault where
  | unterminatedQuote
  | unterminatedScript
  | missing (closing : String)
  | badLoopVariable
  | badFunctionName
  /-- Here stands something else than what is expected, if anything special is. -/
  | unexpected (found : String) (expected : Option String)
  deriving DecidableEq, Repr

/-- The wording of a fault. -/
def SyntaxFault.message : SyntaxFault → String
  | .unterminatedQuote => "Syntax error: Unterminated quoted string"
  | .unterminatedScript => "Syntax error: EOF in backquote substitution"
  | .missing closing => "Syntax error: Missing '" ++ closing ++ "'"
  | .badLoopVariable => "Syntax error: Bad for loop variable"
  | .badFunctionName => "Syntax error: Bad function name"
  | .unexpected found none => "Syntax error: " ++ found ++ " unexpected"
  | .unexpected found (some expected) =>
    "Syntax error: " ++ found ++ " unexpected (expecting " ++ expected ++ ")"

end GoldenRun.Machine.Shell
