import GoldenRun.Regex.Syntax

/-!
# Editing scripts

An editing script says what is done with a text line by line. It is a list of commands, each of which is for
all lines, for lines at an *address*, or for a range of lines. The line in hand is the *pattern space*; a
second text, the *hold space*, is kept from line to line.

* `EditAction` is what a command does.
* `EditProgram` holds the commands in order; blocks and labels are numbers of commands in it.
* `EditFault` is what can be wrong with a script.
-/

namespace GoldenRun.Machine

/-! ## 1. Addresses -/

/-- Lines that a command is for. A missing expression stands for the one that was used last. -/
inductive EditAddress where
  | line (number : Nat)
  /-- One line, and from there on every so many. -/
  | step (first size : Nat)
  | last
  | found (pattern : Option Regex)
  deriving Repr, Inhabited

/-- Where a range of lines ends. -/
inductive EditLimit where
  | address (address : EditAddress)
  /-- So many lines behind the first one. -/
  | lines (count : Nat)
  /-- The next line whose number is a multiple of a number. -/
  | multiple (divisor : Nat)
  deriving Repr, Inhabited

/-- What a command is for. -/
inductive EditScope where
  | all
  | lines (address : EditAddress)
  | range (first : EditAddress) (limit : EditLimit)
  deriving Repr, Inhabited

/-! ## 2. Substitutions -/

/-- What becomes of upper and lower case. -/
inductive CaseChange where
  | same
  | upper
  | lower
  deriving DecidableEq, Repr

/-- What becomes of the letters of a text and of its first one. -/
structure CaseRule where
  all : CaseChange := .same
  first : CaseChange := .same
  deriving DecidableEq, Repr

/-- A part of a replacement: some text, and then what a group stands for. The group 0 is the whole match. -/
structure ReplacementPart where
  text : List Char
  group : Option Nat
  rule : CaseRule
  deriving DecidableEq, Repr

/-- A replacement of matches. -/
structure Substitution where
  pattern : Option Regex
  parts : List ReplacementPart
  /-- The first match that is replaced, counted from 1. -/
  first : Nat
  /-- All matches from there on are replaced. -/
  global : Bool
  /-- The result is run as a command and what it writes is taken instead. -/
  executed : Bool
  /-- The result is written before it is run. -/
  printedBefore : Bool
  printed : Bool
  output : Option String
  deriving Repr

/-- The highest group that a replacement has. -/
def Substitution.highestGroup (parts : List ReplacementPart) : Nat :=
  parts.foldl (fun n part => max n (part.group.getD 0)) 0

/-! ## 3. Commands -/

/-- Where a text goes. -/
inductive TextPlace where
  | before
  | behind
  | instead
  deriving DecidableEq, Repr

/-- When a jump is made. -/
inductive JumpRule where
  | always
  /-- Something was replaced since the last line was read or the last such jump was made. -/
  | replaced
  | unreplaced
  deriving DecidableEq, Repr

/-- What a command does. -/
inductive EditAction where
  /-- The beginning of a block; the number is that of the command behind it. -/
  | block (behind : Nat)
  | nothing
  | jump (rule : JumpRule) (label : String)
  | text (place : TextPlace) (text : List Char)
  | lineNumber
  | fileName
  /-- Every character is shown, in lines of the given width. -/
  | list (width : Option Nat)
  /-- `first` stands for only the first line of the pattern space, here and below. -/
  | print (first : Bool)
  | delete (first : Bool)
  /-- The next line is read, instead of the pattern space or `joined` to it. -/
  | next (joined : Bool)
  | hold (joined : Bool)
  | fetch (joined : Bool)
  | exchange
  | clear
  | quit (code : Nat) (shown : Bool)
  | readFile (path : String)
  /-- A file is written at once. -/
  | insertFile (path : String)
  | readLine (path : String)
  | write (first : Bool) (path : String)
  | substitute (substitution : Substitution)
  | translate (pairs : List (Char × Char))
  | execute (command : List Char)
  deriving Repr, Inhabited

/-- A command with what it is for. -/
structure EditCommand where
  scope : EditScope := .all
  /-- It is for all other lines. -/
  negated : Bool := false
  action : EditAction
  deriving Repr, Inhabited

/-- A script that was read. -/
structure EditProgram where
  commands : Array EditCommand := #[]
  labels : List (String × Nat) := []
  /-- Lines are not written unless a command says so. -/
  silent : Bool := false

namespace EditProgram

/-- The files that are written, in the order of the commands. -/
def outputs (program : EditProgram) : List String :=
  program.commands.toList.filterMap fun command =>
    match command.action with
    | .write _ path => some path
    | .substitute substitution => substitution.output
    | _ => none

/-- The number of the command behind a label; behind the last one if the label is empty. -/
def target? (program : EditProgram) (label : String) : Option Nat :=
  if label.isEmpty then some program.commands.size else program.labels.lookup label

/-- The last label that is jumped to but is nowhere. -/
def missingLabel? (program : EditProgram) : Option String :=
  program.commands.toList.reverse.findSome? fun command =>
    match command.action with
    | .jump _ label => if (program.target? label).isNone then some label else none
    | _ => none

end EditProgram

/-! ## 4. Faults -/

/-- What is wrong with a script. -/
inductive EditFault where
  | severalNegations
  | strayComma
  | stepFirst
  | openBlock
  | strayBrace
  | excessText
  | missingText
  | addressedBrace
  | addressedLabel
  | addressedComment
  | missingCommand
  | oneAddress
  | openAddress
  | openSubstitution
  | openTranslation
  | unknownFlag
  | severalPrints
  | severalGlobals
  | severalNumbers
  | zeroNumber
  | unequalLengths
  | newerVersion
  | lineZero
  | unknownCommand (command : Char)
  | missingLabel
  | nestedControl
  | missingFile
  | missingGroup (number : Nat)
  | noPattern
  | modifiedNothing
  | sandboxed
  | bareClass
  | regex (fault : Regex.Fault)
  deriving DecidableEq, Repr

/-- What is said about a fault. -/
def EditFault.message : EditFault → String
  | severalNegations => "multiple \x60!'s"
  | strayComma => "unexpected \x60,'"
  | stepFirst => "invalid usage of +N or ~N as first address"
  | openBlock => "unmatched \x60\x7b'"
  | strayBrace => "unexpected \x60\x7d'"
  | excessText => "extra characters after command"
  | missingText => "expected \\ after \x60a', \x60c' or \x60i'"
  | addressedBrace => "\x60\x7d' doesn't want any addresses"
  | addressedLabel => ": doesn't want any addresses"
  | addressedComment => "comments don't accept any addresses"
  | missingCommand => "missing command"
  | oneAddress => "command only uses one address"
  | openAddress => "unterminated address regex"
  | openSubstitution => "unterminated \x60s' command"
  | openTranslation => "unterminated \x60y' command"
  | unknownFlag => "unknown option to \x60s'"
  | severalPrints => "multiple \x60p' options to \x60s' command"
  | severalGlobals => "multiple \x60g' options to \x60s' command"
  | severalNumbers => "multiple number options to \x60s' command"
  | zeroNumber => "number option to \x60s' command may not be zero"
  | unequalLengths => "strings for \x60y' command are different lengths"
  | newerVersion => "expected newer version of sed"
  | lineZero => "invalid usage of line address 0"
  | unknownCommand c => "unknown command: \x60" ++ String.singleton c ++ "'"
  | missingLabel => "\":\" lacks a label"
  | nestedControl => "recursive escaping after \\c not allowed"
  | missingFile => "missing filename in r/R/w/W commands"
  | missingGroup n => "invalid reference \\" ++ toString n ++ " on \x60s' command's RHS"
  | noPattern => "no previous regular expression"
  | modifiedNothing => "cannot specify modifiers on empty regexp"
  | sandboxed => "e/r/w commands disabled in sandbox mode"
  | bareClass => "character class syntax is [[:space:]], not [:space:]"
  | regex fault => fault.message

end GoldenRun.Machine
