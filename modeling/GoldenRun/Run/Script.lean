import GoldenRun.Run.World

/-!
# Scripted runners

A scripted runner starts no command. It answers each call by the first of its rules that applies. A rule
names a program, may ask for an argument with a given end, and may be used up after a number of calls.
What it does is one of three things: fail, compare two files, or write a file and end as told.
-/

namespace GoldenRun

/-- What a rule does. -/
inductive RuleEffect where
  /-- The call gives no result. -/
  | fail (error : CommandError)
  /-- The files named by the last two arguments are compared; the outcome's exit code is not used. -/
  | compare (outcome : Outcome)
  /-- What the command under test would write is written, if anything; then the call ends. -/
  | finish (content : Option Bytes) (outcome : Outcome)
  deriving DecidableEq, Repr

/-- One rule. -/
structure Rule where
  /-- The program's name for display. -/
  program : String
  /-- The end that some argument must have, as displayed. -/
  argumentEnd : Option String := none
  /-- How many calls are left. -/
  uses : Option Nat := none
  effect : RuleEffect
  deriving DecidableEq, Repr

namespace Rule

/-- The rule has calls left, and the call is one that it is about. -/
def applies (rule : Rule) (call : Invocation) : Bool :=
  call.programName == rule.program && rule.uses != some 0 &&
    match rule.argumentEnd with
    | none => true
    | some suffix => call.args.any fun arg => suffix.toList.isSuffixOf arg.lossy.toList

/-- The rule after one more call. -/
def used (rule : Rule) : Rule :=
  { rule with uses := rule.uses.map (· - 1) }

end Rule

/-- The exit code of a comparison: 0 for equal contents, 1 for different ones, 2 if one cannot be
    read. -/
def comparisonCode (tree : FileTree) (a b : Bytes) : Int :=
  match tree.read a, tree.read b with
  | .ok x, .ok y => if x = y then 0 else 1
  | _, _ => 2

/-- The last two arguments. -/
def lastTwo : List Bytes → Option (Bytes × Bytes)
  | [a, b] => some (a, b)
  | _ :: rest => lastTwo rest
  | [] => none

/-- Where the command under test would write: beside its first argument that is named like an input. -/
def outputPath? (args : List Bytes) : Option Bytes :=
  (args.find? (Path.endsWith · inputSuffix)).map (Path.appendSuffix · actualSuffix)

/-- The tree after the write of a rule; a refused write changes nothing. -/
def afterWrite (tree : FileTree) (args : List Bytes) (content : Bytes) : FileTree :=
  match outputPath? args with
  | none => tree
  | some path =>
    match tree.write path content with
    | .ok tree => tree
    | .error _ => tree

/-- What an effect answers, and the tree that it leaves. -/
def RuleEffect.apply (call : Invocation) (tree : FileTree) : RuleEffect → CommandResult × FileTree
  | .fail error => (.error error, tree)
  | .compare outcome =>
    let code :=
      match lastTwo call.args with
      | some (a, b) => comparisonCode tree a b
      | none => 2
    (.ok { outcome with exitCode := some code }, tree)
  | .finish none outcome => (.ok outcome, tree)
  | .finish (some content) outcome => (.ok outcome, afterWrite tree call.args content)

/-- The first rule that applies, and the rules after it was used. -/
def firstRule? (call : Invocation) : List Rule → Option (RuleEffect × List Rule)
  | [] => none
  | rule :: rules =>
    if rule.applies call then some (rule.effect, rule.used :: rules)
    else (firstRule? call rules).map fun found => (found.1, rule :: found.2)

/-- The answer to a call that no rule is about. -/
def noRule (call : Invocation) : CommandError :=
  .spawn call.programName (.custom .notFound "no rule")

/-- The scripted runner; its memory is what is left of its rules. -/
def scriptedRunner : Runner (List Rule) := fun call world =>
  match firstRule? call world.memory with
  | none => (.ofResult (.error (noRule call)), world)
  | some (effect, rules) =>
    let (result, files) := effect.apply call world.files
    (.ofResult result, { files, memory := rules })

end GoldenRun
