import GoldenRun.Event
import GoldenRun.Files.Tree
import GoldenRun.Reporter.Callback

/-!
# What commands act on

A *runner* runs external commands. It sees and changes the *world*: the file tree, and a memory of its
own in which it may keep anything. It answers a call with a *reply*: the result, what the command wrote
to the console behind the harness's back, and what the runner itself has to log.

Nothing else is known about a runner: any function of this type is one.
-/

namespace GoldenRun

/-- What a command wrote to the console. -/
structure Echo where
  out : Bytes := []
  err : Bytes := []
  deriving DecidableEq, Repr, Inhabited

/-- The answer of a runner. -/
structure Reply where
  result : CommandResult
  echo : Echo := {}
  events : List Event := []
  deriving DecidableEq, Repr

/-- The file tree and the memory of a runner. -/
structure World (σ : Type) where
  files : FileTree
  memory : σ

/-- A runner with memories in `σ`. -/
abbrev Runner (σ : Type) := Invocation → World σ → Reply × World σ

/-- A reply that is nothing but a result. -/
def Reply.ofResult (result : CommandResult) : Reply := { result }

end GoldenRun
