import GoldenRun.Machine.Utility.Calculation
import GoldenRun.Machine.Utility.Characters
import GoldenRun.Machine.Utility.Compare
import GoldenRun.Machine.Utility.Condition.Program
import GoldenRun.Machine.Utility.Difference
import GoldenRun.Machine.Utility.Dump
import GoldenRun.Machine.Utility.Editing
import GoldenRun.Machine.Utility.Extent
import GoldenRun.Machine.Utility.Joining
import GoldenRun.Machine.Utility.Listing
import GoldenRun.Machine.Utility.Numbering
import GoldenRun.Machine.Utility.Places
import GoldenRun.Machine.Utility.Progression
import GoldenRun.Machine.Utility.Reversal
import GoldenRun.Machine.Utility.Runs
import GoldenRun.Machine.Utility.Search
import GoldenRun.Machine.Utility.Sorting
import GoldenRun.Machine.Utility.Transfer
import GoldenRun.Machine.Utility.Tree
import GoldenRun.Machine.Utility.TimeSpan
import GoldenRun.Machine.Utility.Width

/-!
# The utilities of the machine

The rest of the utilities, and the table of all of them.
-/

namespace GoldenRun.Machine

/-- Nothing, with success. -/
def trueUtility : Utility := fun errand => errand.finish 0

/-- Nothing, with failure. -/
def falseUtility : Utility := fun errand => errand.finish 1

/-- The arguments on a line, over and over. -/
def yes : Utility := fun errand =>
  errand.pour (ByteText.toBytes ((if errand.args.isEmpty then "y" else spaced errand.args) ++ "\n"))

/-! ## 1. Sleeping -/

/-- Wait for the sum of the given times. -/
def sleep : Utility := fun errand =>
  errand.withOptions [] fun arguments =>
    let operands := arguments.operands
    let wrong := operands.filter fun arg => (readTime? arg).isNone
    let times := operands.filterMap readTime?
    if operands.isEmpty then errand.misused "missing operand"
    else if !wrong.isEmpty then
      errand.misused (("\n" ++ errand.name ++ ": ").intercalate
        (wrong.map fun arg => "invalid time interval " ++ quotedWord arg))
    else if times.contains none then errand.hang
    else { errand.finish 0 with slept := (times.filterMap id).foldl (· + ·) 0 }

/-! ## 2. Names -/

/-- The last name of a path, without an ending if one is given. -/
def basename : Utility := fun errand =>
  match errand.args with
  | [] => errand.misused "missing operand"
  | path :: rest =>
    let name := lastName path
    let suffix := rest.headD ""
    let stem := name.toList.take (name.length - suffix.length)
    let bare := !stem.isEmpty && suffix.toList.isSuffixOf name.toList
    errand.say ((if bare then String.ofList stem else name) ++ "\n")

/-- The directory part of a path. -/
def dirname : Utility := fun errand =>
  match errand.args with
  | [] => errand.misused "missing operand"
  | path :: _ =>
    let trim (cs : List Char) := (cs.reverse.dropWhile (· = '/')).reverse
    let path := path.toList
    let parent := trim ((trim path).reverse.dropWhile (· != '/')).reverse
    let shown :=
      if !parent.isEmpty then String.ofList parent
      else if path.head? = some '/' then "/" else "."
    errand.say (shown ++ "\n")

/-! ## 3. The table -/

/-- The utility of the given name, run as a program of its own. -/
def utility? : String → Option Utility
  | "cat" => some cat
  | "echo" => some echo
  | "printf" => some printf
  | "true" => some trueUtility
  | "false" => some falseUtility
  | "sleep" => some sleep
  | "touch" => some touch
  | "tr" => some tr
  | "tee" => some tee
  | "yes" => some yes
  | "ln" => some ln
  | "chmod" => some chmod
  | "cmp" => some cmp
  | "diff" => some diff
  | "head" => some head
  | "tail" => some tail
  | "sort" => some sort
  | "wc" => some wc
  | "ls" => some ls
  | "test" => some test
  | "[" => some bracket
  | "rm" => some rm
  | "rmdir" => some rmdir
  | "cp" => some cp
  | "mv" => some mv
  | "mkdir" => some mkdir
  | "basename" => some basename
  | "dirname" => some dirname
  | "seq" => some seq
  | "cut" => some cutUtility
  | "paste" => some paste
  | "uniq" => some uniq
  | "comm" => some comm
  | "expr" => some expr
  | "grep" => some grep
  | "egrep" => some (grepWith "-E")
  | "fgrep" => some (grepWith "-F")
  | "sed" => some sed
  | "tac" => some tac
  | "rev" => some rev
  | "nl" => some nl
  | "fold" => some fold
  | "expand" => some expand
  | "unexpand" => some unexpand
  | "join" => some join
  | "od" => some od
  | "pwd" => some pwd
  | "printenv" => some printenv
  | "readlink" => some readlink
  | "realpath" => some realpath
  | "whoami" => some whoami
  | "arch" => some arch
  | "logname" => some logname
  | "tty" => some tty
  | "uname" => some uname
  | "id" => some idUtility
  | "groups" => some groups
  | "rgrep" => some (grepWith "-r")
  | _ => none

end GoldenRun.Machine
