import GoldenRun.Machine.Utility.Options

/-!
# Deeds

Utilities that change the file tree do something to one operand after the other, each time on the tree
that they left behind. What is refused is told, changes nothing and makes the whole errand fail, but the
operands behind it are not left out.

* `Deed` is what became of one operand.
* `Errand.doEach` puts the deeds of all operands together.
-/

namespace GoldenRun.Machine

/-- What became of one operand. -/
structure Deed where
  files : FileTree
  said : List (Outlet × Bytes) := []
  refused : Bool := false

namespace Deed

/-- Something done, and lines that tell of it. -/
def done (files : FileTree) (report : List String := []) : Deed :=
  { files, said := report.map fun line => (.out, ByteText.toBytes line) }

/-- Something refused, and the line that says why. -/
def refuse (files : FileTree) (line : String) : Deed :=
  { files, said := [(.err, ByteText.toBytes line)], refused := true }

/-- One deed and then, unless it was refused, another. -/
def andThen (deed : Deed) (next : FileTree → Deed) : Deed :=
  if deed.refused then deed
  else
    let more := next deed.files
    { more with said := deed.said ++ more.said }

end Deed

/-- A deed for every operand, in order. -/
def Errand.doEach {α : Type} (errand : Errand) (deed : FileTree → α → Deed) (operands : List α) :
    Effort :=
  operands.foldl (fun effort operand =>
    let done := deed effort.files operand
    { effort with
      files := done.files
      code := if done.refused then 1 else effort.code
      said := effort.said ++ done.said })
    (errand.finish 0)

/-! ## Names of paths -/

/-- The last name of a path. -/
def lastName (path : String) : String :=
  let segments := (Path.segments (ByteText.toBytes path)).filter (!·.isEmpty)
  match segments.getLast? with
  | some name => ByteText.ofBytes name
  | none => if path.isEmpty then "" else "/"

/-- The last name of a path is `.` or `..`. -/
def endsInDots (path : String) : Bool :=
  lastName path = "." || lastName path = ".."

/-- A path without slashes at its end, unless it consists of slashes. -/
def withoutEndSlash (path : String) : String :=
  match path.toList.reverse.dropWhile (· = '/') with
  | [] => path
  | cs => String.ofList cs.reverse

/-- The path of something in the directory at a path. -/
def pathIn (directory name : String) : String :=
  if directory.toList.getLast? = some '/' then directory ++ name else directory ++ "/" ++ name

end GoldenRun.Machine
