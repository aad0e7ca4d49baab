import GoldenRun.Files.Tree
import GoldenRun.Machine.ByteText
import GoldenRun.Machine.Pattern

/-!
# Paths that a pattern describes

A pattern describes paths segment by segment: each segment that is a pattern itself is looked for in the
directories found so far. `expandPath` gives the paths of a file tree in order.
-/

namespace GoldenRun.Machine.Shell

/-- The text of an expanded word. -/
def textOf (glyphs : List Glyph) : String :=
  String.ofList (glyphs.map Glyph.char)

/-- The word describes more than one text. -/
def isPattern (glyphs : List Glyph) : Bool :=
  glyphs.any fun g => !g.quoted && (g.char = '*' || g.char = '?' || g.char = '[')

/-- The paths that segments describe behind a path. A leading dot has to be written. -/
def expandSegments (tree : FileTree) (base : String) : List (List Glyph) → List String
  | [] => [base]
  | segment :: rest =>
    let between := if rest.isEmpty then "" else "/"
    if isPattern segment then
      let dir := if base.isEmpty then "." else base
      match tree.find true (ByteText.toBytes dir) with
      | .ok (.dir _ entries) =>
        let pattern := Pattern.ofGlyphs segment
        let names := ['.'] :: ['.', '.'] :: entries.map fun e => (ByteText.ofBytes e.1).toList
        let names := names.filter fun name =>
          (name.head? != some '.' || segment.head?.any (·.char = '.')) && pattern.matchesText name
        let names := names.map String.ofList
        names.flatMap fun name =>
          if rest.isEmpty || tree.isDir (ByteText.toBytes (base ++ name)) then
            expandSegments tree (base ++ name ++ between) rest
          else []
      | _ => []
    else
      let path := base ++ textOf segment
      if rest.isEmpty && !segment.isEmpty && !tree.exists? (ByteText.toBytes path) then []
      else expandSegments tree (path ++ between) rest

/-- The paths that a word describes, or the word itself if there are none. -/
def expandPath (tree : FileTree) (glyphs : List Glyph) : List String :=
  if isPattern glyphs then
    match expandSegments tree "" (cut (fun g => g.char = '/') glyphs) with
    | [] => [textOf glyphs]
    | paths => paths.mergeSort (· ≤ ·)
  else [textOf glyphs]

end GoldenRun.Machine.Shell
