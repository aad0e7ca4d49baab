import GoldenRun.Machine.Shell.Arithmetic
import GoldenRun.Machine.Shell.Pattern
import GoldenRun.Machine.Shell.Scene

/-!
# Expansion of words

A word is expanded into *marks*: characters, each with where it comes from, and ends of fields. Fields are
then made of the marks: unquoted results of expansions are cut at the characters of `IFS`, everything
else stays together. At last fields that are patterns become the paths they describe.

* `fieldsOf` cuts marks into fields, `splitLine` a line of input into the values of variables.
* `expandWords` gives the fields of words, `expandText` a word in one piece and `expandGlyphs` one that is
  a pattern.
-/

namespace GoldenRun.Machine.Shell

/-- Where a character of an expanded word comes from. -/
inductive MarkOrigin where
  /-- Written without quotes. -/
  | literal
  /-- In quotes. -/
  | quoted
  /-- The result of an expansion without quotes. -/
  | result
  deriving DecidableEq, Repr

/-- A part of an expanded word. -/
inductive Mark where
  | char (c : Char) (origin : MarkOrigin)
  /-- Here is a field, even if nothing is in it. -/
  | present
  /-- Here a field ends. -/
  | fieldEnd
  deriving DecidableEq, Repr

/-- Marks of a text. -/
def marksOf (origin : MarkOrigin) (text : String) : List Mark :=
  text.toList.map (.char · origin)

/-- Marks of a text that an expansion gave. -/
def resultMarks (quoted : Bool) (text : String) : List Mark :=
  if quoted then .present :: marksOf .quoted text else marksOf .result text

/-! ## 1. Fields -/

/-- The characters that separate fields. -/
def separators (shell : State) : List Char :=
  ((shell.bindings.lookup "IFS").getD " \t\n").toList

/-- A separator of which several count as one. -/
def isSoftSeparator (c : Char) : Bool :=
  c = ' ' || c = '\t' || c = '\n'

/-- Fields, the newest first, and the newest glyph of the open one first. -/
structure FieldList where
  closed : List (List Glyph) := []
  begun : Option (List Glyph) := none
  /-- The last field was ended by a separator of which several count as one. A further separator may still
      belong to it. -/
  softly : Bool := false

namespace FieldList

/-- The open field closed. -/
def close (fields : FieldList) : FieldList :=
  match fields.begun with
  | none => fields
  | some field => { closed := field.reverse :: fields.closed }

/-- One more glyph in the open field. -/
def push (fields : FieldList) (glyph : Glyph) : FieldList :=
  { closed := fields.closed, begun := some (glyph :: fields.begun.getD []) }

/-- A separator. -/
def separate (fields : FieldList) (c : Char) : FieldList :=
  match isSoftSeparator c, fields.begun with
  | true, some _ => { fields.close with softly := true }
  | true, none => fields
  | false, begun =>
    if begun.isNone && fields.softly then { fields with softly := false }
    else { closed := (begun.getD []).reverse :: fields.closed }

/-- One more mark. -/
def add (separators : List Char) (fields : FieldList) : Mark → FieldList
  | .fieldEnd => fields.close
  | .present => { closed := fields.closed, begun := some (fields.begun.getD []) }
  | .char c .quoted => fields.push ⟨c, true⟩
  | .char c .literal => fields.push ⟨c, false⟩
  | .char c .result =>
    if separators.contains c then fields.separate c else fields.push ⟨c, false⟩

end FieldList

/-- The fields that marks make. -/
def fieldsOf (separators : List Char) (marks : List Mark) : List (List Glyph) :=
  (marks.foldl (FieldList.add separators) {}).close.closed.reverse

/-- The glyphs of marks, all in one field, with a text in place of the ends of fields. -/
def glyphsOf (between : List Char) (marks : List Mark) : List Glyph :=
  marks.flatMap fun m => match m with
    | .char c origin => [⟨c, origin == .quoted⟩]
    | .fieldEnd => between.map (⟨·, true⟩)
    | .present => []

/-- A line of glyphs behind separators of which several count as one. -/
def dropSoft (separators : List Char) (glyphs : List Glyph) : List Glyph :=
  glyphs.dropWhile fun g => !g.quoted && separators.contains g.char && isSoftSeparator g.char

/-- The first field of a line, and what follows the separators behind it. -/
def takeField (separators : List Char) (glyphs : List Glyph) : List Glyph × List Glyph :=
  let isSeparator (g : Glyph) : Bool := !g.quoted && separators.contains g.char
  let field := glyphs.takeWhile (!isSeparator ·)
  let rest := dropSoft separators (glyphs.drop field.length)
  match rest with
  | g :: behind =>
    (field, if isSeparator g && !isSoftSeparator g.char then dropSoft separators behind else rest)
  | [] => (field, [])

/-- A line cut into as many fields. The last one holds all that is left, without separators at its end of
    which several count as one, or without its separator if nothing follows that. -/
def splitLine (separators : List Char) : (count : Nat) → List Glyph → List (List Glyph)
  | 0, _ => []
  | 1, glyphs =>
    let glyphs := dropSoft separators glyphs
    let (field, rest) := takeField separators glyphs
    [if rest.isEmpty then field else (dropSoft separators glyphs.reverse).reverse]
  | count + 2, glyphs =>
    let (field, rest) := takeField separators (dropSoft separators glyphs)
    field :: splitLine separators (count + 1) rest

/-! ## 2. Parameters -/

/-- The value of a parameter that stands for one text. -/
def parameterValue? (shell : State) (name : String) : Option String :=
  match name with
  | "?" => some (toString shell.status)
  | "#" => some (toString shell.args.length)
  | "$" => some (toString processNumber)
  | "!" => shell.lastJob.map toString
  | "-" => some (String.ofList shell.letters)
  | "0" => some shell.name
  | "@" | "*" =>
    some ((String.ofList ((separators shell).take 1)).intercalate shell.args)
  | _ =>
    match decimal? name with
    | some 0 => some shell.name
    | some n => shell.args[n - 1]?
    | none => shell.value? name

/-- The marks of the value of a parameter. -/
def valueMarks (shell : State) (quoted : Bool) (name : String) : List Mark :=
  if name = "@" || (name = "*" && !quoted) then
    [Mark.fieldEnd].intercalate (shell.args.map (resultMarks quoted))
  else resultMarks quoted ((parameterValue? shell name).getD "")

/-- A text without the beginning or the end that a pattern describes, the shortest or the longest. -/
def trimmed (pattern : Pattern) (fromEnd longest : Bool) (text : String) : String :=
  let cs := text.toList
  let sizes := List.range (cs.length + 1)
  let sizes := if longest then sizes.reverse else sizes
  let part (n : Nat) := if fromEnd then cs.drop (cs.length - n) else cs.take n
  match sizes.find? fun n => pattern.matchesText (part n) with
  | none => text
  | some n => String.ofList (if fromEnd then cs.take (cs.length - n) else cs.drop n)

/-- A text without the line feeds at its end and without zero bytes. -/
def outputText (bytes : Bytes) : String :=
  ByteText.ofBytes ((bytes.reverse.dropWhile (· == 0x0A)).reverse.filter (· != 0))

/-- Unquoted characters as results of an expansion. -/
def asResult : Mark → Mark
  | .char c .literal => .char c .result
  | m => m

/-! ## 3. Home directories -/

/-- The home directories of users. -/
def userHomes : List (String × String) :=
  [("root", "/root"), ("daemon", "/usr/sbin"), ("bin", "/bin"), ("sys", "/dev"),
    ("nobody", "/nonexistent")]

/-- A text that begins with a tilde, with the home directory of the user that it names in its place. The
    name goes up to a slash, or up to one of the further `ends`. -/
def homePieces? (shell : State) (ends : List Char) (isLast : Bool) (text : List Char) : Option Word :=
  match text with
  | '~' :: rest =>
    let name := rest.takeWhile fun c => c != '/' && !ends.contains c
    if name.length = rest.length && !isLast then none
    else
      let home? := if name.isEmpty then shell.bindings.lookup "HOME"
        else userHomes.lookup (String.ofList name)
      home?.map fun home =>
        [.quoted home, .plain (String.ofList (rest.drop name.length))]
  | _ => none

/-- A word with the home directory in place of a tilde at its beginning. -/
def withHome (shell : State) : Word → Word
  | .plain text :: rest =>
    match homePieces? shell [] rest.isEmpty text.toList with
    | some pieces => pieces ++ rest
    | none => .plain text :: rest
  | word => word

/-- A value with home directories in place of tildes at its beginning and behind colons. -/
def withHomes (shell : State) (word : Word) : Word :=
  go true word
where
  go (isFirst : Bool) : Word → Word
    | .plain text :: rest =>
      let parts := cut (· = ':') text.toList
      let pieces := parts.zipIdx.flatMap fun (part, i) =>
        let isLast := i + 1 < parts.length || rest.isEmpty
        let between : Word := if i = 0 then [] else [.plain ":"]
        match if isFirst || 0 < i then homePieces? shell [':'] isLast part else none with
        | some pieces => between ++ pieces
        | none => between ++ [.plain (String.ofList part)]
      pieces ++ go false rest
    | piece :: rest => piece :: go false rest
    | [] => []

/-! ## 4. Words -/

section Words

variable (substitute : List Statement → Action Bytes)

mutual

/-- The marks of a piece. `fuel` bounds how deep expansions lie in one another. -/
def expandPiece (fuel : Nat) (piece : Piece) : Action (List Mark) := do
  match fuel, piece with
  | _, .plain text => return marksOf .literal text
  | _, .quoted text => return .present :: marksOf .quoted text
  | 0, _ => return []
  | _ + 1, .command quoted commands =>
    return resultMarks quoted (outputText (← substitute commands))
  | fuel + 1, .arithmetic quoted expression =>
    let text := textOf (← expandTogether fuel expression)
    let shell ← getShell
    match arithmeticValue shell.value? text with
    | .ok (n, assigned) =>
      for (name, value) in assigned.reverse do
        assign name (toString value)
      return resultMarks quoted (toString n)
    | .error fault => refuse (fault.message text)
  | fuel + 1, .parameter quoted name treatment =>
    let shell ← getShell
    let value := parameterValue? shell name
    let text := value.getD ""
    let isMissing (strict : Bool) : Bool := value.isNone || (strict && text.isEmpty)
    let demanded : Action Unit :=
      if value.isNone && shell.has "nounset" then refuse (name ++ ": parameter not set")
      else pure ()
    match treatment with
    | .senseless => refuse "Bad substitution"
    | .value =>
      demanded
      return valueMarks shell quoted name
    | .length =>
      demanded
      return resultMarks quoted (toString text.length)
    | .instead strict word =>
      if isMissing strict then
        return (← expandPieces fuel (withHome shell word)).map asResult
      else return valueMarks shell quoted name
    | .assign strict word =>
      if isMissing strict then
        let new := textOf (← expandTogether fuel (withHome shell word))
        assign name new
        return resultMarks quoted new
      else return valueMarks shell quoted name
    | .demand strict word =>
      if isMissing strict then
        let reason := textOf (← expandTogether fuel (withHome shell word))
        refuse (name ++ ": " ++
          (if !reason.isEmpty then reason
          else if strict then "parameter not set or null" else "parameter not set"))
      else return valueMarks shell quoted name
    | .whenGiven strict word =>
      if isMissing strict then return resultMarks quoted ""
      else return (← expandPieces fuel (withHome shell word)).map asResult
    | .trim fromEnd longest pattern =>
      demanded
      let glyphs ← expandTogether fuel (withHome shell pattern)
      return resultMarks quoted (trimmed (Pattern.ofGlyphs glyphs) fromEnd longest text)

/-- The marks of pieces one after the other. -/
def expandPieces (fuel : Nat) (word : Word) : Action (List Mark) := do
  match fuel, word with
  | 0, _ | _, [] => return []
  | fuel + 1, piece :: rest =>
    let marks ← expandPiece fuel piece
    return marks ++ (← expandPieces fuel rest)

/-- The glyphs of pieces in one field. -/
def expandTogether (fuel : Nat) (word : Word) : Action (List Glyph) := do
  match fuel with
  | 0 => return []
  | fuel + 1 =>
    let marks ← expandPieces fuel word
    return glyphsOf ((separators (← getShell)).take 1) marks

end

/-- How deep expansions may lie in one another, and how long a word may be. -/
def expansionDepth (word : Word) : Nat := word.length + 1000

/-- The marks of a word. -/
def expandMarks (word : Word) : Action (List Mark) :=
  expandPieces substitute (expansionDepth word) word

/-- The fields of a word, patterns expanded. -/
def expandWord (word : Word) : Action (List String) := do
  let marks ← expandMarks substitute (withHome (← getShell) word)
  let scene ← get
  let fields := fieldsOf (separators scene.shell) marks
  if scene.shell.has "noglob" then return fields.map textOf
  else return fields.flatMap (expandPath scene.system.files)

/-- The fields of words. -/
def expandWords : List Word → Action (List String)
  | [] => return []
  | word :: rest => do
    let fields ← expandWord substitute word
    return fields ++ (← expandWords rest)

/-- A word in one piece, as a pattern. -/
def expandGlyphs (word : Word) : Action (List Glyph) := do
  let marks ← expandMarks substitute (withHome (← getShell) word)
  return glyphsOf ((separators (← getShell)).take 1) marks

/-- A word in one piece. -/
def expandText (word : Word) : Action String := do
  return textOf (← expandGlyphs substitute word)

/-- The value of an assignment. -/
def expandValue (word : Word) : Action String := do
  let marks ← expandMarks substitute (withHomes (← getShell) word)
  return textOf (glyphsOf ((separators (← getShell)).take 1) marks)

end Words

end GoldenRun.Machine.Shell
