import GoldenRun.Machine.Difference.Hunk
import GoldenRun.Machine.Difference.Look

/-!
# Changes written one after the other

The descriptions of changes that list what goes and what comes:

* `Comparison.listed`: every change with its lines, `<` in front of those that go and `>` in front of
  those that come;
* `Comparison.inContext`: hunks as they stand in each text, one after the other;
* `Comparison.unified`: hunks with both texts laid together;
* `Comparison.edScript` and `Comparison.forwardScript`: commands for a line editor, from the last change
  to the first or the other way round;
* `Comparison.revision`: commands that count lines.
-/

namespace GoldenRun.Machine

namespace Comparison

variable (comparison : Comparison) (look : Look)

/-- The lines of a hunk that go. -/
def oldLines (hunk : Hunk) : List Bytes :=
  hunk.old.lines comparison.first

/-- The lines of a hunk that come. -/
def newLines (hunk : Hunk) : List Bytes :=
  hunk.new.lines comparison.second

/-! ## 1. Single changes -/

/-- Every change with its lines. -/
def listed : Bytes :=
  comparison.singles.flatMap fun hunk =>
    look.painted .place (utf8 (hunk.old.span "," ++ hunk.letter ++ hunk.new.span ",")) ++ utf8 "\n" ++
      (comparison.oldLines hunk).flatMap (look.marked (some .old) "<") ++
      (if hunk.deletes && hunk.inserts then utf8 "---\n" else []) ++
      (comparison.newLines hunk).flatMap (look.marked (some .new) ">")

/-! ## 2. Hunks -/

/-- The last line in front of a hunk that is a heading, shortened. -/
def headingBefore (heading : Option Regex) (stretch : Stretch) : Bytes :=
  let lines := (comparison.first.take stretch.before).map bareLine
  let isHeading (line : Bytes) : Bool :=
    (heading.map fun regex => regex.occursIn (line.map ByteText.charOf)).getD false
  match lines.reverse.find? isHeading with
  | none => []
  | some line =>
    let line := (line.dropWhile isSpaceByte).take 40
    0x20 :: (line.reverse.dropWhile isSpaceByte).reverse

/-- The lines of a text with marks: those of changes, and those around them, all in the colour of the
    text. -/
def contextLines (text : List Bytes) (stretch : Stretch) (part : Change → Stretch) (paint : Paint)
    (mark : Change → String) (changes : List Change) : Bytes :=
  ((stretch.lines text).zipIdx stretch.before).flatMap fun (line, i) =>
    match changes.find? fun change => (part change).before ≤ i && i < (part change).last with
    | some change => look.marked (some paint) (mark change) line
    | none => look.marked (some paint) " " line

/-- Hunks as they stand in each text. -/
def inContext (context : Nat) (heading : Option Regex) : Bytes :=
  (comparison.hunks context).flatMap fun hunk =>
    let old := hunk.old.widened context comparison.first.length
    let new := hunk.new.widened context comparison.second.length
    utf8 "***************" ++ comparison.headingBefore heading old ++ utf8 "\n" ++
      look.painted .place (utf8 ("*** " ++ old.span "," ++ " ****")) ++ utf8 "\n" ++
      (if hunk.deletes then
        contextLines look comparison.first old Change.old .old
          (fun change => if 0 < change.inserted then "!" else "-") hunk.changes
      else []) ++
      look.painted .place (utf8 ("--- " ++ new.span "," ++ " ----")) ++ utf8 "\n" ++
      (if hunk.inserts then
        contextLines look comparison.second new Change.new .new
          (fun change => if 0 < change.deleted then "!" else "+") hunk.changes
      else [])

/-- The lines of the first text from line `i` in front of line `last`, with the changes among them. -/
def unifiedLines (i last : Nat) : List Change → Bytes
  | [] => ((Stretch.mk i (last - i)).lines comparison.first).flatMap (look.signed none " ")
  | change :: changes =>
    ((Stretch.mk i (change.old.before - i)).lines comparison.first).flatMap (look.signed none " ") ++
      (change.old.lines comparison.first).flatMap (look.signed (some .old) "-") ++
      (change.new.lines comparison.second).flatMap (look.signed (some .new) "+") ++
      unifiedLines change.old.last last changes

/-- Hunks with both texts laid together. -/
def unified (context : Nat) (heading : Option Regex) : Bytes :=
  (comparison.hunks context).flatMap fun hunk =>
    let old := hunk.old.widened context comparison.first.length
    let new := hunk.new.widened context comparison.second.length
    look.painted .place (utf8 ("@@ -" ++ old.measure ++ " +" ++ new.measure ++ " @@")) ++
      comparison.headingBefore heading old ++ utf8 "\n" ++
      comparison.unifiedLines look old.before old.last hunk.changes

/-! ## 3. Commands -/

/-- Lines that are put in, for an editor to which a lone dot is the end; a lone dot among the lines is
    put in as two and mended. `isOpen` says whether the editor takes lines. -/
def enteredLines : ( isOpen : Bool) → List Bytes → Bytes
  | isOpen, [] => if isOpen then utf8 ".\n" else []
  | isOpen, line :: rest =>
    (if isOpen then [] else utf8 "a\n") ++
      if line = utf8 ".\n" then utf8 "..\n.\ns/.//\n" ++ enteredLines false rest
      else look.shown [] line ++ enteredLines true rest

/-- Commands from the last change to the first. -/
def edScript : Bytes :=
  comparison.singles.reverse.flatMap fun hunk =>
    utf8 (hunk.old.span "," ++ hunk.letter ++ "\n") ++
      if hunk.inserts then enteredLines look true (comparison.newLines hunk) else []

/-- Commands from the first change to the last. -/
def forwardScript : Bytes :=
  comparison.singles.flatMap fun hunk =>
    utf8 (hunk.letter ++ hunk.old.span " " ++ "\n") ++
      if hunk.inserts then
        (comparison.newLines hunk).flatMap (look.shown []) ++ utf8 ".\n"
      else []

/-- Commands with the number of lines that go or come. -/
def revision : Bytes :=
  comparison.singles.flatMap fun hunk =>
    (if hunk.deletes then
      utf8 ("d" ++ toString (hunk.old.before + 1) ++ " " ++ toString hunk.old.count ++ "\n")
    else []) ++
      if hunk.inserts then
        utf8 ("a" ++ toString hunk.old.last ++ " " ++ toString hunk.new.count ++ "\n") ++
          (comparison.newLines hunk).flatMap (look.shown [])
      else []

end Comparison

end GoldenRun.Machine
