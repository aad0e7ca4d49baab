import GoldenRun.Machine.Difference.Alignment
import GoldenRun.Machine.ByteText
import GoldenRun.Regex.Basic

/-!
# Hunks

A *hunk* is a row of changes that are written together, with the lines around them. A change may be
*trivial*: all lines that go or come with it are of kinds that do not count.

* `Comparison` is what is to be written: both texts and the changes between them.
* `Comparison.singles` makes every change a hunk of its own, `Comparison.hunks` puts changes together that
  are near each other. A hunk that consists of trivial changes is left out.
-/

namespace GoldenRun.Machine

/-! ## 1. Stretches of lines -/

/-- Lines of a text that follow each other: how many lines stand in front of them, and how many they
    are. -/
structure Stretch where
  before : Nat
  count : Nat
  deriving DecidableEq, Repr

namespace Stretch

/-- How many lines stand in front of the end. -/
def last (stretch : Stretch) : Nat :=
  stretch.before + stretch.count

/-- The lines of a text. -/
def lines (stretch : Stretch) (text : List Bytes) : List Bytes :=
  (text.drop stretch.before).take stretch.count

/-- With so many more lines on both sides, as far as a text of `length` lines has them. -/
def widened (context length : Nat) (stretch : Stretch) : Stretch :=
  let before := stretch.before - context
  ⟨before, min (stretch.last + context) length - before⟩

/-- The first and the last line with a text between them, one line alone, or for no lines the line in
    front. -/
def span (between : String) (stretch : Stretch) : String :=
  if stretch.count ≤ 1 then toString stretch.last
  else toString (stretch.before + 1) ++ between ++ toString stretch.last

/-- The first line and how many lines there are, unless it is one; for no lines the line in front. -/
def measure (stretch : Stretch) : String :=
  if stretch.count = 0 then toString stretch.last ++ ",0"
  else if stretch.count = 1 then toString stretch.last
  else toString (stretch.before + 1) ++ "," ++ toString stretch.count

end Stretch

namespace Change

/-- The lines that go. -/
def old (change : Change) : Stretch := ⟨change.before.1, change.deleted⟩

/-- The lines that come. -/
def new (change : Change) : Stretch := ⟨change.before.2, change.inserted⟩

end Change

/-! ## 2. Trivial changes -/

/-- A blank or a line end. -/
def isSpaceByte (b : UInt8) : Bool :=
  b = 0x20 || (0x09 ≤ b && b ≤ 0x0D)

/-- A line without its line feed. -/
def bareLine (line : Bytes) : Bytes :=
  if line.getLast? = some 0x0A then line.dropLast else line

/-- Which lines do not count. -/
structure Indifference where
  /-- Lines without anything. -/
  empty : Bool := false
  /-- Lines of blanks. -/
  blank : Bool := false
  /-- Lines in which this occurs. -/
  matching : Option Regex := none
  deriving Repr

namespace Indifference

/-- A line does not count. -/
def covers (indifference : Indifference) (line : Bytes) : Bool :=
  let line := bareLine line
  (indifference.empty && line.isEmpty) || (indifference.blank && line.all isSpaceByte) ||
    match indifference.matching with
    | some regex => regex.occursIn (line.map ByteText.charOf)
    | none => false

end Indifference

/-- Two texts, the changes between them, and which lines do not count. -/
structure Comparison where
  first : List Bytes
  second : List Bytes
  changes : List Change
  indifference : Indifference := {}

namespace Comparison

/-- All lines of a change do not count. -/
def isTrivial (comparison : Comparison) (change : Change) : Bool :=
  (change.old.lines comparison.first ++ change.new.lines comparison.second).all
    comparison.indifference.covers

/-- There is a change that counts. -/
def hasChanges (comparison : Comparison) : Bool :=
  comparison.changes.any (!comparison.isTrivial ·)

end Comparison

/-! ## 3. Hunks -/

/-- Changes that are written together. -/
structure Hunk where
  first : Change
  others : List Change := []
  deriving DecidableEq, Repr

namespace Hunk

/-- All changes of the hunk. -/
def changes (hunk : Hunk) : List Change :=
  hunk.first :: hunk.others

/-- The last change. -/
def last (hunk : Hunk) : Change :=
  hunk.others.getLast?.getD hunk.first

/-- The lines of the first text from the first change to the last. -/
def old (hunk : Hunk) : Stretch :=
  ⟨hunk.first.old.before, hunk.last.old.last - hunk.first.old.before⟩

/-- The lines of the second text from the first change to the last. -/
def new (hunk : Hunk) : Stretch :=
  ⟨hunk.first.new.before, hunk.last.new.last - hunk.first.new.before⟩

/-- Some lines go. -/
def deletes (hunk : Hunk) : Bool :=
  hunk.changes.any (0 < ·.deleted)

/-- Some lines come. -/
def inserts (hunk : Hunk) : Bool :=
  hunk.changes.any (0 < ·.inserted)

/-- The letter for what the hunk does. -/
def letter (hunk : Hunk) : String :=
  if !hunk.inserts then "d" else if !hunk.deletes then "a" else "c"

end Hunk

namespace Comparison

/-- Every change that counts as a hunk of its own. -/
def singles (comparison : Comparison) : List Hunk :=
  (comparison.changes.filter (!comparison.isTrivial ·)).map fun change => { first := change }

/-- Changes put together: two of them if there are at most `2 * context` lines between them, or, if the
    later one is trivial, fewer than `context`. -/
def together (comparison : Comparison) (context : Nat) : List Change → List Hunk
  | [] => []
  | change :: rest =>
    match together comparison context rest with
    | [] => [⟨change, []⟩]
    | hunk :: hunks =>
      let distance := hunk.first.old.before - change.old.last
      if distance < (if comparison.isTrivial hunk.first then context else 2 * context + 1) then
        ⟨change, hunk.changes⟩ :: hunks
      else ⟨change, []⟩ :: hunk :: hunks

/-- The hunks with so many lines around them. -/
def hunks (comparison : Comparison) (context : Nat) : List Hunk :=
  (comparison.together context comparison.changes).filter fun hunk =>
    hunk.changes.any (!comparison.isTrivial ·)

end Comparison

end GoldenRun.Machine
