import GoldenRun.Machine.Difference.Hunk
import GoldenRun.Machine.Difference.Look

/-!
# Two texts side by side

The lines of two texts are written in two columns. Between them a sign says how they differ: `|` for two
lines that differ, `<` and `>` for a line that only one text has, `/` and `\` for two lines that differ
where only the one at that side has a line feed.

* `ColumnRule.ofWidth` divides the width of a row. Unless tabs are made blanks, the second column begins
  at a tab stop.
-/

namespace GoldenRun.Machine

/-- How rows of two columns are laid out. -/
structure ColumnRule where
  /-- The width of a column. -/
  half : Nat
  /-- Where the second column begins. -/
  second : Nat
  /-- Only the first of two equal lines is written. -/
  leftOnly : Bool := false
  /-- Equal lines are left out. -/
  changesOnly : Bool := false
  deriving DecidableEq, Repr

namespace ColumnRule

/-- The layout of rows of a width. -/
def ofWidth (look : Look) (width : Nat) : ColumnRule :=
  let step := if look.expands then 1 else look.tabSize
  let both := step + 3
  let middle := width / 2 + both / 2 + (if width % 2 = 1 && both % 2 = 1 then 1 else 0)
  let offset := middle - middle % step
  let half := min (offset - 3) (width - offset)
  { half, second := if half = 0 then width else offset }

end ColumnRule

namespace Look

variable (look : Look)

/-- What leads from a column to another: tabs as far as they go, and then blanks. -/
def gap (column target : Nat) : Bytes :=
  let next := column + look.tabSize - column % look.tabSize
  if look.expands || target < next || look.tabSize = 0 then List.replicate (target - column) 0x20
  else
    let tabs := (target - next) / look.tabSize
    List.replicate (tabs + 1) 0x09 ++
      List.replicate (target - (next + tabs * look.tabSize)) 0x20

/-- What of a line fits into a column, and where it ends. `indent` is where the column begins, `column`
    where the line is and `shown` how far it was written. -/
def fitting (width indent : Nat) (column shown : Nat) : Bytes → Bytes × Nat
  | [] => ([], shown)
  | b :: rest =>
    if b = 0x0A then ([], shown)
    else if b = 0x09 then
      let blanks := look.tabSize - column % look.tabSize
      let stop := shown + blanks
      if column = shown && look.expands then
        let stop := min stop width
        let (bytes, reached) := fitting width indent (column + blanks) (max shown stop) rest
        (List.replicate (stop - shown) 0x20 ++ bytes, reached)
      else if column = shown && stop < width then
        let (bytes, reached) := fitting width indent (column + blanks) stop rest
        (b :: bytes, reached)
      else fitting width indent (column + blanks) shown rest
    else if b = 0x0D then
      let (bytes, reached) := fitting width indent 0 0 rest
      (b :: look.gap 0 indent ++ bytes, reached)
    else if b = 0x08 then
      if column = 0 then fitting width indent 0 shown rest
      else
        let column := column - 1
        if width ≤ column then fitting width indent column shown rest
        else if shown ≤ column then
          let (bytes, reached) := fitting width indent column column rest
          (List.replicate (column - shown) 0x20 ++ bytes, reached)
        else
          let (bytes, reached) := fitting width indent column column rest
          (b :: bytes, reached)
    else if takesColumn b then
      if column < width then
        let (bytes, reached) := fitting width indent (column + 1) (column + 1) rest
        (b :: bytes, reached)
      else fitting width indent (column + 1) shown rest
    else if b = 0 || b = 0x0B || b = 0x0C then
      let (bytes, reached) := fitting width indent column shown rest
      (if column < width then b :: bytes else bytes, reached)
    else if column ≤ width then
      let (bytes, reached) := fitting width indent column column rest
      (b :: bytes, reached)
    else fitting width indent column shown rest

/-- A row with a line of each text or of one of them, and a sign between them. -/
def row (rule : ColumnRule) (sign : Char) (left right : Option Bytes) : Bytes :=
  let closes (line : Option Bytes) : Bool := line.any (·.getLast? == some 0x0A)
  let (first, column) := (left.map (look.fitting rule.half 0 0 0)).getD ([], 0)
  let sign :=
    if sign = '|' && closes left != closes right then (if closes left then '/' else '\\') else sign
  let place := (rule.half + rule.second - 1) / 2
  let (middle, column) :=
    if sign = ' ' then ([], column)
    else (look.gap column place ++ utf8 (String.singleton sign), place + 1)
  let second := match right with
    | some line =>
      if line.head? = some 0x0A then []
      else look.gap column rule.second ++ (look.fitting rule.half rule.second 0 0 line).1
    | none => []
  let body := first ++ middle ++ second ++
    if closes left || closes right then utf8 "\n" else []
  if sign = '<' then look.painted .old body
  else if sign = '>' then look.painted .new body
  else body

end Look

namespace Comparison

variable (comparison : Comparison) (look : Look) (rule : ColumnRule)

/-- Rows of two lines each, as long as both texts have some. -/
def rows (sign : Char) (left right : List Bytes) : Bytes :=
  (left.zip right).flatMap fun (a, b) => look.row rule sign (some a) (some b)

/-- Rows of lines that only the first text has. -/
def leftRows (sign : Char) (lines : List Bytes) : Bytes :=
  lines.flatMap fun line => look.row rule sign (some line) none

/-- Rows of lines that only the second text has. -/
def rightRows (sign : Char) (lines : List Bytes) : Bytes :=
  lines.flatMap fun line => look.row rule sign none (some line)

/-- Rows of lines that do not differ, or whose difference does not count. -/
def commonRows (left right : List Bytes) : Bytes :=
  if rule.changesOnly then []
  else if rule.leftOnly then leftRows look rule '(' left
  else
    rows look rule ' ' left right ++ rightRows look rule ')' (right.drop left.length) ++
      leftRows look rule '(' (left.drop right.length)

/-- The rows of a hunk. -/
def hunkRows (hunk : Hunk) : Bytes :=
  let old := hunk.old.lines comparison.first
  let new := hunk.new.lines comparison.second
  rows look rule '|' old new ++ rightRows look rule '>' (new.drop old.length) ++
    leftRows look rule '<' (old.drop new.length)

/-- The rows from the given lines on. -/
def rowsFrom (i j : Nat) : List Hunk → Bytes
  | [] => commonRows look rule (comparison.first.drop i) (comparison.second.drop j)
  | hunk :: hunks =>
    commonRows look rule ((Stretch.mk i (hunk.old.before - i)).lines comparison.first)
        ((Stretch.mk j (hunk.new.before - j)).lines comparison.second) ++
      comparison.hunkRows look rule hunk ++ rowsFrom hunk.old.last hunk.new.last hunks

/-- Both texts side by side. -/
def sideBySide : Bytes :=
  comparison.rowsFrom look rule 0 0 comparison.singles

end Comparison

end GoldenRun.Machine
