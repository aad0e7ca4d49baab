import GoldenRun.Bytes.Basic
import GoldenRun.Machine.Difference.Selection
import GoldenRun.Machine.Difference.Way

/-!
# Alignments of two texts

An alignment of two texts says which lines of the first are kept as which lines of the second. Between
the kept lines there are *gaps* with deleted and inserted lines.

* A run of deleted lines whose neighbour equals the line at its other end can slide over this neighbour.
  Runs slide back as far as they can and then ahead as far as they can, and become one run where they
  meet; a run that came by lines of the other text stays with the last of these. Inserted lines slide
  after the deleted ones.
* `changesOf` gives the changes between two texts. The lines that both begin with or end with do not take
  part in the search, but for some at the edges, the *horizon*.
-/

namespace GoldenRun.Machine

/-- A line, and what of it counts when lines are compared. -/
structure Line where
  key : Bytes
  text : Bytes
  deriving DecidableEq, Repr

/-! ## 1. Gaps and kept lines -/

/-- What stands between two kept lines: lines of the first text only, and lines of the second only. -/
structure Gap where
  deleted : List Line := []
  inserted : List Line := []
  deriving DecidableEq, Repr

/-- A kept line, as it stands in both texts. -/
abbrev KeptLine := Line × Line

/-- Kept lines and the gaps around them, seen from one gap. -/
structure Alignment where
  /-- The kept lines in front of the gap, the nearest first, each with the gap in front of it. -/
  before : List (Gap × KeptLine) := []
  gap : Gap
  /-- The kept lines behind the gap, each with the gap behind it. -/
  after : List (KeptLine × Gap) := []
  deriving DecidableEq, Repr

/-- The first gap, and the kept lines with the gaps behind them; `x` and `y` are the numbers of the first
    lines. -/
def gapsBetween (xs ys : List Line) (x y : Nat) : List (Nat × Nat) → Gap × List (KeptLine × Gap)
  | [] => (⟨xs, ys⟩, [])
  | (x', y') :: places =>
    match xs.drop (x' - x), ys.drop (y' - y) with
    | line :: xs', line' :: ys' =>
      let (gap, rest) := gapsBetween xs' ys' (x' + 1) (y' + 1) places
      (⟨xs.take (x' - x), ys.take (y' - y)⟩, ((line, line'), gap) :: rest)
    | _, _ => (⟨xs, ys⟩, [])

/-! ## 2. Alignments -/

namespace Alignment

/-- An alignment of two texts, seen from its first gap. It keeps as many as possible of the lines that
    take part: those that `takingPart` gives, or all lines if the comparison is thorough. -/
def ofLines (thorough : Bool) (xs ys : List Line) : Alignment :=
  let select (row other : List Bytes) : Array (Bytes × Nat) :=
    (if thorough then row.zipIdx else takingPart row other).toArray
  let keys (lines : List Line) := lines.map Line.key
  let xs' := select (keys xs) (keys ys)
  let ys' := select (keys ys) (keys xs)
  let same (x y : Int) : Bool := xs'[x.toNat]?.map Prod.fst == ys'[y.toNat]?.map Prod.fst
  let region : Region := ⟨0, xs'.size, 0, ys'.size⟩
  let places := (region.kept same (region.size + 1)).filterMap fun (x, y) =>
    match xs'[x.toNat]?, ys'[y.toNat]? with
    | some (_, x), some (_, y) => some (x, y)
    | _, _ => none
  let (gap, after) := gapsBetween xs ys 0 0 places
  { gap, after }

/-- The alignment seen from the gap in front. -/
def previous? (alignment : Alignment) : Option Alignment :=
  match alignment.before with
  | [] => none
  | (gap, lines) :: before => some ⟨before, gap, (lines, alignment.gap) :: alignment.after⟩

/-- The alignment seen from the gap behind. -/
def next? (alignment : Alignment) : Option Alignment :=
  match alignment.after with
  | [] => none
  | (lines, gap) :: after => some ⟨(alignment.gap, lines) :: alignment.before, gap, after⟩

/-! ## 3. Sliding -/

/-- The deleted lines of the gap slid back over one kept line. -/
def slideBack? (alignment : Alignment) : Option Alignment :=
  match alignment.before, alignment.gap.deleted.getLast? with
  | (earlier, first, second) :: before, some last =>
    if first.key = last.key then
      let deleted := earlier.deleted ++ first :: alignment.gap.deleted.dropLast
      some {
        before
        gap := { earlier with deleted }
        after := ((last, second), { alignment.gap with deleted := [] }) :: alignment.after }
    else none
  | _, _ => none

/-- The deleted lines of the gap slid ahead over one kept line. -/
def slideAhead? (alignment : Alignment) : Option Alignment :=
  match alignment.after, alignment.gap.deleted with
  | ((first, second), later) :: after, head :: deleted =>
    if first.key = head.key then
      some {
        before := ({ alignment.gap with deleted := [] }, head, second) :: alignment.before
        gap := { later with deleted := deleted ++ first :: later.deleted }
        after }
    else none
  | _, _ => none

/-- Slid back as often as possible, and at most `count` times. -/
def slideBack : (count : Nat) → Alignment → Alignment
  | 0, alignment => alignment
  | count + 1, alignment =>
    match alignment.slideBack? with
    | some alignment => slideBack count alignment
    | none => alignment

/-- Slid ahead as often as possible, and at most `count` times. The answer also says over how many kept
    lines the deleted lines slid since they came by inserted ones, if they did; `since` says so for the
    beginning. -/
def slideAhead (since : Option Nat) : (count : Nat) → Alignment → Option Nat × Alignment
  | 0, alignment => (since, alignment)
  | count + 1, alignment =>
    match alignment.slideAhead? with
    | some alignment =>
      slideAhead (if alignment.gap.inserted.isEmpty then since.map (· + 1) else some 0) count alignment
    | none => (since, alignment)

/-- The deleted lines of the gap brought to their place. `fuel` covers the deleted lines. -/
def settle : (fuel : Nat) → Alignment → Alignment
  | 0, alignment => alignment
  | fuel + 1, alignment =>
    let first := alignment.slideBack alignment.before.length
    let (since, last) :=
      first.slideAhead (if first.gap.inserted.isEmpty then none else some 0) first.after.length
    if last.gap.deleted.length = alignment.gap.deleted.length then last.slideBack (since.getD 0)
    else settle fuel last

/-- The deleted lines of all gaps from this one on brought to their places. `fuel` bounds the number of
    gaps that are looked at. -/
def settleFrom : (fuel : Nat) → (lines : Nat) → Alignment → Alignment
  | 0, _, alignment => alignment
  | fuel + 1, lines, alignment =>
    let alignment := if alignment.gap.deleted.isEmpty then alignment else alignment.settle lines
    match alignment.next? with
    | some next => settleFrom fuel lines next
    | none => alignment

/-- The alignment seen from its first gap, which is not further than `count` gaps away. -/
def rewind : (count : Nat) → Alignment → Alignment
  | 0, alignment => alignment
  | count + 1, alignment =>
    match alignment.previous? with
    | some alignment => rewind count alignment
    | none => alignment

/-- The deleted lines of an alignment of so many lines brought to their places. -/
def settleAll (lines : Nat) (alignment : Alignment) : Alignment :=
  let alignment := alignment.settleFrom ((lines + 1) * (lines + 1)) (lines + 1)
  alignment.rewind alignment.before.length

/-- The alignment with the texts exchanged. -/
def swap (alignment : Alignment) : Alignment :=
  let gap (g : Gap) : Gap := ⟨g.inserted, g.deleted⟩
  { before := alignment.before.map fun (g, lines) => (gap g, lines.swap)
    gap := gap alignment.gap
    after := alignment.after.map fun (lines, g) => (lines.swap, gap g) }

end Alignment

/-! ## 4. Changes -/

/-- A stretch of changes: how many lines of each text stand in front of it, and how many lines go and
    come. -/
structure Change where
  before : Nat × Nat
  deleted : Nat
  inserted : Nat
  deriving DecidableEq, Repr

/-- The change in a gap, if there is any. -/
def Gap.change? (x y : Nat) (gap : Gap) : Option Change :=
  if gap.deleted.isEmpty && gap.inserted.isEmpty then none
  else some ⟨(x, y), gap.deleted.length, gap.inserted.length⟩

/-- The changes in a gap and in those behind the kept lines that follow. -/
def changesFrom (x y : Nat) (gap : Gap) : List (KeptLine × Gap) → List Change
  | [] => (gap.change? x y).toList
  | (_, next) :: rest =>
    (gap.change? x y).toList ++
      changesFrom (x + gap.deleted.length + 1) (y + gap.inserted.length + 1) next rest

/-- How many lines two texts have in common at their beginnings. -/
def commonLines : List Line → List Line → Nat
  | x :: xs, y :: ys => if x.text = y.text then commonLines xs ys + 1 else 0
  | _, _ => 0

/-- The changes that lead from the first text to the second. -/
def changesOf (thorough : Bool) (horizon : Nat) (xs ys : List Line) : List Change :=
  let front := commonLines xs ys - horizon
  let xs := xs.drop front
  let ys := ys.drop front
  let behind := commonLines xs.reverse ys.reverse - horizon
  let xs := xs.take (xs.length - behind)
  let ys := ys.take (ys.length - behind)
  let lines := xs.length + ys.length
  let alignment := Alignment.ofLines thorough xs ys
  let alignment := ((alignment.settleAll lines).swap.settleAll lines).swap
  changesFrom front front alignment.gap alignment.after

end GoldenRun.Machine
