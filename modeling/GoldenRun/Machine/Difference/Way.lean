/-!
# A shortest way between two rows

Two rows of things are given by their lengths and by which things of one are the same as which of the
other. A way leads from the first row to the second by single deletions and insertions; what it does not
delete it keeps.

* *Fronts* advance from both ends of a region, one deletion or insertion at a time, and where they meet
  the region is cut in two.
* `Region.kept` gives the places that a shortest way keeps.
-/

namespace GoldenRun.Machine

/-! ## 1. Regions and fronts -/

/-- A part of two texts: the lines of the first from `left` on in front of `right`, and the lines of the
    second from `top` on in front of `bottom`. -/
structure Region where
  left : Int
  right : Int
  top : Int
  bottom : Int
  deriving DecidableEq, Repr

/-- How far a search got. On each of the diagonals `high`, `high - 2`, … it has come to a line of the
    first text; a diagonal is the difference of two line numbers. -/
structure Front where
  high : Int
  reach : List Int
  deriving DecidableEq, Repr

namespace Front

/-- The lowest diagonal. -/
def low (front : Front) : Int :=
  front.high - 2 * ((front.reach.length : Int) - 1)

/-- What follows for the diagonals between neighbours, from diagonal `d` down. -/
def between (next : (d above below : Int) → Int) : (d : Int) → List Int → List Int
  | d, above :: below :: rest => next d above below :: between next (d - 2) (below :: rest)
  | _, _ => []

/-- The place on the highest diagonal on which two fronts meet. -/
def meeting? (met : Int → Int → Bool) (front other : Front) : Option (Int × Int) :=
  let start := min front.high other.high
  let reachBelow (f : Front) := f.reach.drop ((f.high - start) / 2).toNat
  let found := ((reachBelow front).zip (reachBelow other)).zipIdx.find? fun ((x, o), _) => met x o
  found.map fun ((x, _), i) => (x, x - (start - 2 * i))

end Front

namespace Region

/-- How many lines of both texts there are. -/
def size (region : Region) : Nat :=
  (region.right - region.left).toNat + (region.bottom - region.top).toNat

/-! ## 2. The search -/

section Search

variable (same : (x y : Int) → Bool) (region : Region)

/-- The line of the first text behind the equal lines from a place on. `fuel` covers the first text. -/
def ahead : (fuel : Nat) → (x y : Int) → Int
  | 0, x, _ => x
  | fuel + 1, x, y =>
    if x < region.right && y < region.bottom && same x y then ahead fuel (x + 1) (y + 1) else x

/-- The line of the first text at which the equal lines in front of a place begin. `fuel` covers the
    first text. -/
def back : (fuel : Nat) → (x y : Int) → Int
  | 0, x, _ => x
  | fuel + 1, x, y =>
    if region.left < x && region.top < y && same (x - 1) (y - 1) then back fuel (x - 1) (y - 1) else x

/-- A front one deletion or insertion further on. It takes up one more diagonal on each side, and gives
    one up on a side where there are no more; `missing` stands for a diagonal that was not reached. -/
def advance (missing : Int) (next : (d above below : Int) → Int) (front : Front) : Front :=
  let isUpper := front.high < region.right - region.top
  let isLower := region.left - region.bottom < front.low
  let high := if isUpper then front.high + 1 else front.high - 1
  let reach :=
    (if isUpper then [missing] else []) ++ front.reach ++ (if isLower then [missing] else [])
  { high, reach := Front.between next high reach }

/-- The front of the search from the beginning, one step further on. -/
def advanceAhead : Front → Front :=
  region.advance (-1) fun d above below =>
    let x := max above (below + 1)
    region.ahead same region.size x (x - d)

/-- The front of the search from the end, one step further on. -/
def advanceBack : Front → Front :=
  region.advance (region.right + 1) fun d above below =>
    let x := min (above - 1) below
    region.back same region.size x (x - d)

/-- The searches meet after an odd number of steps. -/
def isOdd : Bool :=
  ((region.left - region.top) - (region.right - region.bottom)) % 2 = 1

/-- A place where the searches from both ends meet. `fuel` covers the lines. -/
def middleFrom : (fuel : Nat) → (first last : Front) → Int × Int
  | 0, _, _ => (region.right, region.bottom)
  | fuel + 1, first, last =>
    let first := region.advanceAhead same first
    let met := if region.isOdd then first.meeting? (fun x o => o ≤ x) last else none
    match met with
    | some place => place
    | none =>
      let last := region.advanceBack same last
      let met := if region.isOdd then none else last.meeting? (fun x o => x ≤ o) first
      met.getD (middleFrom fuel first last)

/-- A place on a shortest way through the region. -/
def middle : Int × Int :=
  region.middleFrom same (region.size + 1) ⟨region.left - region.top, [region.left]⟩
    ⟨region.right - region.bottom, [region.right]⟩

end Search

/-! ## 3. The way -/

/-- The places from one on, along a diagonal. -/
def diagonal (x y : Int) (count : Nat) : List (Int × Int) :=
  (List.range count).map fun (i : Nat) => (x + i, y + i)

/-- The places of the lines that a shortest way through a region keeps. `fuel` covers the lines. -/
def kept (same : (x y : Int) → Bool) : (fuel : Nat) → Region → List (Int × Int)
  | 0, _ => []
  | fuel + 1, region =>
    let left := region.ahead same region.size region.left region.top
    let front := (left - region.left).toNat
    let rest := { region with left, top := region.top + front }
    let right := rest.back same rest.size rest.right rest.bottom
    let behind := (rest.right - right).toNat
    let inner := { rest with right, bottom := rest.bottom - behind }
    let between :=
      if inner.left = inner.right || inner.top = inner.bottom then []
      else
        let (x, y) := inner.middle same
        kept same fuel { inner with right := x, bottom := y } ++
          kept same fuel { inner with left := x, top := y }
    diagonal region.left region.top front ++ between ++ diagonal right inner.bottom behind

end Region

end GoldenRun.Machine
