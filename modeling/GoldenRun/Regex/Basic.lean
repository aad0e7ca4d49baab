/-!
# Regular expressions

A regular expression stands for texts. Besides sets of characters, sequences, choices and repetitions
there are groups, whose texts are remembered, references to what a group stood for, and conditions on the
place between two characters.

* `Regex.spots`: where a match that begins at one place may end, the latest place first.
* `Regex.matchAt?`: the longest match at a place; of several, the one whose first parts are longest.
* `Regex.find?`: the first match in a text.
-/

namespace GoldenRun

/-! ## 1. Sets of characters -/

/-- A set of characters. -/
structure CharSet where
  /-- Code points from the first to the second. -/
  ranges : List (Nat × Nat)
  negated : Bool := false
  /-- Upper and lower case are the same. -/
  folded : Bool := false
  deriving DecidableEq, Repr

namespace CharSet

/-- The code point lies in one of the ranges. -/
def covers (set : CharSet) (n : Nat) : Bool :=
  set.ranges.any fun r => r.1 ≤ n && n ≤ r.2

/-- The character is in the set. -/
def has (set : CharSet) (c : Char) : Bool :=
  let plain := set.covers c.toNat
  let found :=
    if set.folded then plain || set.covers c.toLower.toNat || set.covers c.toUpper.toNat else plain
  found != set.negated

/-- The set of one character. -/
def single (c : Char) : CharSet := { ranges := [(c.toNat, c.toNat)] }

/-- All characters. -/
def any : CharSet := { ranges := [], negated := true }

/-- Letters, digits and the underscore. -/
def wordRanges : List (Nat × Nat) := [(48, 57), (65, 90), (95, 95), (97, 122)]

/-- Blanks, tabs and line breaks. -/
def spaceRanges : List (Nat × Nat) := [(9, 13), (32, 32)]

/-- The ranges of a named class. -/
def class? : String → Option (List (Nat × Nat))
  | "alpha" => some [(65, 90), (97, 122)]
  | "digit" => some [(48, 57)]
  | "alnum" => some [(48, 57), (65, 90), (97, 122)]
  | "upper" => some [(65, 90)]
  | "lower" => some [(97, 122)]
  | "space" => some spaceRanges
  | "blank" => some [(9, 9), (32, 32)]
  | "punct" => some [(33, 47), (58, 64), (91, 96), (123, 126)]
  | "print" => some [(32, 126)]
  | "graph" => some [(33, 126)]
  | "cntrl" => some [(0, 31), (127, 127)]
  | "xdigit" => some [(48, 57), (65, 70), (97, 102)]
  | _ => none

end CharSet

/-- Letters, digits and the underscore make words. -/
def isWordChar (c : Char) : Bool :=
  c.isAlphanum || c = '_'

/-! ## 2. Expressions -/

/-- A condition on a place between two characters. -/
inductive Place where
  | textStart
  | textEnd
  | lineStart
  | lineEnd
  | wordStart
  | wordEnd
  | wordEdge
  | wordInside
  deriving DecidableEq, Repr

/-- A regular expression. -/
inductive Regex where
  /-- The empty text. -/
  | empty
  | char (set : CharSet)
  | place (place : Place)
  | seq (first second : Regex)
  | alt (first second : Regex)
  /-- At least `least` times, and at most `most` times if there is a limit. -/
  | times (regex : Regex) (least : Nat) (most : Option Nat)
  | group (number : Nat) (regex : Regex)
  /-- What a group stood for. -/
  | backref (number : Nat)
  deriving DecidableEq, Repr, Inhabited

/-! ## 3. Matches -/

/-- A place in a text, and what groups stood for up to there. -/
structure Spot where
  offset : Nat := 0
  /-- What is in front, the nearest first. -/
  before : List Char := []
  /-- What is behind. -/
  after : List Char
  groups : List (Nat × List Char) := []
  deriving DecidableEq, Repr

namespace Spot

/-- The condition holds. -/
def fulfills (spot : Spot) (place : Place) : Bool :=
  let left := spot.before.head?.any isWordChar
  let right := spot.after.head?.any isWordChar
  match place with
  | .textStart => spot.before.isEmpty
  | .textEnd => spot.after.isEmpty
  | .lineStart => spot.before.head?.all (· = '\n')
  | .lineEnd => spot.after.head?.all (· = '\n')
  | .wordStart => !left && right
  | .wordEnd => left && !right
  | .wordEdge => left != right
  | .wordInside => left == right

/-- The place behind so many characters. -/
def advance : (count : Nat) → Spot → Spot
  | 0, spot => spot
  | n + 1, spot =>
    match spot.after with
    | [] => spot
    | c :: cs => advance n { spot with offset := spot.offset + 1, before := c :: spot.before, after := cs }

/-- What stands between an earlier place and this one. -/
def textSince (spot : Spot) (start : Nat) : List Char :=
  (spot.before.take (spot.offset - start)).reverse

/-- A spot put into others, the latest first; of two at one place the first stays. -/
def insert (spot : Spot) : List Spot → List Spot
  | [] => [spot]
  | s :: rest =>
    if s.offset < spot.offset then spot :: s :: rest
    else if s.offset = spot.offset then s :: rest
    else s :: insert spot rest

/-- Spots in order, one at each place. -/
def tidy (spots : List Spot) : List Spot :=
  spots.foldl (fun sorted spot => insert spot sorted) []

/-- Exactly so many steps. -/
def repeated (step : Spot → List Spot) : (count : Nat) → List Spot → List Spot
  | 0, spots => spots
  | n + 1, spots => repeated step n (tidy (spots.flatMap step))

/-- At most so many steps. -/
def upTo (step : Spot → List Spot) : (count : Nat) → List Spot → List Spot
  | 0, spots => spots
  | n + 1, spots => tidy (spots ++ upTo step n (tidy (spots.flatMap step)))

/-- Any number of steps: `found` are the spots that were reached, `edge` those of them that were not
    gone on from. `fuel` covers the places of the text. -/
def closure (step : Spot → List Spot) : (fuel : Nat) → (edge found : List Spot) → List Spot
  | 0, _, found => found
  | fuel + 1, edge, found =>
    let fresh := (tidy (edge.flatMap step)).filter fun s => found.all (·.offset != s.offset)
    if fresh.isEmpty then found else closure step fuel fresh (found ++ fresh)

end Spot

namespace Regex

/-- Where matches that begin at a spot end. -/
def spots : Regex → Spot → List Spot
  | empty, spot => [spot]
  | char set, spot =>
    match spot.after with
    | c :: _ => if set.has c then [spot.advance 1] else []
    | [] => []
  | place condition, spot => if spot.fulfills condition then [spot] else []
  | seq first second, spot => Spot.tidy ((spots first spot).flatMap (spots second))
  | alt first second, spot => Spot.tidy (spots first spot ++ spots second spot)
  | times regex least most, spot =>
    let started := Spot.repeated (spots regex) least [spot]
    match most with
    | some most => Spot.upTo (spots regex) (most - least) started
    | none => Spot.tidy (Spot.closure (spots regex) (spot.after.length + 1) started started)
  | group number regex, spot =>
    (spots regex spot).map fun stop =>
      { stop with
        groups := (number, stop.textSince spot.offset) :: stop.groups.filter (·.1 != number) }
  | backref number, spot =>
    match spot.groups.lookup number with
    | some text => if text.isPrefixOf spot.after then [spot.advance text.length] else []
    | none => []

/-- The end of the longest match that begins at a spot. -/
def matchAt? (regex : Regex) (spot : Spot) : Option Spot :=
  (Spot.tidy (regex.spots spot)).head?

/-- Where the first match from a spot on begins and ends. `fuel` covers what is behind the spot. -/
def findFrom? (regex : Regex) : (fuel : Nat) → Spot → Option (Spot × Spot)
  | 0, _ => none
  | fuel + 1, spot =>
    match regex.matchAt? spot with
    | some stop => some (spot, stop)
    | none => if spot.after.isEmpty then none else regex.findFrom? fuel (spot.advance 1)

/-- Where the first match in a text begins and ends. -/
def find? (regex : Regex) (text : List Char) : Option (Spot × Spot) :=
  regex.findFrom? (text.length + 1) { after := text }

/-- The matches of an expression one behind the other, each with its beginning and its end. An empty one does
    not stand right behind another. `fuel` covers the text. -/
def allMatches (regex : Regex) : (fuel : Nat) → (last : Option Nat) → Spot → List (Spot × Spot)
  | 0, _, _ => []
  | fuel + 1, last, spot =>
    match regex.findFrom? (spot.after.length + 1) { spot with groups := [] } with
    | none => []
    | some (start, stop) =>
      let isEmpty := start.offset = stop.offset
      let found := if isEmpty && last = some start.offset then [] else [(start, stop)]
      if isEmpty && start.after.isEmpty then found
      else found ++ regex.allMatches fuel (some stop.offset) (if isEmpty then start.advance 1 else stop)

/-- A match is somewhere in the text. -/
def occursIn (regex : Regex) (text : List Char) : Bool :=
  (regex.find? text).isSome

/-- The whole text is a match. -/
def matchesAll (regex : Regex) (text : List Char) : Bool :=
  (regex.matchAt? { after := text }).any (·.after.isEmpty)

end Regex

end GoldenRun
