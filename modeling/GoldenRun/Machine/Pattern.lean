import GoldenRun.Regex.Basic

/-!
# Patterns

A pattern is a list of items: a character that stands for itself, any one character, one of a set of
characters, or any text at all. It is read from *glyphs*, characters that were quoted or not; those that
were quoted stand for themselves, and so does one behind a backslash.

* `Pattern.ofGlyphs` reads a pattern, `Pattern.ofText` one without quotes.
* `Pattern.matchesText`: the pattern describes the whole text.
-/

namespace GoldenRun.Machine

/-- A character of a word, and whether it was quoted. -/
structure Glyph where
  char : Char
  quoted : Bool
  deriving DecidableEq, Repr

/-- The glyph is this character without quotes. -/
def Glyph.isBare (glyph : Glyph) (c : Char) : Bool :=
  glyph.char = c && !glyph.quoted

/-- An item of a pattern. -/
inductive PatternItem where
  | char (c : Char)
  | anyChar
  | anyText
  | set (set : CharSet)
  deriving DecidableEq, Repr

/-- What a pattern describes, item by item. -/
abbrev Pattern := List PatternItem

namespace Pattern

/-- The ranges of a named class in a set, and what follows its brackets. The text begins behind the first
    bracket. -/
def readClass? (glyphs : List Glyph) : Option (List (Nat × Nat) × List Glyph) :=
  match glyphs with
  | first :: rest =>
    let name := rest.takeWhile fun g => g.char.isAlpha && !g.quoted
    match first.isBare ':', rest.drop name.length with
    | true, colon :: bracket :: behind =>
      if colon.isBare ':' && bracket.isBare ']' then
        (CharSet.class? (String.ofList (name.map Glyph.char))).map fun ranges => (ranges, behind)
      else none
    | _, _ => none
  | [] => none

/-- A character that stands for itself, behind a backslash or not, and what follows it. -/
def readSelf : List Glyph → Option (Char × List Glyph)
  | a :: b :: rest => if a.isBare '\\' then some (b.char, rest) else some (a.char, b :: rest)
  | [a] => some (a.char, [])
  | [] => none

/-- The ranges of a set up to its closing bracket, and what follows. A bracket that comes first stands
    for itself. `fuel` covers the glyphs. -/
def readRanges (first : Bool) : (fuel : Nat) → List Glyph → Option (List (Nat × Nat) × List Glyph)
  | 0, _ | _, [] => none
  | fuel + 1, g :: glyphs =>
    if !first && g.isBare ']' then some ([], glyphs)
    else
      match if g.isBare '[' then readClass? glyphs else none with
      | some (ranges, rest) =>
        (readRanges false fuel rest).map fun (more, rest) => (ranges ++ more, rest)
      | none =>
        match readSelf (g :: glyphs) with
        | none => none
        | some (low, rest) =>
          let (high, rest) : Char × List Glyph := match rest with
            | dash :: last :: behind =>
              if dash.isBare '-' && !last.isBare ']' then
                (readSelf (last :: behind)).getD (low, rest)
              else (low, rest)
            | rest => (low, rest)
          (readRanges false fuel rest).map fun (more, rest) => ((low.toNat, high.toNat) :: more, rest)

/-- The pattern of a text. `fuel` covers its length. -/
def readItems : (fuel : Nat) → List Glyph → Pattern
  | 0, _ | _, [] => []
  | fuel + 1, g :: rest =>
    if g.isBare '*' then .anyText :: readItems fuel rest
    else if g.isBare '?' then .anyChar :: readItems fuel rest
    else if g.isBare '[' then
      let negated := rest.head?.any (·.isBare '!')
      let behind := if negated then rest.drop 1 else rest
      match readRanges true (behind.length + 1) behind with
      | some (ranges, rest) => .set { ranges, negated } :: readItems fuel rest
      | none => .char '[' :: readItems fuel rest
    else
      match readSelf (g :: rest) with
      | some (c, rest) => .char c :: readItems fuel rest
      | none => []

/-- The pattern of a text. -/
def ofGlyphs (glyphs : List Glyph) : Pattern :=
  readItems (glyphs.length + 1) glyphs

/-- The pattern of a text without quotes. -/
def ofText (text : String) : Pattern :=
  ofGlyphs (text.toList.map fun c => ⟨c, false⟩)

/-- All ends of a list, the longest first. -/
def endsOf {α : Type} : List α → List (List α)
  | [] => [[]]
  | x :: xs => (x :: xs) :: endsOf xs

/-- The pattern describes the whole text. -/
def matchesText : Pattern → List Char → Bool
  | [], text => text.isEmpty
  | .anyText :: items, text => (endsOf text).any (matchesText items)
  | _ :: _, [] => false
  | .char c :: items, d :: text => c == d && matchesText items text
  | .anyChar :: items, _ :: text => matchesText items text
  | .set set :: items, d :: text => set.has d && matchesText items text

end Pattern

end GoldenRun.Machine
