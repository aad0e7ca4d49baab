/-!
# What a terminal shows of a text

`visible` is a text without what a terminal does not print: control characters other than tab, line
feed, form feed, carriage return, and the escape sequences that start with U+001B. `firstLine` is a
text up to its first line break.

The reader knows four situations. After U+001B a `[` opens a control sequence, which a character from
`@` to `~` closes; `]`, `P`, `X`, `^` and `_` open a string, which only U+001B, U+0018, U+001A (and
U+0007 after `]`) closes; a character from U+0020 to `/` asks for one more; any other ends the
sequence. A shown character in the middle of a sequence abandons it.
-/

namespace GoldenRun.Text

/-- Where the reader is. -/
inductive Reading where
  /-- Between escape sequences. -/
  | plain
  /-- Behind U+001B. -/
  | escape
  /-- In a control sequence. -/
  | control
  /-- In a string; `bell` says whether U+0007 closes it. -/
  | string (bell : Bool)
  deriving DecidableEq, Repr

/-- The control characters that are shown. -/
def isShownControl (c : Char) : Bool :=
  c = '\t' || c = '\n' || c = '\r' || c.toNat = 0x0C

/-- One character: whether it is shown, and where the reader is behind it. -/
def Reading.step (reading : Reading) (c : Char) : Bool × Reading :=
  let n := c.toNat
  if n = 0x1B then (false, .escape)
  else if n = 0x18 || n = 0x1A then (false, .plain)
  else
    match reading with
    | .plain => (isShownControl c || (0x20 ≤ n && n != 0x7F), .plain)
    | .escape =>
      if n < 0x20 then (if isShownControl c then (true, .plain) else (false, .escape))
      else if n < 0x30 || n = 0x7F then (false, .escape)
      else if c = '[' then (false, .control)
      else if c = ']' then (false, .string true)
      else if c = 'P' || c = 'X' || c = '^' || c = '_' then (false, .string false)
      else (false, .plain)
    | .control =>
      if n < 0x20 then (if isShownControl c then (true, .plain) else (false, .control))
      else if 0x40 ≤ n && n < 0x7F then (false, .plain)
      else (false, .control)
    | .string bell => (false, if bell && n = 0x07 then .plain else .string bell)

/-- The shown characters, read from the given situation. -/
def visibleFrom (reading : Reading) : List Char → List Char
  | [] => []
  | c :: cs =>
    let (shown, next) := reading.step c
    if shown then c :: visibleFrom next cs else visibleFrom next cs

/-- What is shown of a text. -/
def visible (text : String) : String :=
  String.ofList (visibleFrom .plain text.toList)

/-- A text up to its first line break. -/
def firstLine (text : String) : String :=
  let line := text.toList.takeWhile (· != '\n')
  String.ofList <|
    if line.length < text.length && line.getLast? == some '\r' then line.dropLast else line

end GoldenRun.Text
