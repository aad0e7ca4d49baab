import GoldenRun.Bytes.Basic

/-!
# How lines are shown

A `Look` says how single lines are shown in a description of changes: tabs made blanks or not, what stands
between a mark and its line, and colours.
-/

namespace GoldenRun.Machine

/-- How lines are shown. -/
structure Look where
  /-- Tabs are made blanks. -/
  expands : Bool := false
  /-- The distance between tab stops. -/
  tabSize : Nat := 8
  /-- A tab stands behind a mark, so that the tabs of the line keep their places. -/
  tabbed : Bool := false
  /-- An empty line is shown without blanks behind its mark. -/
  bare : Bool := false
  coloured : Bool := false
  deriving DecidableEq, Repr

/-- Colours of parts of a description. -/
inductive Paint where
  | heading
  | place
  | old
  | new
  deriving DecidableEq, Repr

/-- The number of a colour. -/
def Paint.code : Paint → String
  | .heading => "1"
  | .place => "36"
  | .old => "31"
  | .new => "32"

/-- What stands behind a last line without a line feed. -/
def openEnd : Bytes :=
  utf8 "\n\\ No newline at end of file\n"

namespace Look

variable (look : Look)

/-- Bytes in a colour. -/
def painted (paint : Paint) (bytes : Bytes) : Bytes :=
  if look.coloured then utf8 ("\x1b[" ++ paint.code ++ "m") ++ bytes ++ utf8 "\x1b[0m" else bytes

/-- A byte that takes a column. -/
def takesColumn (b : UInt8) : Bool :=
  0x20 ≤ b && b < 0x7F

/-- A line from a column on with tabs made blanks. Behind a carriage return the mark is shown again. -/
def expanded (mark : Bytes) (column : Nat) : Bytes → Bytes
  | [] => []
  | b :: rest =>
    if b = 0x09 then
      let blanks := look.tabSize - column % look.tabSize
      List.replicate blanks 0x20 ++ expanded mark (column + blanks) rest
    else if b = 0x0D then
      let again := if rest.isEmpty || rest.head? = some 0x0A then [] else mark
      b :: again ++ expanded mark 0 rest
    else if b = 0x08 then
      if column = 0 then expanded mark 0 rest else b :: expanded mark (column - 1) rest
    else b :: expanded mark (if takesColumn b then column + 1 else column) rest

/-- The bytes of a line as they are shown behind a mark. -/
def shown (mark line : Bytes) : Bytes :=
  if look.expands then look.expanded mark 0 line else line

/-- A line with its line feed, or with a remark if it has none; `show` makes the rest of it. -/
def closed (paint : Option Paint) (show? : Bytes → Bytes) (line : Bytes) : Bytes :=
  let isClosed := line.getLast? = some 0x0A
  let body := show? (if isClosed then line.dropLast else line)
  (match paint with
    | some paint => look.painted paint body
    | none => body) ++
    (if isClosed then [0x0A] else openEnd)

/-- A line behind a mark, with something between them. -/
def marked (paint : Option Paint) (mark : String) (line : Bytes) : Bytes :=
  let full := utf8 (mark ++ if look.tabbed then "\t" else " ")
  let front :=
    if look.bare && line.head? = some 0x0A then utf8 (if mark = " " then "" else mark) else full
  look.closed paint (fun body => front ++ look.shown full body) line

/-- A line right behind a sign. -/
def signed (paint : Option Paint) (sign : String) (line : Bytes) : Bytes :=
  let isBare := look.bare && line.head? = some 0x0A
  let front :=
    if sign = " " then (if isBare then "" else if look.tabbed then "\t" else " ")
    else sign ++ if look.tabbed && !isBare then "\t" else ""
  look.closed paint (fun body => utf8 front ++ look.shown [] body) line

end Look

end GoldenRun.Machine
