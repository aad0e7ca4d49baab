import GoldenRun.Machine.Difference.Hunk
import GoldenRun.Machine.Difference.Look
import GoldenRun.Machine.Shape

/-!
# Texts laid over each other

Two texts are written as one, group by group: lines that they have in common, and the lines of changes.
How a group is written and how its lines are is said by *formats*: texts in which `%` begins a directive.

* In the format of a group `%<`, `%>` and `%=` stand for its lines, `%(A=B?T:E)` for one of two formats.
* In the format of a line `%l` stands for the line and `%L` for the line with its line feed.
* In both `%%` is a percent sign, `%c'C'` a character, and a shape with a letter a number.
* What is no directive stands for itself.
-/

namespace GoldenRun.Machine

/-! ## 1. Directives -/

/-- The character that a literal stands for, and what follows the quote behind it. -/
def readLiteral? : List Char → Option (Char × List Char)
  | '\\' :: cs =>
    let digits := cs.takeWhile fun c => '0' ≤ c && c ≤ '7'
    let value := digits.foldl (fun n c => n * 8 + (c.toNat - 48)) 0
    match cs.drop digits.length with
    | '\x27' :: rest =>
      if 1 ≤ digits.length && digits.length ≤ 3 then some (Char.ofNat (value % 256), rest) else none
    | _ => none
  | c :: '\x27' :: rest => if c = '\x27' then none else some (c, rest)
  | _ => none

/-- What a directive for a character or for a number makes, and what follows it. `number?` gives the
    number of a letter. -/
def readValue? (number? : Char → Option Nat) (cs : List Char) : Option (List Char × List Char) :=
  let (shape, rest) := Shape.read "-'0" cs
  match rest with
  | 'c' :: '\x27' :: rest => (readLiteral? rest).map fun (c, rest) => ([c], rest)
  | kind :: letter :: rest =>
    match number? letter with
    | none => none
    | some n =>
      match kind with
      | 'd' => some (shape.decimal n, rest)
      | 'o' => some (shape.octal n, rest)
      | 'x' => some (shape.hexadecimal false n, rest)
      | 'X' => some (shape.hexadecimal true n, rest)
      | _ => none
  | _ => none

/-! ## 2. Lines -/

/-- The formats of lines that only the first text has, that only the second has, and that both have. -/
structure LineFormats where
  old : List Char
  new : List Char
  common : List Char
  deriving DecidableEq, Repr

/-- A line with a number by its format. `fuel` covers the format. -/
def formattedLine (look : Look) (number : Nat) (line : Bytes) : (fuel : Nat) → List Char → Bytes
  | 0, _ => []
  | _ + 1, [] => []
  | fuel + 1, '%' :: cs =>
    match cs with
    | '%' :: rest => 0x25 :: formattedLine look number line fuel rest
    | 'l' :: rest => look.shown [] (bareLine line) ++ formattedLine look number line fuel rest
    | 'L' :: rest => look.shown [] line ++ formattedLine look number line fuel rest
    | cs =>
      match readValue? (fun c => if c = 'n' then some number else none) cs with
      | some (text, rest) => text.map ByteText.byteOf ++ formattedLine look number line fuel rest
      | none => 0x25 :: formattedLine look number line fuel cs
  | fuel + 1, c :: cs => ByteText.byteOf c :: formattedLine look number line fuel cs

/-- Lines of a text by their format. -/
def formattedLines (look : Look) (format : List Char) (text : List Bytes) (stretch : Stretch) : Bytes :=
  ((stretch.lines text).zipIdx (stretch.before + 1)).flatMap fun (line, number) =>
    formattedLine look number line (format.length + 1) format

/-! ## 3. Groups -/

/-- A group of lines: where it lies in each text. -/
structure Group where
  old : Stretch
  new : Stretch
  deriving DecidableEq, Repr

namespace Group

/-- The number that a letter stands for: the first and the last line of the group, the lines around it,
    or how many lines it has; in upper case for the second text. -/
def number? (group : Group) (letter : Char) : Option Nat :=
  let stretch := if letter.isUpper then group.new else group.old
  match letter.toLower with
  | 'e' => some stretch.before
  | 'f' => some (stretch.before + 1)
  | 'l' => some stretch.last
  | 'm' => some (stretch.last + 1)
  | 'n' => some stretch.count
  | _ => none

/-- A number in a condition, in digits or by a letter, and what follows it. -/
def operand? (group : Group) (cs : List Char) : Option (Nat × List Char) :=
  match leadingDigits cs, cs with
  | (some n, rest), _ => some (n, rest)
  | (none, _), letter :: rest => (group.number? letter).map fun n => (n, rest)
  | (none, _), [] => none

/-- Whether the two numbers of a condition are equal, and what follows the question mark behind it. -/
def condition? (group : Group) (cs : List Char) : Option (Bool × List Char) :=
  match group.operand? cs with
  | some (a, '=' :: rest) =>
    match group.operand? rest with
    | some (b, '?' :: rest) => some (a = b, rest)
    | _ => none
  | _ => none

/-- A group by its format up to a closing character, and the format from there on. `fuel` covers the
    format. -/
def formatted (look : Look) (lines : LineFormats) (first second : List Bytes) (group : Group)
    (closing : Option Char) : (fuel : Nat) → List Char → Bytes × List Char
  | 0, cs => ([], cs)
  | _ + 1, [] => ([], [])
  | fuel + 1, c :: cs =>
    let go (bytes : Bytes) (rest : List Char) : Bytes × List Char :=
      let (more, rest) := formatted look lines first second group closing fuel rest
      (bytes ++ more, rest)
    if closing = some c then ([], c :: cs)
    else if c != '%' then go [ByteText.byteOf c] cs
    else
      match cs with
      | '%' :: rest => go [0x25] rest
      | '<' :: rest => go (formattedLines look lines.old first group.old) rest
      | '=' :: rest => go (formattedLines look lines.common first group.old) rest
      | '>' :: rest => go (formattedLines look lines.new second group.new) rest
      | '(' :: rest =>
        match group.condition? rest with
        | none => go [0x25] cs
        | some (holds, rest) =>
          let (yes, rest) := formatted look lines first second group (some ':') fuel rest
          match rest with
          | [] => (if holds then yes else [], [])
          | _ :: rest =>
            let (no, rest) := formatted look lines first second group (some ')') fuel rest
            go (if holds then yes else no) (rest.drop 1)
      | cs =>
        match readValue? group.number? cs with
        | some (text, rest) => go (text.map ByteText.byteOf) rest
        | none => go [0x25] cs

end Group

/-- The formats of groups: of lines that only one of the texts has, of changed and of common lines. -/
structure GroupFormats where
  old : List Char
  new : List Char
  changed : List Char
  common : List Char
  lines : LineFormats
  deriving DecidableEq, Repr

namespace GroupFormats

/-- Nothing is written for common lines. -/
def hidesCommon (formats : GroupFormats) : Bool :=
  formats.common.isEmpty || (formats.common = ['%', '='] && formats.lines.common.isEmpty)

end GroupFormats

namespace Comparison

variable (comparison : Comparison) (look : Look) (formats : GroupFormats)

/-- A group by a format. -/
def groupText (format : List Char) (group : Group) : Bytes :=
  (group.formatted look formats.lines comparison.first comparison.second none (format.length + 1)
    format).1

/-- The groups from the given lines on. -/
def groupsFrom (i j : Nat) : List Hunk → Bytes
  | [] =>
    let common : Group :=
      ⟨⟨i, comparison.first.length - i⟩, ⟨j, comparison.second.length - j⟩⟩
    if common.old.count = 0 && common.new.count = 0 then []
    else comparison.groupText look formats formats.common common
  | hunk :: hunks =>
    let common : Group := ⟨⟨i, hunk.old.before - i⟩, ⟨j, hunk.new.before - j⟩⟩
    let format :=
      if !hunk.inserts then formats.old else if !hunk.deletes then formats.new else formats.changed
    (if common.old.count = 0 && common.new.count = 0 then []
      else comparison.groupText look formats formats.common common) ++
      comparison.groupText look formats format ⟨hunk.old, hunk.new⟩ ++
      groupsFrom hunk.old.last hunk.new.last hunks

/-- Both texts laid over each other. -/
def laidOver : Bytes :=
  comparison.groupsFrom look formats 0 0 comparison.singles

end Comparison

end GoldenRun.Machine
