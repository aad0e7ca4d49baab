import GoldenRun.Machine.Floating
import GoldenRun.Machine.Utility.Extent

/-!
# Bytes shown

`od` shows bytes in rows. A row has the place of its first byte, and a line for every *form* in which it is to be
shown: numbers of some size, characters, names of characters, or floating-point numbers. The lines of a row are
as wide as the widest, so that what belongs together stands in one column.

* A row that is like the one above it is left out, and a star is put in its place.
* The last row is filled with zero bytes up to the end of its last number.
-/

namespace GoldenRun.Machine

/-! ## 1. Forms -/

/-- How a group of bytes is shown. -/
inductive DumpForm where
  /-- The name of a character, its highest bit being left out. -/
  | named
  /-- A character, or its escape, or its number. -/
  | character
  | signed (size : Nat)
  /-- A number without a sign in base 8, 10 or 16. -/
  | unsigned (base size : Nat)
  | float (size : Nat)
  deriving DecidableEq, Repr

/-- A form and whether the characters stand behind its lines. -/
structure DumpColumn where
  form : DumpForm
  trailed : Bool := false
  deriving DecidableEq, Repr

namespace DumpForm

/-- How many bytes are shown together. -/
def size : DumpForm → Nat
  | named | character => 1
  | signed size | unsigned _ size | float size => size

/-- How wide what is shown can be. -/
def width : DumpForm → Nat
  | named | character => 3
  | signed size => (Nat.toDigits 10 (Nat.pow 2 (8 * size - 1))).length + 1
  | unsigned base size => (Nat.toDigits base (Nat.pow 2 (8 * size) - 1)).length
  | float 4 => 15
  | float 8 => 24
  | float _ => 29

/-- The number that bytes are, the lowest first. -/
def valueOf (bytes : Bytes) : Nat :=
  bytes.foldr (fun b n => n * 256 + b.toNat) 0

/-- The names of the characters that are not printed. -/
def controlNames : List String :=
  ["nul", "soh", "stx", "etx", "eot", "enq", "ack", "bel", "bs", "ht", "nl", "vt", "ff", "cr", "so", "si",
    "dle", "dc1", "dc2", "dc3", "dc4", "nak", "syn", "etb", "can", "em", "sub", "esc", "fs", "gs", "rs", "us",
    "sp"]

/-- A byte is printed as it is. -/
def isShown (n : Nat) : Bool := 32 ≤ n && n < 127

/-- A number of a base in so many digits. -/
def digitsOf (base count n : Nat) : List Char :=
  let digits := Nat.toDigits base n
  List.replicate (count - digits.length) '0' ++ digits

/-- The floating-point number that bits are, with so many bits for its exponent and for its fraction. The bit in
    front of the fraction is not among them, unless `isWhole`. -/
def floatOf (exponentBits fractionBits : Nat) (isWhole : Bool) (n : Nat) : Floating :=
  let stored := if isWhole then fractionBits + 1 else fractionBits
  let significand := n % Nat.pow 2 stored
  let fraction := n % Nat.pow 2 fractionBits
  let exponent := n / Nat.pow 2 stored % Nat.pow 2 exponentBits
  let negative := n / Nat.pow 2 (stored + exponentBits) % 2 = 1
  let most := Nat.pow 2 exponentBits - 1
  let leading := Nat.pow 2 fractionBits
  let bias : Int := Int.ofNat (Nat.pow 2 (exponentBits - 1) - 1) + fractionBits
  if exponent = most then if fraction = 0 then .infinite negative else .undefined negative
  else if exponent = 0 then .finite negative significand (1 - bias)
  else if isWhole && significand < leading then .undefined negative
  else .finite negative (fraction + leading) (exponent - bias)

/-- The shortest text with at least so many digits that is read as the number. `fuel` bounds how many are
    added. -/
def shortestFrom (precision : Precision) (number : Floating) : (fuel : Nat) → (digits : Nat) → List Char
  | 0, digits => Shape.general { precision := some digits } false number
  | fuel + 1, digits =>
    let text := Shape.general { precision := some digits } false number
    let isRead := (Floating.read? precision text).any fun (back, _, rest) =>
      rest.isEmpty && Floating.compare back number = .eq
    if isRead then text else shortestFrom precision number fuel (digits + 1)

/-- A floating-point number as it is shown: tiny ones may have fewer digits than others. -/
def floatText (precision : Precision) (digits : Nat) (number : Floating) : List Char :=
  let isTiny : Bool :=
    match number with
    | .finite _ significand exponent =>
      let (num, den) := scaleRatio 2 exponent significand 1
      let (least, unit) := scaleRatio 2 (precision.finest + precision.bits - 1) 1 1
      num * unit < least * den
    | _ => false
  shortestFrom precision number 24 (if isTiny then 1 else digits)

/-- A group of bytes as it is shown. -/
def text (form : DumpForm) (bytes : Bytes) : List Char :=
  let n := valueOf bytes
  match form with
  | named =>
    let n := n % 128
    if n = 127 then ['d', 'e', 'l']
    else if n ≤ 32 then (controlNames.getD n "").toList
    else [Char.ofNat n]
  | character =>
    match n with
    | 0 => ['\\', '0']
    | 7 => ['\\', 'a']
    | 8 => ['\\', 'b']
    | 9 => ['\\', 't']
    | 10 => ['\\', 'n']
    | 11 => ['\\', 'v']
    | 12 => ['\\', 'f']
    | 13 => ['\\', 'r']
    | n => if isShown n then [Char.ofNat n] else digitsOf 8 3 n
  | signed size =>
    let half := Nat.pow 2 (8 * size - 1)
    if n < half then Nat.toDigits 10 n else '-' :: Nat.toDigits 10 (2 * half - n)
  | unsigned 10 _ => Nat.toDigits 10 n
  | unsigned base _ => digitsOf base form.width n
  | float 4 => floatText .single 6 (floatOf 8 23 false n)
  | float 8 => floatText .double 15 (floatOf 11 52 false n)
  | float _ => floatText .extended 18 (floatOf 15 63 true n)

/-! ### Reading -/

/-- The sizes that letters stand for. -/
def sizeLetter? : Char → Option Nat
  | 'C' => some 1
  | 'S' => some 2
  | 'I' => some 4
  | 'L' => some 8
  | _ => none

/-- The sizes of floating-point numbers that letters stand for. -/
def floatLetter? : Char → Option Nat
  | 'F' => some 4
  | 'D' => some 8
  | 'L' => some 16
  | _ => none

/-- A size at the beginning of a text, and what follows it. -/
def readSize (whole : String) (isFloat : Bool) (cs : List Char) : Except Trouble (Nat × List Char) :=
  let letter? := if isFloat then floatLetter? else sizeLetter?
  let sizes := if isFloat then [4, 8, 16] else [1, 2, 4, 8]
  match cs.head?.bind letter? with
  | some size => .ok (size, cs.drop 1)
  | none =>
    let digits := cs.takeWhile Char.isDigit
    match decimal? (String.ofList digits) with
    | none => .ok (if isFloat then 8 else 4, cs)
    | some n =>
      if Nat.pow 2 31 ≤ n then Trouble.because ("invalid type string " ++ quotedWord whole)
      else if sizes.contains n then .ok (n, cs.drop digits.length)
      else
        Trouble.because ("invalid type string " ++ quotedWord whole ++ ";\nthis system doesn't provide a " ++
          toString n ++ "-byte " ++ (if isFloat then "floating point" else "integral") ++ " type")

/-- The forms that a text asks for. `fuel` covers the text. -/
def readColumns (whole : String) : (fuel : Nat) → List Char → Except Trouble (List DumpColumn)
  | 0, _ | _, [] => .ok []
  | fuel + 1, c :: cs => do
    let (form, rest) ← (match c with
      | 'a' => .ok (named, cs)
      | 'c' => .ok (character, cs)
      | 'd' => (readSize whole false cs).map fun (size, rest) => (signed size, rest)
      | 'o' => (readSize whole false cs).map fun (size, rest) => (unsigned 8 size, rest)
      | 'u' => (readSize whole false cs).map fun (size, rest) => (unsigned 10 size, rest)
      | 'x' => (readSize whole false cs).map fun (size, rest) => (unsigned 16 size, rest)
      | 'f' => (readSize whole true cs).map fun (size, rest) => (float size, rest)
      | _ =>
        Trouble.because
          ("invalid character '" ++ String.singleton c ++ "' in type string " ++ quotedWord whole)
      : Except Trouble (DumpForm × List Char))
    let trailed := rest.head? = some 'z'
    let columns ← readColumns whole fuel (if trailed then rest.drop 1 else rest)
    return { form, trailed } :: columns

end DumpForm

/-! ## 2. Plans -/

/-- How places are written. -/
inductive DumpRadix where
  | octal
  | decimal
  | hexadecimal
  | hidden
  deriving DecidableEq, Repr

/-- The place of a byte. -/
def DumpRadix.text : DumpRadix → Nat → List Char
  | octal, place => DumpForm.digitsOf 8 7 place
  | decimal, place => DumpForm.digitsOf 10 7 place
  | hexadecimal, place => DumpForm.digitsOf 16 6 place
  | hidden, _ => []

/-- How bytes are to be shown. -/
structure DumpPlan where
  radix : DumpRadix := .octal
  columns : List DumpColumn := []
  skipped : Nat := 0
  most : Option Nat := none
  /-- How many bytes a row is asked to have. -/
  width : Option Nat := none
  /-- Rows that are alike are all shown. -/
  showsAll : Bool := false
  /-- The highest byte of a number comes first. -/
  isBigFirst : Bool := false
  /-- An option of the newer kind was given, so that no operand is a place. -/
  isModern : Bool := false
  deriving DecidableEq, Repr

/-- The letters that stand for forms by themselves. -/
def dumpShorthands : List (Char × String) :=
  [('a', "a"), ('b', "o1"), ('c', "c"), ('D', "u4"), ('d', "u2"), ('F', "fD"), ('e', "fD"), ('f', "fF"),
    ('X', "x4"), ('H', "x4"), ('i', "dI"), ('I', "dL"), ('L', "dL"), ('l', "dL"), ('O', "o4"), ('B', "o2"),
    ('o', "o2"), ('s', "d2"), ('h', "x2"), ('x', "x2")]

/-- The options of `od`. -/
def dumpOptions : List OptionKind :=
  [valued 'A' ["address-radix"], valued 'j' ["skip-bytes"], valued 'N' ["read-bytes"], valued 't' ["format"],
    flag 'v' ["output-duplicates"], { valued 'w' ["width"] with takes := .attached "32" },
    long "endian" .always, long "traditional"] ++ dumpShorthands.map fun (letter, _) => flag letter []

/-- A number of bytes that an option gives. -/
def bytesOption (option text : String) : Except Trouble Nat :=
  let told := option ++ " argument " ++ quotedWord text
  match Size.read? true "bEGKkMmPQRTYZ0" text.toList with
  | none => Trouble.because ("invalid " ++ told)
  | some (n, []) => if n < tooLarge then .ok n else Trouble.because (told ++ " too large")
  | some _ => Trouble.because ("invalid suffix in " ++ told)

/-- The plan with one more option. -/
def DumpPlan.withOption (plan : DumpPlan) (option : String × String) : Except Trouble DumpPlan :=
  let (key, text) := option
  let modern := { plan with isModern := true }
  let columns (text : String) : Except Trouble (List DumpColumn) :=
    DumpForm.readColumns text (text.length + 1) text.toList
  match key with
  | "A" =>
    match text.toList with
    | 'd' :: _ => .ok { modern with radix := .decimal }
    | 'o' :: _ => .ok { modern with radix := .octal }
    | 'x' :: _ => .ok { modern with radix := .hexadecimal }
    | 'n' :: _ => .ok { modern with radix := .hidden }
    | cs =>
      Trouble.because ("invalid output address radix '" ++ String.ofList (cs.take 1) ++
        "'; it must be one character from [doxn]")
  | "j" => do return { modern with skipped := ← bytesOption "-j" text }
  | "N" => do return { modern with most := some (← bytesOption "-N" text) }
  | "t" => do return { modern with columns := plan.columns ++ (← columns text) }
  | "v" => .ok { modern with showsAll := true }
  | "w" => do return { modern with width := some (← bytesOption "-w" text) }
  | "endian" => do return { plan with isBigFirst := (← oneOf "--endian" [["little"], ["big"]] text) = "big" }
  | _ =>
    match key.toList.head?.bind fun letter => dumpShorthands.lookup letter with
    | some text => do return { plan with columns := plan.columns ++ (← columns text) }
    | none => .ok plan

/-- A place that an operand of the older kind is: octal, or decimal with a point behind it, or hexadecimal. -/
def placeOperand? (text : String) : Option Nat :=
  let cs := if text.toList.head? = some '+' then text.toList.drop 1 else text.toList
  let (cs, factor) := if cs.getLast? = some 'b' then (cs.dropLast, 512) else (cs, 1)
  let value (digit? : Char → Option Nat) (base : Nat) (cs : List Char) : Option Nat :=
    if cs.isEmpty then none
    else (cs.mapM digit?).map fun digits => factor * digits.foldl (fun n d => n * base + d) 0
  if cs.contains '.' then value digit? 10 (cs.filter (· != '.'))
  else
    match cs with
    | '0' :: 'x' :: rest | 'x' :: rest | '0' :: 'X' :: rest => value hex? 16 rest
    | cs => value octal? 8 cs

/-- The plan with a place that an operand gives, and the other operands. -/
def DumpPlan.withPlace (plan : DumpPlan) (operands : List String) : DumpPlan × List String :=
  let isPlace (text : String) (digitsCount : Bool) : Bool :=
    text.toList.head? = some '+' || (digitsCount && text.toList.head?.any Char.isDigit)
  if plan.isModern then (plan, operands)
  else
    match operands with
    | [text] =>
      match isPlace text false, placeOperand? text with
      | true, some place => ({ plan with skipped := place }, [])
      | _, _ => (plan, operands)
    | [path, text] =>
      match isPlace text true, placeOperand? text with
      | true, some place => ({ plan with skipped := place }, [path])
      | _, _ => (plan, operands)
    | _ => (plan, operands)

/-! ## 3. Rows -/

namespace DumpPlan

variable (plan : DumpPlan)

/-- How many bytes make a whole number of groups of every form. -/
def unit : Nat :=
  plan.columns.foldl (fun n column => Nat.lcm n column.form.size) 1

/-- How many bytes a row has. -/
def rowSize : Nat :=
  match plan.width with
  | some width => if 0 < width && width % plan.unit = 0 then width else plan.unit
  | none => if plan.unit < 16 then plan.unit * (16 / plan.unit) else plan.unit

/-- How wide the lines of a row are, without the place. -/
def lineWidth : Nat :=
  (plan.columns.map fun column => (column.form.width + 1) * (plan.rowSize / column.form.size)).foldl max 0

/-- The bytes cut into groups. `fuel` covers the bytes. -/
def groups (size : Nat) : (fuel : Nat) → Bytes → List Bytes
  | 0, _ | _, [] => []
  | fuel + 1, bytes => bytes.take size :: groups size fuel (bytes.drop size)

/-- One line of a row, behind its place. The blanks between the fields are spread so that the line gets the width
    of all lines. -/
def line (column : DumpColumn) (row : Bytes) : List Char :=
  let size := column.form.size
  let fields := plan.rowSize / size
  let blank := (plan.rowSize - row.length) / size
  let spare := plan.lineWidth - column.form.width * fields
  let filled := row ++ List.replicate ((size - row.length % size) % size) 0
  let shown := (groups size filled.length filled).zipIdx.flatMap fun (group, i) =>
    let left := fields - i
    let gap := spare * left / fields - spare * (left - 1) / fields
    let group := if plan.isBigFirst then group.reverse else group
    let text := column.form.text group
    List.replicate (gap + column.form.width - text.length) ' ' ++ text
  let trailer :=
    if column.trailed then
      List.replicate (blank * column.form.width + spare * blank / fields) ' ' ++ [' ', ' ', '>'] ++
        row.map (fun b => if DumpForm.isShown b.toNat then ByteText.charOf b else '.') ++ ['<']
    else []
  shown ++ trailer ++ ['\n']

/-- A row that begins at a place. -/
def row (place : Nat) (row : Bytes) : List Char :=
  let address := plan.radix.text place
  let margin := List.replicate
    (match plan.radix with
      | .hidden => 0
      | .hexadecimal => 6
      | _ => 7) ' '
  plan.columns.zipIdx.flatMap fun (column, i) =>
    (if i = 0 then address else margin) ++ plan.line column row

/-- Rows from a place on, below a row and whether the last one was left out. -/
def rowsFrom (above : Option Bytes) (isOmitting : Bool) (place : Nat) : List Bytes → List Char
  | [] => []
  | row :: rest =>
    if !plan.showsAll && row.length = plan.rowSize && above = some row then
      (if isOmitting then [] else ['*', '\n']) ++
        rowsFrom above true (place + row.length) rest
    else plan.row place row ++ rowsFrom (some row) false (place + row.length) rest

/-- All rows, and the place behind them. -/
def rows (content : Bytes) : List Char :=
  let last := plan.radix.text (plan.skipped + content.length)
  plan.rowsFrom none false plan.skipped (groups plan.rowSize content.length content) ++
    if plan.radix = .hidden then [] else last ++ ['\n']

end DumpPlan

/-! ## 4. The utility -/

/-- What is read of sources one behind the other: at most so many bytes, or all. The answer says whether there
    was no end. -/
def takeSources (limit : Option Nat) : List Source → Bytes × Bool
  | [] => ([], false)
  | source :: rest =>
    match source.all?, limit with
    | some content, limit =>
      let (more, isEndless) := takeSources (limit.map (· - content.length)) rest
      (content ++ more, isEndless)
    | none, some n => (((source.first? n).getD []), (source.first? n).isNone)
    | none, none => ([], true)

/-- Bytes shown in rows. -/
def od : Utility := fun errand =>
  let arguments := readOptions dumpOptions true errand.args
  errand.foldOptions 1 arguments ({} : DumpPlan) DumpPlan.withOption fun plan =>
    let (plan, operands) := plan.withPlace arguments.operands
    let plan := if plan.columns.isEmpty then { plan with columns := [⟨.unsigned 8 2, false⟩] } else plan
    let sources := errand.sources (orInput operands)
    let faults (ofDirectories : Bool) : List (Outlet × Bytes) := sources.filterMap fun (path, source) =>
      match source with
      | .error cause =>
        if (cause = .isDirectory) = ofDirectories then
          some (.err, ByteText.toBytes (errand.refusal path cause))
        else none
      | .ok _ => none
    let isReadable := sources.any fun (_, source) =>
      match source with
      | .ok _ => true
      | .error cause => cause = .isDirectory
    let limit := plan.most.map (· + plan.skipped)
    let (all, isEndless) := takeSources limit (sources.filterMap fun (_, source) => source.toOption)
    let content := all.drop plan.skipped
    let content := match plan.most with
      | some most => content.take most
      | none => content
    let said (code : Nat) (said : List (Outlet × Bytes)) : Effort :=
      { code := if (sources.filterMap fun (_, source) => source.toOption).length = sources.length then code else 1
        said := faults false ++ said
        files := errand.files
        unread :=
          match errand.input, limit with
          | .bytes input, some limit =>
            if (orInput operands) = ["-"] then .bytes (input.drop limit)
            else errand.unreadAfter (orInput operands)
          | _, _ => errand.unreadAfter (orInput operands)
        endless := isEndless }
    if !isReadable then said 1 []
    else if all.length < plan.skipped && !isEndless then
      said 1 [(.err, ByteText.toBytes (errand.line "cannot skip past end of combined input"))]
    else
      let warning :=
        match plan.width with
        | some width =>
          if width = plan.rowSize then []
          else
            [(Outlet.err, ByteText.toBytes (errand.line ("warning: invalid width " ++ toString width ++
              "; using " ++ toString plan.rowSize ++ " instead")))]
        | none => []
      said 0 (warning ++ faults true ++ [(.out, ByteText.toBytes (String.ofList (plan.rows content)))])

end GoldenRun.Machine
