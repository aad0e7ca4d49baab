import GoldenRun.Machine.Utility.Content
import GoldenRun.Machine.Utility.Sorting

/-!
# Fields of lines

`cut` writes parts of lines, counted in bytes or in fields between delimiters, and `paste` puts lines side by
side.

* `FieldUnit.readStretches` reads a list of numbers and stretches of numbers, counted from one.
* A list is kept in order, and stretches that overlap are one.
-/

namespace GoldenRun.Machine

/-! ## 1. Lists of stretches -/

/-- Numbers from a first to a last one, or without end. -/
structure FieldRange where
  first : Nat
  last : Option Nat
  deriving DecidableEq, Repr

namespace FieldRange

/-- The number lies in the stretch. -/
def has (stretch : FieldRange) (n : Nat) : Bool :=
  stretch.first ≤ n && stretch.last.all (n ≤ ·)

/-- Stretches in order of their beginnings, with overlapping ones made one. -/
def merged : List FieldRange → List FieldRange
  | [] => []
  | a :: rest =>
    match merged rest with
    | [] => [a]
    | b :: others =>
      if a.last.all (b.first ≤ ·) then
        let last := match a.last, b.last with
          | some x, some y => some (max x y)
          | _, _ => none
        ⟨a.first, last⟩ :: others
      else a :: b :: others

/-- What lies between stretches that are in order, from a number on. -/
def between (start : Nat) : List FieldRange → List FieldRange
  | [] => [⟨start, none⟩]
  | s :: rest =>
    let gap : List FieldRange := if start < s.first then [⟨start, some (s.first - 1)⟩] else []
    match s.last with
    | none => gap
    | some last => gap ++ between (last + 1) rest

end FieldRange

/-- What is counted. -/
inductive FieldUnit where
  | bytes
  | fields
  deriving DecidableEq, Repr

namespace FieldUnit

/-- Numbers begin with one. -/
def zeroFault : FieldUnit → String
  | bytes => "byte/character positions are numbered from 1"
  | fields => "fields are numbered from 1"

/-- A stretch has too many ends. -/
def rangeFault : FieldUnit → String
  | bytes => "invalid byte or character range"
  | fields => "invalid field range"

/-- Something is no number. -/
def valueFault (text : List Char) : FieldUnit → String
  | bytes => "invalid byte/character position " ++ quotedWord (String.ofList text)
  | fields => "invalid field value " ++ quotedWord (String.ofList text)

/-- A number is too large. -/
def sizeFault (digits : List Char) : FieldUnit → String
  | bytes => "byte/character offset " ++ quotedWord (String.ofList digits) ++ " is too large"
  | fields => "field number " ++ quotedWord (String.ofList digits) ++ " is too large"

/-- A number at the beginning of a text, if there is one, and what follows it. -/
def readNumber (unit : FieldUnit) (cs : List Char) : Except Trouble (Option Nat × List Char) :=
  match leadingDigits cs with
  | (some n, rest) =>
    if n < UInt64.size - 1 then .ok (some n, rest)
    else Trouble.misuse (unit.sizeFault (cs.take (cs.length - rest.length)))
  | answer => .ok answer

/-- A stretch at the beginning of a text, and what follows it. -/
def readStretch (unit : FieldUnit) (cs : List Char) : Except Trouble (FieldRange × List Char) := do
  let isEnd (rest : List Char) : Bool := rest.head?.all fun c => c = ',' || c = ' ' || c = '\t'
  let (first, rest) ← unit.readNumber cs
  match rest with
  | '-' :: rest =>
    if first = some 0 then Trouble.misuse unit.zeroFault
    let (last, rest) ← unit.readNumber rest
    if rest.head? = some '-' then Trouble.misuse unit.rangeFault
    else if !isEnd rest then Trouble.misuse (unit.valueFault rest)
    else
      match first, last with
      | none, none => Trouble.misuse "invalid range with no endpoint: -"
      | first, none => return (⟨first.getD 1, none⟩, rest)
      | first, some last =>
        if last < first.getD 1 then Trouble.misuse "invalid decreasing range"
        else return (⟨first.getD 1, some last⟩, rest)
  | rest =>
    if !isEnd rest then Trouble.misuse (unit.valueFault rest)
    else
      match first with
      | none | some 0 => Trouble.misuse unit.zeroFault
      | some n => return (⟨n, some n⟩, rest)

/-- A list of stretches as it is written. `fuel` covers it. -/
def readStretches (unit : FieldUnit) : (fuel : Nat) → List Char → Except Trouble (List FieldRange)
  | 0, _ => .ok []
  | fuel + 1, cs => do
    let (stretch, rest) ← unit.readStretch cs
    match rest with
    | [] => return [stretch]
    | _ :: rest => return stretch :: (← unit.readStretches fuel rest)

end FieldUnit

/-! ## 2. Parts of lines -/

/-- How lines are cut. -/
structure CutPlan where
  unit : Option FieldUnit := none
  list : String := ""
  delimiter : Option UInt8 := none
  output : Option Bytes := none
  complement : Bool := false
  /-- Lines without a delimiter are left out. -/
  onlyDelimited : Bool := false
  zero : Bool := false
  deriving DecidableEq, Repr

/-- The options of `cut`. -/
def cutOptions : List OptionKind :=
  [valued 'b' ["bytes"], valued 'c' ["characters"], valued 'd' ["delimiter"], valued 'f' ["fields"],
    flag 'n' [], flag 's' ["only-delimited"], flag 'z' ["zero-terminated"], long "complement",
    long "output-delimiter" .always]

namespace CutPlan

/-- The plan with one more option. -/
def withOption (plan : CutPlan) : String × String → Except Trouble CutPlan
  | ("d", text) =>
    match text.toList with
    | [] => .ok { plan with delimiter := some 0 }
    | [c] => .ok { plan with delimiter := some (ByteText.byteOf c) }
    | _ => Trouble.misuse "the delimiter must be a single character"
  | ("s", _) => .ok { plan with onlyDelimited := true }
  | ("z", _) => .ok { plan with zero := true }
  | ("complement", _) => .ok { plan with complement := true }
  | ("output-delimiter", text) =>
    .ok { plan with output := some (if text.isEmpty then [0] else ByteText.toBytes text) }
  | ("n", _) => .ok plan
  | (key, list) =>
    if plan.unit.isSome then Trouble.misuse "only one list may be specified"
    else .ok { plan with unit := some (if key = "f" then .fields else .bytes), list }

/-- The stretches that are written. -/
def stretches (plan : CutPlan) : Except Trouble (FieldUnit × List FieldRange) :=
  match plan.unit with
  | none => Trouble.misuse "you must specify a list of bytes, characters, or fields"
  | some unit =>
    if unit = .bytes && plan.delimiter.isSome then
      Trouble.misuse "an input delimiter may be specified only when operating on fields"
    else if unit = .bytes && plan.onlyDelimited then
      Trouble.misuse
        "suppressing non-delimited lines makes sense\n\tonly when operating on fields"
    else do
      let list ← unit.readStretches (plan.list.length + 1) plan.list.toList
      let sorted := FieldRange.merged (list.mergeSort fun a b => a.first ≤ b.first)
      return (unit, if plan.complement then FieldRange.between 1 sorted else sorted)

/-- The bytes of a line that are written: those of each stretch, with what is put between stretches. -/
def bytesOf (plan : CutPlan) (stretches : List FieldRange) (line : Bytes) : Bytes :=
  let parts := stretches.filterMap fun s =>
    let part := (line.drop (s.first - 1)).take (s.last.elim line.length (· + 1 - s.first))
    if part.isEmpty then none else some part
  List.intercalate (plan.output.getD []) parts

/-- The fields of a line that are written, with delimiters between them; `none` for a line that is left
    out. A line without a delimiter is written whole. -/
def fieldsOf? (plan : CutPlan) (stretches : List FieldRange) (isDelimited : Bool) (line : Bytes) :
    Option Bytes :=
  let delimiter := plan.delimiter.getD 0x09
  if isDelimited then
    let chosen := (cut (· = delimiter) line).zipIdx.filter fun (_, i) => stretches.any (·.has (i + 1))
    some (List.intercalate (plan.output.getD [delimiter]) (chosen.map Prod.fst))
  else if plan.onlyDelimited then none
  else some line

/-- A content as it is written. -/
def apply (plan : CutPlan) (unit : FieldUnit) (stretches : List FieldRange) (content : Bytes) : Bytes :=
  let ending : UInt8 := if plan.zero then 0 else 0x0A
  match unit with
  | .bytes => (linesBy ending content).flatMap fun line => plan.bytesOf stretches line ++ [ending]
  | .fields =>
    let delimiter := plan.delimiter.getD 0x09
    let records : List (Bool × Bytes) :=
      if delimiter = ending then
        if content.isEmpty then []
        else
          [(content.contains ending,
            if content.getLast? = some ending then content.dropLast else content)]
      else (linesBy ending content).map fun line => (line.contains delimiter, line)
    records.flatMap fun (isDelimited, line) =>
      (plan.fieldsOf? stretches isDelimited line).elim [] (· ++ [ending])

end CutPlan

/-- Parts of the lines of all operands. -/
def cutUtility : Utility := fun errand =>
  let arguments := readOptions cutOptions true errand.args
  errand.foldOptions 1 arguments ({} : CutPlan) CutPlan.withOption fun plan =>
    match plan.stretches with
    | .error trouble => errand.giveUp 1 trouble
    | .ok (unit, stretches) =>
      let operands := orInput arguments.operands
      errand.afterReading operands
        (readEach errand.refusal errand (fun _ => plan.apply unit stretches) operands)

/-! ## 3. Lines side by side -/

/-- Delimiters as they are written, of which an empty one puts nothing; `none` for a list that ends within an
    escape. -/
def readDelimiters? : List Char → Option (List (Option UInt8))
  | [] => some []
  | ['\\'] => none
  | '\\' :: c :: cs =>
    let delimiter :=
      if c = '0' then none
      else some (ByteText.byteOf (if c = 'e' || c = 'a' then c else (escaped? c).getD c))
    (readDelimiters? cs).map (delimiter :: ·)
  | c :: cs => (readDelimiters? cs).map (some (ByteText.byteOf c) :: ·)

/-- Texts with delimiters between them, which start over when they are used up. -/
def joinedBy (delimiters : List (Option UInt8)) (texts : List Bytes) : Bytes :=
  let count := max 1 delimiters.length
  texts.zipIdx.flatMap fun (text, i) =>
    (if i = 0 then [] else ((delimiters[(i - 1) % count]?).bind id).toList) ++ text

/-- The next line of every column, and the columns without them. Columns that are the input take their lines
    from the same rest, which is the first part of the state. -/
def nextRow : List (Option (List Bytes)) → (input : List Bytes) →
    List (Option Bytes) × List (Option (List Bytes)) × List Bytes
  | [], input => ([], [], input)
  | none :: columns, input =>
    let (row, columns, rest) := nextRow columns (input.drop 1)
    (input.head? :: row, none :: columns, rest)
  | some lines :: columns, input =>
    let (row, columns, rest) := nextRow columns input
    (lines.head? :: row, some (lines.drop 1) :: columns, rest)

/-- Rows until every column has come to its end. `fuel` covers the lines. -/
def rowsOf (delimiters : List (Option UInt8)) (ending : UInt8) :
    (fuel : Nat) → List (Option (List Bytes)) → (input : List Bytes) → Bytes
  | 0, _, _ => []
  | fuel + 1, columns, input =>
    let (row, columns, input) := nextRow columns input
    if row.all Option.isNone then []
    else
      joinedBy delimiters (row.map (·.getD [])) ++ ending :: rowsOf delimiters ending fuel columns input

/-- Lines of all operands side by side, or the lines of each operand on one line. -/
def paste : Utility := fun errand =>
  errand.withOptions [valued 'd' ["delimiters"], flag 's' ["serial"], flag 'z' ["zero-terminated"]]
    fun arguments =>
      let written := (arguments.values "d").getLastD "\t"
      let written := if written.isEmpty then "\\0" else written
      let ending : UInt8 := if arguments.has "z" then 0 else 0x0A
      let operands := orInput arguments.operands
      match readDelimiters? written.toList with
      | none =>
        errand.complain 1 (errand.line
          ("delimiter list ends with an unescaped backslash: " ++ written))
      | some delimiters =>
        if arguments.has "s" then
          let row (content : Bytes) : Outlet × Bytes :=
            (.out, joinedBy delimiters (linesBy ending content) ++ [ending])
          let sources := errand.sources operands
          errand.afterReading operands
            { refused := sources.any fun (_, source) => source.toOption.isNone
              endless := sources.any fun (_, source) => source.toOption.any (·.all?.isNone)
              said := sources.flatMap fun (path, source) =>
                match source with
                | .error e =>
                  (.err, ByteText.toBytes (errand.refusal path e)) ::
                    if e = .isDirectory then [row []] else []
                | .ok source => [row (source.all?.getD [])] }
        else
          let unopened := operands.findSome? fun path =>
            match errand.read path with
            | .error e => if e = .isDirectory then none else some (errand.refusal path e)
            | .ok _ => none
          let sources := operands.map fun path => (path, errand.read path)
          let directories := sources.filterMap fun (path, source) =>
            match source with
            | .error e => some (Outlet.err, ByteText.toBytes (errand.refusal path e))
            | .ok _ => none
          let linesAt (source : Except Errno Source) : List Bytes :=
            linesBy ending ((source.toOption.bind Source.all?).getD [])
          let columns := sources.map fun (path, source) =>
            if Errand.isInput path then none else some (linesAt source)
          let input := linesAt (errand.read "-")
          let count := (columns.map fun column => (column.getD input).length).foldl (· + ·) 1
          match unopened with
          | some line => errand.complain 1 line
          | none =>
            { code := if directories.isEmpty then 0 else 1
              said := directories ++ [(.out, rowsOf delimiters ending count columns input)]
              files := errand.files
              unread := errand.unreadAfter operands
              endless := sources.any fun (_, source) =>
                (source.toOption.map fun s => s.all?.isNone).getD false }

end GoldenRun.Machine
