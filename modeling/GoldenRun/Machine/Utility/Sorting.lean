import GoldenRun.Machine.Utility.Collation
import GoldenRun.Machine.Utility.Content
import GoldenRun.Machine.Utility.Size

/-!
# Lines in order

`sort` puts lines in order. A *key* is a part of a line and a way to compare it; lines are compared by their
keys from the first to the last, and lines that are equal so byte by byte.

* A part of a line is counted in fields and characters. Without a separator, a field begins with the blanks
  in front of it.
* Ways to compare that are given for all keys hold for those that have none of their own.
-/

namespace GoldenRun.Machine

/-! ## 1. Keys -/

/-- How a key is compared. -/
structure KeyStyle where
  /-- Blanks at the beginning of the first and the last field are skipped. -/
  skipsStart : Bool := false
  skipsEnd : Bool := false
  /-- Only blanks, letters and digits count. -/
  dictionary : Bool := false
  /-- Only printed characters count. -/
  printed : Bool := false
  folds : Bool := false
  general : Bool := false
  human : Bool := false
  month : Bool := false
  numeric : Bool := false
  random : Bool := false
  reversed : Bool := false
  version : Bool := false
  deriving DecidableEq, Repr

namespace KeyStyle

/-- The style with one more letter, if it is one. `atStart` and `atEnd` say which ends blanks are skipped
    at. -/
def with? (atStart atEnd : Bool) (style : KeyStyle) : Char → Option KeyStyle
  | 'b' => some { style with
      skipsStart := style.skipsStart || atStart, skipsEnd := style.skipsEnd || atEnd }
  | 'd' => some { style with dictionary := true, printed := false }
  | 'f' => some { style with folds := true }
  | 'g' => some { style with general := true }
  | 'h' => some { style with human := true }
  | 'i' => some { style with printed := !style.dictionary }
  | 'M' => some { style with month := true }
  | 'n' => some { style with numeric := true }
  | 'R' => some { style with random := true }
  | 'r' => some { style with reversed := true }
  | 'V' => some { style with version := true }
  | _ => none

/-- The style with the letters that a text begins with, and what follows them. -/
def read (atStart atEnd : Bool) : (style : KeyStyle) → List Char → KeyStyle × List Char
  | style, [] => (style, [])
  | style, c :: cs =>
    match style.with? atStart atEnd c with
    | some style => read atStart atEnd style cs
    | none => (style, c :: cs)

/-- Keys are compared byte by byte, whichever way round. -/
def isPlain (style : KeyStyle) : Bool :=
  { style with reversed := false } == {}

/-- Letters of ways to compare that cannot go together, if they do not. -/
def conflict? (style : KeyStyle) : Option String :=
  let ways := [style.numeric, style.general, style.human, style.month,
    style.version || style.random || style.dictionary || style.printed]
  if ways.countP id < 2 then none
  else
    some <| String.ofList <| ([(style.dictionary, 'd'), (style.folds, 'f'), (style.general, 'g'),
      (style.human, 'h'), (style.printed, 'i'), (style.month, 'M'), (style.numeric, 'n'),
      (style.random, 'R'), (style.version, 'V')].filter Prod.fst).map Prod.snd

/-- The part of a text that counts. -/
def counted (style : KeyStyle) (text : Bytes) : Bytes :=
  let text :=
    if style.dictionary then
      text.filter fun b => Collation.isGap b || Collation.isLetter b || Collation.isDigit b
    else if style.printed then text.filter fun b => 0x20 ≤ b && b < 0x7F
    else text
  if style.folds then text.map Collation.raised else text

/-- Two texts in order. -/
def compare (style : KeyStyle) (a b : Bytes) : Ordering :=
  let a := style.counted a
  let b := style.counted b
  let order :=
    if style.numeric then Collation.numeric a b
    else if style.general then Collation.general a b
    else if style.human then Collation.sizes a b
    else if style.month then Collation.months a b
    else if style.version then Collation.versions a b
    else Collation.bytes a b
  if style.reversed then order.swap else order

end KeyStyle

/-- A place in a line: so many fields and then so many characters. -/
structure FieldPlace where
  fields : Nat := 0
  chars : Nat := 0
  deriving DecidableEq, Repr

/-- A part of a line and how it is compared. -/
structure SortKey where
  start : FieldPlace := {}
  /-- Without characters, the end of the field behind so many. -/
  stop : Option FieldPlace := none
  style : KeyStyle := {}
  deriving DecidableEq, Repr

namespace SortKey

/-- A line behind a field and the separator that ends it. -/
def afterField (separator : Option UInt8) (line : Bytes) : Bytes :=
  match separator with
  | some separator => (line.dropWhile (· != separator)).drop 1
  | none => (line.dropWhile Collation.isGap).dropWhile fun b => !Collation.isGap b

/-- A line behind so many fields. -/
def afterFields (separator : Option UInt8) : (count : Nat) → Bytes → Bytes
  | 0, line => line
  | _ + 1, [] => []
  | n + 1, line => afterFields separator n (afterField separator line)

/-- A line without the blanks at its beginning, if they are skipped. -/
def indented (skips : Bool) (line : Bytes) : Bytes :=
  if skips then line.dropWhile Collation.isGap else line

/-- The part of a line that the key is. -/
def part (key : SortKey) (separator : Option UInt8) (line : Bytes) : Bytes :=
  let atStart := (indented key.style.skipsStart (afterFields separator key.start.fields line)).drop
    key.start.chars
  match key.stop with
  | none => atStart
  | some ⟨fields, 0⟩ =>
    let behind := afterFields separator fields line
    let inField :=
      match separator with
      | some separator => behind.takeWhile (· != separator)
      | none => behind.take (behind.length - (afterField none behind).length)
    let stop := line.length - behind.length + inField.length
    atStart.take (stop - (line.length - atStart.length))
  | some ⟨fields, chars⟩ =>
    let behind := (indented key.style.skipsEnd (afterFields separator fields line)).drop chars
    atStart.take (line.length - behind.length - (line.length - atStart.length))

/-! ## 2. Reading keys -/

/-- A field that is not understood. -/
def invalid (fault text : String) : String :=
  fault ++ ": invalid field specification " ++ quotedWord text

/-- A count at the beginning of a text, and what follows it. -/
def readCount (fault : String) (cs : List Char) : Except String (Nat × List Char) :=
  match leadingDigits (let cs := cs.dropWhile fun c => c = ' ' || (9 ≤ c.toNat && c.toNat ≤ 13)
    if cs.head? = some '+' then cs.drop 1 else cs) with
  | (some n, rest) => .ok (n, rest)
  | (none, _) => .error (fault ++ ": invalid count at start of " ++ quotedWord (String.ofList cs))

/-- A count that is not zero, less one. -/
def readIndex (fault zero text : String) (cs : List Char) : Except String (Nat × List Char) := do
  match ← readCount fault cs with
  | (0, _) => .error (invalid zero text)
  | (n + 1, rest) => return (n, rest)

/-- A key as it is written. -/
def read (text : String) : Except String SortKey := do
  let (fields, rest) ← readIndex "invalid number at field start" "field number is zero" text text.toList
  let (chars, rest) ←
    match rest with
    | '.' :: rest => readIndex "invalid number after '.'" "character offset is zero" text rest
    | rest => pure (0, rest)
  let (style, rest) := KeyStyle.read true false {} rest
  let key : SortKey := { start := ⟨fields, chars⟩, style }
  match rest with
  | ',' :: rest =>
    let (fields, rest) ← readIndex "invalid number after ','" "field number is zero" text rest
    let (chars, rest) ←
      match rest with
      | '.' :: rest => readCount "invalid number after '.'" rest
      | rest => pure (0, rest)
    let (style, rest) := KeyStyle.read false true style rest
    if rest.isEmpty then return { key with stop := some ⟨fields, chars⟩, style }
    else .error (invalid "stray character in field spec" text)
  | [] => return key
  | _ => .error (invalid "stray character in field spec" text)

/-- A key whose places count from zero, as it is written otherwise: its start, and its end if there is one.
    `none` stands for texts that are no places. -/
def ofOld? (start : List Char) (stop : Option (List Char)) : Option String :=
  let place? (cs : List Char) : Option (Nat × Nat × String) :=
    match leadingDigits cs with
    | (some fields, '.' :: rest) =>
      match leadingDigits rest with
      | (some chars, rest) => some (fields, chars, String.ofList rest)
      | (none, _) => none
    | (some fields, rest) => some (fields, 0, String.ofList rest)
    | (none, _) => none
  match place? start, stop.map place? with
  | none, _ | _, some none => none
  | some (fields, chars, letters), stop =>
    let first := toString (fields + 1) ++ "." ++ toString (chars + 1) ++ letters
    match stop with
    | some (some (fields, 0, letters)) => some (first ++ "," ++ toString (max 1 fields) ++ letters)
    | some (some (fields, chars, letters)) =>
      some (first ++ "," ++ toString (fields + 1) ++ "." ++ toString chars ++ letters)
    | _ => if (KeyStyle.read true false {} letters.toList).2.isEmpty then some first else none

end SortKey

/-! ## 3. Plans -/

/-- How lines are put in order. -/
structure SortPlan where
  style : KeyStyle := {}
  keys : List SortKey := []
  separator : Option UInt8 := none
  output : Option String := none
  /-- The order is only checked; the letter says whether what is wrong is told. -/
  check : Option Char := none
  merges : Bool := false
  stable : Bool := false
  unique : Bool := false
  zero : Bool := false
  deriving DecidableEq, Repr

/-- The options of `sort`. -/
def sortOptions : List OptionKind :=
  [flag 'b' ["ignore-leading-blanks"], long "check" (.attached "diagnose-first"),
    flag 'c' [], flag 'C' [], flag 'd' ["dictionary-order"], flag 'f' ["ignore-case"],
    flag 'g' ["general-numeric-sort"], flag 'h' ["human-numeric-sort"], flag 'i' ["ignore-nonprinting"],
    valued 'k' ["key"], flag 'm' ["merge"], flag 'M' ["month-sort"], flag 'n' ["numeric-sort"],
    valued 'o' ["output"], flag 'r' ["reverse"], flag 'R' ["random-sort"], flag 's' ["stable"],
    valued 'S' ["buffer-size"], valued 't' ["field-separator"], valued 'T' ["temporary-directory"],
    flag 'u' ["unique"], flag 'V' ["version-sort"], valued 'y' [], flag 'z' ["zero-terminated"],
    long "sort" .always, long "batch-size" .always, long "parallel" .always,
    long "compress-program" .always, long "random-source" .always]

namespace SortPlan

/-- The plan with one more letter for all keys. -/
def withLetter (plan : SortPlan) (letter : Char) : SortPlan :=
  { plan with style := (plan.style.with? true true letter).getD plan.style }

/-- The plan that only checks. -/
def withCheck (plan : SortPlan) (letter : Char) : Except Trouble SortPlan :=
  if plan.check.any (· != letter) then Trouble.because "options '-cC' are incompatible"
  else .ok { plan with check := some letter }

/-- The plan with one more option. -/
def withOption (plan : SortPlan) : String × String → Except Trouble SortPlan
  | ("k", text) =>
    match SortKey.read text with
    | .ok key => .ok { plan with keys := plan.keys ++ [key] }
    | .error fault => Trouble.because fault
  | ("t", text) =>
    let separator? : Except Trouble UInt8 :=
      match text.toList with
      | [] => Trouble.because "empty tab"
      | [c] => .ok (ByteText.byteOf c)
      | ['\\', '0'] => .ok 0
      | _ => Trouble.because ("multi-character tab " ++ quotedWord text)
    separator?.bind fun separator =>
      if plan.separator.any (· != separator) then Trouble.because "incompatible tabs"
      else .ok { plan with separator := some separator }
  | ("o", path) =>
    if plan.output.any (· != path) then Trouble.because "multiple output files specified"
    else .ok { plan with output := some path }
  | ("c", _) => plan.withCheck 'c'
  | ("C", _) => plan.withCheck 'C'
  | ("check", word) => do
    let word ← oneOf "--check" [["quiet", "silent"], ["diagnose-first"]] word
    plan.withCheck (if word = "quiet" then 'C' else 'c')
  | ("m", _) => .ok { plan with merges := true }
  | ("s", _) => .ok { plan with stable := true }
  | ("u", _) => .ok { plan with unique := true }
  | ("z", _) => .ok { plan with zero := true }
  | ("S", text) =>
    match Size.read? false "EgGkKmMPQRtTYZ" text.toList with
    | none => Trouble.because ("invalid -S argument " ++ quotedWord text)
    | some (_, rest) =>
      if rest.isEmpty || rest = ['b'] || rest = ['%'] then .ok plan
      else Trouble.because ("invalid suffix in -S argument " ++ quotedWord text)
  | ("sort", word) => do
    let word ← oneOf "--sort"
      [["general-numeric"], ["human-numeric"], ["month"], ["numeric"], ["random"], ["version"]] word
    return plan.withLetter (if word = "month" then 'M'
      else if word = "random" then 'R'
      else if word = "version" then 'V'
      else word.toList.headD 'n')
  | (key, _) => .ok (if key.length = 1 then plan.withLetter (key.toList.headD ' ') else plan)

/-- The keys that lines are compared by, the style for all being that of those that have none. -/
def allKeys (plan : SortPlan) : List SortKey :=
  if plan.keys.isEmpty then if plan.style.isPlain then [] else [{ style := plan.style }]
  else plan.keys.map fun key => if key.style == {} then { key with style := plan.style } else key

/-- Two lines by their keys only. -/
def compareKeys (plan : SortPlan) (a b : Bytes) : Ordering :=
  plan.allKeys.foldl (fun order key =>
    order.then (key.style.compare (key.part plan.separator a) (key.part plan.separator b))) .eq

/-- Two lines in order. -/
def compare (plan : SortPlan) (a b : Bytes) : Ordering :=
  let bytes :=
    if plan.style.reversed then Collation.bytes b a else Collation.bytes a b
  if plan.allKeys.isEmpty then bytes
  else
    match plan.compareKeys a b with
    | .eq => if plan.unique || plan.stable then .eq else bytes
    | order => order

/-- Lines without those that are equal to the one in front of them. -/
def withoutEqual (plan : SortPlan) : List Bytes → List Bytes
  | a :: b :: rest =>
    if plan.compare a b = .eq then withoutEqual plan (a :: rest) else a :: withoutEqual plan (b :: rest)
  | lines => lines

/-- Rows of lines put together, the first line of them all first. `fuel` covers the lines. -/
def merge (plan : SortPlan) : (fuel : Nat) → List (List Bytes) → List Bytes
  | 0, _ => []
  | fuel + 1, rows =>
    let heads := rows.filterMap List.head?
    match heads with
    | [] => []
    | first :: others =>
      let least := others.foldl (fun least line => if plan.compare line least = .lt then line else least) first
      let (before, behind) := rows.span fun row => row.head? != some least
      least :: merge plan fuel
        (before ++ match behind with
          | row :: rest => row.drop 1 :: rest
          | [] => [])

/-- The first line that is out of order, and its number. -/
def disorder? (plan : SortPlan) : (number : Nat) → List Bytes → Option (Nat × Bytes)
  | number, a :: b :: rest =>
    let order := plan.compare a b
    if order = .gt || (plan.unique && order = .eq) then some (number + 1, b)
    else disorder? plan (number + 1) (b :: rest)
  | _, _ => none

end SortPlan

/-! ## 4. The utility -/

/-- Lines without what ends them. -/
def linesBy (ending : UInt8) (content : Bytes) : List Bytes :=
  match content.getLast? with
  | none => []
  | some last =>
    cut (· = ending) (if last = ending then content.dropLast else content)

/-- Arguments with keys of the old form written as options. -/
def withOldKeys : List String → List String
  | [] => []
  | [arg] =>
    match arg.toList with
    | '+' :: start => (SortKey.ofOld? start none).elim [arg] fun key => ["--key", key]
    | _ => [arg]
  | arg :: next :: rest =>
    match arg.toList with
    | ['-', '-'] => arg :: next :: rest
    | ['-', letter] =>
      if "koStT".toList.contains letter then arg :: next :: withOldKeys rest
      else arg :: withOldKeys (next :: rest)
    | '+' :: start =>
      let stop? :=
        match next.toList with
        | '-' :: stop => if stop.head?.any Char.isDigit then some stop else none
        | _ => none
      match stop?.bind fun stop => SortKey.ofOld? start (some stop), SortKey.ofOld? start none with
      | some key, _ => "--key" :: key :: withOldKeys rest
      | none, some key => "--key" :: key :: withOldKeys (next :: rest)
      | none, none => arg :: withOldKeys (next :: rest)
    | _ => arg :: withOldKeys (next :: rest)

/-- The lines of all operands in order, written to a file or as output. -/
def SortPlan.arrange (plan : SortPlan) (errand : Errand) (operands : List String)
    (contents : List Bytes) : Effort :=
  let ending : UInt8 := if plan.zero then 0 else 0x0A
  let rows := contents.map (linesBy ending)
  let lines := rows.flatten
  let sorted :=
    if plan.merges then plan.merge lines.length rows
    else lines.mergeSort fun a b => plan.compare a b != .gt
  let sorted := if plan.unique then plan.withoutEqual sorted else sorted
  let text := sorted.flatMap (· ++ [ending])
  let done := { errand.finish 0 with unread := errand.unreadAfter operands }
  match plan.output with
  | none => { done with said := [(.out, text)] }
  | some path =>
    match errand.files.write (ByteText.toBytes path) text with
    | .ok files => { done with files }
    | .error e =>
      errand.complain 2 (errand.line ("open failed: " ++ shownName path ++ ": " ++ e.message))

/-- Whether the lines of a file are in order. -/
def SortPlan.checkOrder (plan : SortPlan) (errand : Errand) (path : String) (content : Bytes) :
    Effort :=
  let done := { errand.finish 0 with unread := errand.unreadAfter [path] }
  match plan.disorder? 1 (linesBy (if plan.zero then 0 else 0x0A) content) with
  | none => done
  | some (number, line) =>
    let said :=
      if plan.check = some 'C' then []
      else
        [(Outlet.err, ByteText.toBytes (errand.name ++ ": " ++ path ++ ":" ++ toString number ++
          ": disorder: ") ++ line ++ [0x0A])]
    { done with code := 1, said }

/-- All lines in order. -/
def sort : Utility := fun errand =>
  let arguments := readOptions sortOptions true (withOldKeys errand.args)
  errand.foldOptions 2 arguments ({} : SortPlan) SortPlan.withOption fun plan =>
    let operands := orInput arguments.operands
    let refused (path : String) (e : Errno) : Effort :=
      errand.complain 2 (errand.line
        ((if e = .isDirectory then "read failed: " else "cannot read: ") ++ shownName path ++ ": " ++
          e.message))
    let unopened := operands.findSome? fun path =>
      match errand.read path with
      | .error e => if e = .isDirectory then none else some (refused path e)
      | .ok _ => none
    let unread := operands.findSome? fun path =>
      match errand.read path with
      | .error e => some (refused path e)
      | .ok _ => none
    let conflict := plan.allKeys.findSome? (·.style.conflict?)
    match conflict, plan.check, operands with
    | some letters, _, _ =>
      errand.complain 2 (errand.line ("options '-" ++ letters ++ "' are incompatible"))
    | none, some letter, _ :: extra :: _ =>
      errand.complain 2 (errand.line ("extra operand " ++ quotedName extra ++ " not allowed with -" ++
        String.singleton letter))
    | none, check, _ =>
      if check.isSome && plan.output.isSome then
        errand.complain 2 (errand.line
          ("options '-" ++ String.ofList (check.toList ++ ['o']) ++ "' are incompatible"))
      else
        match unopened <|> unread with
        | some effort => effort
        | none =>
          let contents := operands.map fun path => (errand.read path).toOption.bind Source.all?
          if contents.any Option.isNone then errand.hang
          else
            let contents := contents.filterMap id
            match check with
            | some _ => plan.checkOrder errand (operands.headD "-") (contents.headD [])
            | none => plan.arrange errand operands contents

end GoldenRun.Machine
