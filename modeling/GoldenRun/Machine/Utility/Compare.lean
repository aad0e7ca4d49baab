import GoldenRun.Machine.Utility.Deed
import GoldenRun.Machine.Utility.Size

/-!
# Comparing files byte by byte

`cmp` compares two files and tells where they differ first, or all places where they differ. It ends with
exit code 0 for equal files, 1 for different ones and 2 when something went wrong.
-/

namespace GoldenRun.Machine

/-- What is wrong with the number of operands of a comparison, if anything is. -/
def operandFault? (name : String) : List String → Option String
  | [] => some ("missing operand after '" ++ name ++ "'")
  | [a] => some ("missing operand after '" ++ a ++ "'")
  | [_, _] => none
  | _ :: _ :: c :: _ => some ("extra operand '" ++ c ++ "'")

/-- The end of a comparison with the wrong operands. -/
def Errand.uncompared (errand : Errand) (fault : String) : Effort :=
  errand.complain 2
    (errand.line fault ++ errand.line ("Try '" ++ errand.name ++ " --help' for more information."))

/-! ## 1. What is compared -/

/-- How two files are compared byte by byte. -/
structure ByteMode where
  /-- All differences are listed. -/
  lists : Bool := false
  /-- Only the exit code tells. -/
  silent : Bool := false
  /-- The bytes that differ are shown. -/
  shows : Bool := false
  /-- How many bytes at the beginning of each file do not count. -/
  skipped : Nat × Nat := (0, 0)
  /-- How many bytes count at most. -/
  limit : Option Nat := none
  deriving DecidableEq, Repr

/-- The options of `cmp`. -/
def byteOptions : List OptionKind :=
  [flag 'b' ["print-bytes"], flag 'c' ["print-chars"], valued 'i' ["ignore-initial"],
    flag 'l' ["verbose"], valued 'n' ["bytes"], flag 's' ["silent", "quiet"]]

/-- The units of numbers of bytes. -/
def sizeUnits : String := "kKMGTPEZY0"

/-- A number of bytes. -/
def readSize? (text : String) : Option Nat :=
  (Size.ofText? true sizeUnits text).filter (· ≤ Int64.maxValue.toInt.toNat)

namespace ByteMode

/-- The mode with more bytes skipped: a number for both files, or two with a colon between them. -/
def skip (mode : ByteMode) (value : String) : Except String ByteMode :=
  let invalid (part : String) : Except String ByteMode :=
    .error ("invalid --ignore-initial value '" ++ part ++ "'")
  match Size.read? true sizeUnits value.toList with
  | some (n, []) =>
    let n := max n mode.skipped.1
    .ok { mode with skipped := (n, max n mode.skipped.2) }
  | some (n, ':' :: second) =>
    match readSize? (String.ofList second) with
    | some m => .ok { mode with skipped := (max n mode.skipped.1, max m mode.skipped.2) }
    | none => invalid (String.ofList second)
  | _ => invalid value

/-- The mode with one more option. -/
def add (mode : ByteMode) (option : String × String) : Except String ByteMode :=
  match option with
  | ("l", _) =>
    if mode.silent then .error "options -l and -s are incompatible" else .ok { mode with lists := true }
  | ("s", _) =>
    if mode.lists then .error "options -l and -s are incompatible" else .ok { mode with silent := true }
  | ("n", value) =>
    match readSize? value with
    | some n => .ok { mode with limit := some (min n (mode.limit.getD n)) }
    | none => .error ("invalid --bytes value '" ++ value ++ "'")
  | ("i", value) => mode.skip value
  | _ => .ok { mode with shows := true }

/-- The mode with the first file's skipped bytes and the second's from operands behind the files. -/
def addSkips (mode : ByteMode) : List String → Except String ByteMode
  | [] => .ok mode
  | first :: rest =>
    match readSize? first, rest with
    | none, _ => .error ("invalid --ignore-initial value '" ++ first ++ "'")
    | some n, rest =>
      let mode := { mode with skipped := (max n mode.skipped.1, mode.skipped.2) }
      match rest with
      | [] => .ok mode
      | second :: rest =>
        match readSize? second, rest with
        | none, _ => .error ("invalid --ignore-initial value '" ++ second ++ "'")
        | some _, extra :: _ => .error ("extra operand '" ++ extra ++ "'")
        | some m, [] => .ok { mode with skipped := (mode.skipped.1, max m mode.skipped.2) }

/-- The bytes of a file that count. -/
def counted (mode : ByteMode) (skipped : Nat) (content : Bytes) : Bytes :=
  let rest := content.drop skipped
  match mode.limit with
  | some n => rest.take n
  | none => rest

end ByteMode

/-- How many line feeds there are. -/
def lineFeeds (bytes : Bytes) : Nat :=
  bytes.countP (· == 0x0A)

/-- Octal digits of a byte. -/
def octalByte (b : UInt8) : String :=
  let digits := String.ofList (Nat.toDigits 8 b.toNat)
  String.ofList (List.replicate (3 - digits.length) ' ') ++ digits

/-- A byte as it is shown. -/
def shownByte (b : UInt8) : String :=
  let n := b.toNat % 128
  let low :=
    if n < 32 then String.ofList ['^', Char.ofNat (n + 64)]
    else if n = 127 then "^?"
    else String.singleton (Char.ofNat n)
  if b.toNat < 128 then low else "M-" ++ low

/-- The places at which two byte strings differ, counted from 1 for the first byte. -/
def differingBytes (place : Nat) : Bytes → Bytes → List (Nat × UInt8 × UInt8)
  | a :: as, b :: bs =>
    let rest := differingBytes (place + 1) as bs
    if a = b then rest else (place, a, b) :: rest
  | _, _ => []

/-- The message about the first difference. -/
def differenceLine (mode : ByteMode) (names : String × String) (x : Bytes) (place : Nat)
    (a b : UInt8) : String :=
  names.1 ++ " " ++ names.2 ++ " differ: " ++ (if mode.shows then "byte " else "char ") ++
    toString place ++ ", line " ++ toString (lineFeeds (x.take (place - 1)) + 1) ++
    (if mode.shows then
      " is " ++ octalByte a ++ " " ++ shownByte a ++ " " ++ octalByte b ++ " " ++ shownByte b
    else "") ++ "\n"

/-- The row of a list of differences. -/
def differenceRow (mode : ByteMode) (width place : Nat) (a b : UInt8) : String :=
  let fill (text : String) (n : Nat) := String.ofList (List.replicate (n - text.length) ' ')
  let number := toString place
  fill number width ++ number ++ " " ++ octalByte a ++
    (if mode.shows then
      " " ++ shownByte a ++ fill (shownByte a) 4 ++ " " ++ octalByte b ++ " " ++ shownByte b
    else " " ++ octalByte b) ++ "\n"

/-- The message about a file that ends too early. -/
def earlyEnd (mode : ByteMode) (path : String) (content : Bytes) : String :=
  let closed := content.getLast? == some 0x0A
  "cmp: EOF on " ++ path ++
    (if content.isEmpty then " which is empty"
    else
      " after byte " ++ toString content.length ++
        if mode.lists then ""
        else if closed then ", line " ++ toString (lineFeeds content)
        else ", in line " ++ toString (lineFeeds content + 1)) ++ "\n"

/-- The comparison of the bytes of two files that count. `width` is that of a place in a list. -/
def compareBytes (errand : Errand) (mode : ByteMode) (names : String × String) (width : Nat)
    (x y : Bytes) : Effort :=
  let differing := differingBytes 1 x y
  let ending :=
    if x.length < y.length then [(Outlet.err, ByteText.toBytes (earlyEnd mode names.1 x))]
    else if y.length < x.length then [(.err, ByteText.toBytes (earlyEnd mode names.2 y))]
    else []
  let said :=
    match mode.silent, mode.lists, differing with
    | true, _, _ => []
    | _, false, (place, a, b) :: _ =>
      [(.out, ByteText.toBytes (differenceLine mode names x place a b))]
    | _, _, differing =>
      let rows := differing.map fun (place, a, b) => differenceRow mode width place a b
      (if rows.isEmpty then [] else [(.out, ByteText.toBytes (String.join rows))]) ++ ending
  errand.finish (if differing.isEmpty && ending.isEmpty then 0 else 1) said

/-- How wide the places in a list of differences are: as wide as the shorter file needs. -/
def placeWidth (mode : ByteMode) (lengths : List Nat) : Nat :=
  let most := lengths.foldl min (mode.limit.getD (Int64.maxValue.toInt.toNat))
  (toString most).length

/-- Two files byte by byte. -/
def compareFiles (errand : Errand) (mode : ByteMode) (a b : String) : Effort :=
  let fail (path : String) (e : Errno) :=
    errand.finish 2
      (if mode.silent && e != .isDirectory then []
      else [(.err, ByteText.toBytes (errand.line (path ++ ": " ++ e.message)))])
  let opened (path : String) : Except Errno (Option Source) :=
    match errand.read path with
    | .ok source => .ok (some source)
    | .error e => if e = .isDirectory then .ok none else .error e
  match opened a with
  | .error e => fail a e
  | .ok first =>
    if a = b && mode.skipped.1 = mode.skipped.2 then errand.finish 0
    else
      match first, opened b with
      | _, .error e => fail b e
      | none, _ => fail a .isDirectory
      | _, .ok none => fail b .isDirectory
      | some x, .ok (some y) =>
        let sizes := [x, y].filterMap fun s => s.all?.map List.length
        let enough := sizes.foldl max 0 + mode.skipped.1 + mode.skipped.2 + mode.limit.getD 0 + 1
        let size (path : String) (skipped : Nat) : Option Nat :=
          match errand.files.find true (ByteText.toBytes path) with
          | .ok (.file _ content) => if path = "-" then none else some (content.length - skipped)
          | _ => none
        let width := placeWidth mode
          ([size a mode.skipped.1, size b mode.skipped.2].filterMap id)
        match sizes.isEmpty && mode.limit.isNone, x.first? enough, y.first? enough with
        | false, some x, some y =>
          compareBytes errand mode (a, b) width (mode.counted mode.skipped.1 x)
            (mode.counted mode.skipped.2 y)
        | _, _, _ => errand.hang

/-- Two files byte by byte. A second file that is not named is the input. -/
def cmp : Utility := fun errand =>
  let arguments := readOptions byteOptions true errand.args
  match arguments.options.foldlM ByteMode.add {}, arguments.fault, arguments.operands with
  | .error fault, _, _ => errand.uncompared fault
  | .ok _, some fault, _ => errand.uncompared fault.message
  | .ok _, none, [] =>
    errand.uncompared ("missing operand after '" ++ errand.args.getLastD errand.name ++ "'")
  | .ok mode, none, [a] => compareFiles errand mode a "-"
  | .ok mode, none, a :: b :: rest =>
    match mode.addSkips rest with
    | .ok mode => compareFiles errand mode a b
    | .error fault => errand.uncompared fault

end GoldenRun.Machine
