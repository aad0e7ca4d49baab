import GoldenRun.Machine.Numeral

/-!
# Escapes

A backslash and what follows it stand for something else. Which sequences there are, and what becomes of one
that there is not, is a matter of rules.

* `readEscape` reads the sequence behind a backslash.
* `unescape` reads all sequences of a text.
-/

namespace GoldenRun.Machine

/-- The character behind a backslash that stands for one byte. -/
def escaped? : Char → Option Char
  | 'a' => some '\x07'
  | 'b' => some '\x08'
  | 'e' => some '\x1b'
  | 'f' => some '\x0c'
  | 'n' => some '\n'
  | 'r' => some '\r'
  | 't' => some '\t'
  | 'v' => some '\x0b'
  | '\\' => some '\\'
  | _ => none

/-- What an escape sequence means. -/
inductive Escape where
  | text (cs : List Char)
  /-- Write nothing more. -/
  | stop
  /-- The sequence is at fault. -/
  | fault (message : String)
  deriving DecidableEq, Repr

/-- Which escape sequences there are besides the common ones. -/
structure EscapeRules where
  /-- A leading zero is not one of the three octal digits. -/
  zeroLed : Bool := false
  /-- `\x` and at most two hexadecimal digits. -/
  hexadecimal : Bool := false
  /-- `\c` ends all writing. -/
  stops : Bool := false
  /-- `\"`, and `\u` and `\U` with code points; `\x` without digits is at fault. -/
  full : Bool := false
  deriving DecidableEq, Repr

/-- A number in hexadecimal digits, with zeros in front up to a count. -/
def hexDigits (count n : Nat) : List Char :=
  let digits := Nat.toDigits 16 n
  List.replicate (count - digits.length) '0' ++ digits

/-- A code point behind `\u` or `\U` in four or eight digits. It stays a sequence unless it is of ASCII, and a
    surrogate is at fault. -/
def readCodePoint (letter : Char) (cs : List Char) : Escape × List Char :=
  let count := if letter = 'u' then 4 else 8
  let digits := (cs.take count).takeWhile fun c => (hex? c).isSome
  if digits.length < count then (.fault "missing hexadecimal number in escape", cs)
  else
    let n := (takeDigits hex? 16 count 0 digits).1
    if 0xD800 ≤ n && n ≤ 0xDFFF then
      (.fault ("invalid universal character name \\" ++ String.singleton letter ++
        String.ofList (hexDigits count n)), cs)
    else if n < 0x80 then (.text [Char.ofNat n], cs.drop count)
    else
      let shown := if n < 0x10000 then 'u' :: hexDigits 4 n else 'U' :: hexDigits 8 n
      (.text ('\\' :: shown.take 1 ++ (shown.drop 1).map Char.toUpper), cs.drop count)

/-- The escape sequence behind a backslash, and what follows it. A backslash that begins no sequence stands
    for itself; where the sequences are full, so does the character behind it. -/
def readEscape (rules : EscapeRules) : List Char → Escape × List Char
  | [] => (.text ['\\'], [])
  | c :: cs =>
    match escaped? c with
    | some e => (.text [e], cs)
    | none =>
      if c = 'c' && rules.stops then (.stop, cs)
      else if c = 'x' && rules.hexadecimal && (cs.head?.bind hex?).isSome then
        let (n, rest) := takeDigits hex? 16 2 0 cs
        (.text [Char.ofNat n], rest)
      else if c = 'x' && rules.full then (.fault "missing hexadecimal number in escape", cs)
      else if (octal? c).isSome then
        let digits := if c = '0' && rules.zeroLed then cs else c :: cs
        let (n, rest) := takeDigits octal? 8 3 0 digits
        (.text [Char.ofNat (n % 256)], rest)
      else if rules.full && c = '"' then (.text ['"'], cs)
      else if rules.full && (c = 'u' || c = 'U') then readCodePoint c cs
      else if rules.full then (.text ['\\', c], cs)
      else (.text ['\\'], c :: cs)

/-- A text with its escapes read, and what ended it early. `fuel` covers its length. -/
def unescape (rules : EscapeRules) : (fuel : Nat) → List Char → List Char × Option Escape
  | 0, _ => ([], none)
  | _ + 1, [] => ([], none)
  | fuel + 1, '\\' :: cs =>
    match readEscape rules cs with
    | (.text text, rest) =>
      let (out, ended) := unescape rules fuel rest
      (text ++ out, ended)
    | (ending, _) => ([], some ending)
  | fuel + 1, c :: cs =>
    let (out, ended) := unescape rules fuel cs
    (c :: out, ended)

end GoldenRun.Machine
