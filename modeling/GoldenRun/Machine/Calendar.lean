import GoldenRun.Machine.Shape

/-!
# Dates

A moment is a number of nanoseconds since the beginning of 1970. All dates are those of one time zone,
without leap seconds.

* `Calendar.dateOfDay` and `Calendar.dayOfDate` turn days into dates and back.
* `Calendar.read?` reads a date and a time of day, and `Calendar.format` writes a moment by a format.
-/

namespace GoldenRun.Machine

/-- A date: year, month and day of the month, counted from 1. -/
structure Date where
  year : Int
  month : Nat
  day : Nat
  deriving DecidableEq, Repr

namespace Calendar

/-- The nanoseconds of a second. -/
def second : Int := 1000000000

/-- The moment at which the machine starts: the beginning of 2026. -/
def start : Int := 1767225600 * second

/-! ## 1. Days -/

/-- The day of a date, counted from the beginning of 1970. Years are counted from March on, so that a leap
    day is the last one of its year. -/
def dayOfDate (date : Date) : Int :=
  let year := if date.month ≤ 2 then date.year - 1 else date.year
  let era := year.fdiv 400
  let yearOfEra := year - era * 400
  let month : Int := (date.month + 9) % 12
  let dayOfYear := (153 * month + 2) / 5 + (date.day : Int) - 1
  era * 146097 + yearOfEra * 365 + yearOfEra / 4 - yearOfEra / 100 + dayOfYear - 719468

/-- The date of a day. -/
def dateOfDay (day : Int) : Date :=
  let day := day + 719468
  let era := day.fdiv 146097
  let dayOfEra := day - era * 146097
  let yearOfEra := (dayOfEra - dayOfEra / 1460 + dayOfEra / 36524 - dayOfEra / 146096) / 365
  let dayOfYear := dayOfEra - (365 * yearOfEra + yearOfEra / 4 - yearOfEra / 100)
  let month := (5 * dayOfYear + 2) / 153
  let year := yearOfEra + era * 400
  { year := if month < 10 then year else year + 1
    month := (if month < 10 then month + 3 else month - 9).toNat
    day := (dayOfYear - (153 * month + 2) / 5 + 1).toNat }

/-- How many days a month has. -/
def daysOfMonth (year : Int) (month : Nat) : Nat :=
  let next : Date := if month = 12 then ⟨year + 1, 1, 1⟩ else ⟨year, month + 1, 1⟩
  (dayOfDate next - dayOfDate ⟨year, month, 1⟩).toNat

/-- The names of the days of a week, from Sunday on. -/
def dayNames : List String :=
  ["Sunday", "Monday", "Tuesday", "Wednesday", "Thursday", "Friday", "Saturday"]

/-- The names of the months. -/
def monthNames : List String :=
  ["January", "February", "March", "April", "May", "June", "July", "August", "September", "October",
    "November", "December"]

/-! ## 2. Writing -/

/-- A number with zeros or blanks in front. -/
def filled (fill : Char) (width : Nat) (n : Int) : List Char :=
  let digits := Nat.toDigits 10 n.natAbs
  (if n < 0 then ['-'] else []) ++ List.replicate (width - digits.length) fill ++ digits

/-- What a letter of a format stands for at a moment; `none` for other letters. Letters that stand for
    several others are not among these. -/
def field? (moment : Int) (letter : Char) : Option (List Char) :=
  let seconds := moment.fdiv second
  let day := seconds.fdiv 86400
  let inDay := (seconds - day * 86400).toNat
  let date := dateOfDay day
  let weekday := ((day + 4) % 7).toNat
  let hour := inDay / 3600
  let shortHour := if hour % 12 = 0 then 12 else hour % 12
  let dayOfYear := (day - dayOfDate ⟨date.year, 1, 1⟩).toNat
  let number (fill : Char) (width : Nat) (n : Int) : Option (List Char) := some (filled fill width n)
  let name (names : List String) (i : Nat) : List Char := (names.getD i "").toList
  match letter with
  | 'Y' => number '0' 0 date.year
  | 'C' => number '0' 2 (date.year.fdiv 100)
  | 'y' => number '0' 2 (date.year % 100)
  | 'm' => number '0' 2 date.month
  | 'd' => number '0' 2 date.day
  | 'e' => number ' ' 2 date.day
  | 'H' => number '0' 2 hour
  | 'k' => number ' ' 2 hour
  | 'I' => number '0' 2 shortHour
  | 'l' => number ' ' 2 shortHour
  | 'M' => number '0' 2 (inDay / 60 % 60)
  | 'S' => number '0' 2 (inDay % 60)
  | 'N' => number '0' 9 (moment - seconds * second)
  | 's' => number '0' 0 seconds
  | 'j' => number '0' 3 (dayOfYear + 1)
  | 'u' => number '0' 0 (if weekday = 0 then 7 else weekday)
  | 'w' => number '0' 0 weekday
  | 'U' => number '0' 2 ((dayOfYear + 7 - weekday) / 7)
  | 'W' => number '0' 2 ((dayOfYear + 7 - (weekday + 6) % 7) / 7)
  | 'a' => some ((name dayNames weekday).take 3)
  | 'A' => some (name dayNames weekday)
  | 'b' | 'h' => some ((name monthNames (date.month - 1)).take 3)
  | 'B' => some (name monthNames (date.month - 1))
  | 'p' => some (if hour < 12 then ['A', 'M'] else ['P', 'M'])
  | 'P' => some (if hour < 12 then ['a', 'm'] else ['p', 'm'])
  | 'z' => some ['+', '0', '0', '0', '0']
  | 'Z' => some ['U', 'T', 'C']
  | 'n' => some ['\n']
  | 't' => some ['\t']
  | '%' => some ['%']
  | _ => none

/-- Letters of a format that stand for several others. -/
def compounds : List (Char × String) :=
  [('F', "%Y-%m-%d"), ('T', "%H:%M:%S"), ('R', "%H:%M"), ('D', "%m/%d/%y"), ('x', "%m/%d/%y"),
    ('X', "%H:%M:%S"), ('r', "%I:%M:%S %p"), ('c', "%a %b %e %H:%M:%S %Y")]

/-- A moment by a format in which all letters stand for themselves only. -/
def formatSimple (moment : Int) : List Char → List Char
  | '%' :: letter :: rest =>
    ((field? moment letter).getD ['%', letter]) ++ formatSimple moment rest
  | c :: rest => c :: formatSimple moment rest
  | [] => []

/-- A moment by a format. -/
def formatChars (moment : Int) : List Char → List Char
  | '%' :: letter :: rest =>
    (match compounds.lookup letter with
      | some format => formatSimple moment format.toList
      | none => (field? moment letter).getD ['%', letter]) ++ formatChars moment rest
  | c :: rest => c :: formatChars moment rest
  | [] => []

/-- A moment by a format. -/
def format (moment : Int) (format : String) : String :=
  String.ofList (formatChars moment format.toList)

/-! ## 3. Reading -/

/-- The moment of a date and a time of day, if there are such. -/
def moment? (date : Date) (hour minute sec : Nat) (nanos : Nat := 0) : Option Int :=
  if date.month < 1 || 12 < date.month || date.day < 1 || daysOfMonth date.year date.month < date.day ||
      23 < hour || 59 < minute || 60 < sec then none
  else
    some ((dayOfDate date * 86400 + hour * 3600 + minute * 60 + sec) * second + nanos)

/-- The parts of a decimal fraction of a second, in nanoseconds. -/
def nanosOf (digits : List Char) : Nat :=
  (digits.take 9 ++ List.replicate (9 - digits.length) '0').foldl
    (fun n c => n * 10 + (c.toNat - 48)) 0

/-- A time of day: hours and minutes, seconds behind them or not, and a fraction of these or not; in
    nanoseconds. -/
def readTime? (cs : List Char) : Option (Nat × Nat × Nat × Nat × List Char) :=
  match leadingDigits cs with
  | (some hour, ':' :: rest) =>
    match leadingDigits rest with
    | (some minute, ':' :: rest) =>
      match leadingDigits rest with
      | (some sec, '.' :: rest) | (some sec, ',' :: rest) =>
        let digits := rest.takeWhile Char.isDigit
        some (hour, minute, sec, nanosOf digits, rest.drop digits.length)
      | (some sec, rest) => some (hour, minute, sec, 0, rest)
      | _ => none
    | (some minute, rest) => some (hour, minute, 0, 0, rest)
    | _ => none
  | _ => none

/-- The moment that a text spells: a number of seconds behind `@`, or a date with a time of day or
    without. -/
def read? (text : String) : Option Int :=
  let isBlank (c : Char) := c = ' ' || c = '\t' || c = '\n'
  let cs := ((text.toList.dropWhile isBlank).reverse.dropWhile isBlank).reverse
  let seconds (negative : Bool) (cs : List Char) : Option Int :=
    match leadingDigits cs with
    | (some n, []) => some ((if negative then -(n : Int) else n) * second)
    | (some n, '.' :: digits) =>
      if digits.all Char.isDigit && !digits.isEmpty && !negative then
        some (n * second + nanosOf digits)
      else none
    | _ => none
  match cs with
  | '@' :: '-' :: rest => seconds true rest
  | '@' :: rest => seconds false rest
  | cs =>
    match leadingDigits cs with
    | (some year, '-' :: rest) =>
      match leadingDigits rest with
      | (some month, '-' :: rest) =>
        match leadingDigits rest with
        | (some day, rest) =>
          let date : Date := ⟨year, month, day⟩
          let rest := match rest with
            | 'T' :: rest => rest
            | rest => rest.dropWhile isBlank
          if rest.isEmpty then moment? date 0 0 0
          else
            match readTime? rest with
            | some (hour, minute, sec, nanos, rest) =>
              let zone := String.ofList (rest.dropWhile isBlank)
              if ["", "Z", "UTC", "GMT", "+0000", "+00:00", "+00"].contains zone then
                moment? date hour minute sec nanos
              else none
            | none => none
        | _ => none
      | _ => none
    | _ => none

end Calendar

end GoldenRun.Machine
