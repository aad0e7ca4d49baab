import GoldenRun.Proofs.Json.Grammar

/-!
# A decoder of JSON

A reader takes a part of the text from the front: it answers with what the part says and with what is left,
or not at all. A character of lookahead is enough everywhere.

* `less?`: a reader may go on with what is left because it is less than there was;
* `number?`, `quoted?`, `value?`: the readers of numbers, strings and values;
* `decode?`: the datum of a whole text.
-/

namespace GoldenRun.Json

/-! ## 1. Blanks and single characters -/

/-- What is behind the blanks. -/
def skip (s : List Char) : List Char :=
  s.dropWhile isBlank

/-- What is behind the expected character. -/
def expect? (expected : Char) : List Char → Option (List Char)
  | [] => none
  | c :: r => if c = expected then some r else none

/-- What is behind the given characters. -/
def word? : List Char → List Char → Option (List Char)
  | [], s => some s
  | c :: cs, s => (expect? c s).bind (word? cs)

/-- What is left, if it is less than there was. It always is, for every reader takes something away; the
    readers that go on with it end for this reason. -/
def less? (s r : List Char) : Option { r : List Char // r.length < s.length } :=
  if h : r.length < s.length then some ⟨r, h⟩ else none

theorem length_skip_le (s : List Char) : (skip s).length ≤ s.length :=
  (List.dropWhile_suffix _).length_le

/-! ## 2. Numbers -/

/-- The digits at the beginning, at least one, and what is behind them. -/
def digits? (s : List Char) : Option (List Char × List Char) :=
  if s.takeWhile Char.isDigit = [] then none
  else some (s.takeWhile Char.isDigit, s.dropWhile Char.isDigit)

/-- The whole part of a number. -/
def whole? : List Char → Option (List Char × List Char)
  | '0' :: r => some (['0'], r)
  | s => digits? s

/-- The digits of an optional fraction. -/
def fraction? : List Char → Option (List Char × List Char)
  | '.' :: s => digits? s
  | s => some ([], s)

/-- The digits of an exponent, and its sign. -/
def signed? : List Char → Option (Int × List Char)
  | '+' :: s => (digits? s).map fun found => (digitsValue found.1, found.2)
  | '-' :: s => (digits? s).map fun found => (-digitsValue found.1, found.2)
  | s => (digits? s).map fun found => (digitsValue found.1, found.2)

/-- The value of an optional exponent. -/
def exponent? : List Char → Option (Int × List Char)
  | c :: s => if isExponentMark c then signed? s else some (0, c :: s)
  | [] => some (0, [])

/-- A number without a sign. -/
def unsigned? (s : List Char) : Option (Decimal × List Char) := do
  let (whole, s) ← whole? s
  let (digits, s) ← fraction? s
  let (e, s) ← exponent? s
  return (⟨digitsValue (whole ++ digits), e - digits.length⟩, s)

/-- A number. -/
def number? : List Char → Option (Decimal × List Char)
  | '-' :: s => (unsigned? s).map fun found => ({ found.1 with mantissa := -found.1.mantissa }, found.2)
  | s => unsigned? s

/-! ## 3. Strings -/

/-- A second half behind a first one. -/
def second? (high : Nat) : List Char → Option (Char × List Char)
  | '\\' :: 'u' :: e :: f :: g :: h :: r =>
    match unit? e f g h with
    | some low => if IsLow low then some (paired high low, r) else none
    | none => none
  | _ => none

/-- A character given by its number. -/
def unicode? : List Char → Option (Char × List Char)
  | a :: b :: c :: d :: r =>
    match unit? a b c d with
    | some n =>
      if IsHigh n then second? n r else if IsLow n then none else some (Char.ofNat n, r)
    | none => none
  | _ => none

/-- What is behind a backslash. -/
def escape? : List Char → Option (Char × List Char)
  | [] => none
  | e :: r => if e = 'u' then unicode? r else (short? e).map (·, r)

/-- The rest of a string behind its opening quote. -/
def characters? (s : List Char) : Option (List Char × List Char) :=
  match s with
  | [] => none
  | c :: s =>
    if c = '"' then some ([], s)
    else if c = '\\' then do
      let (c, t) ← escape? s
      let ⟨t, _⟩ ← less? s t
      let (cs, r) ← characters? t
      return (c :: cs, r)
    else if IsPlain c then do
      let (cs, r) ← characters? s
      return (c :: cs, r)
    else none
termination_by s.length

/-- A string. -/
def quoted? (s : List Char) : Option (String × List Char) := do
  let s ← expect? '"' s
  let (cs, r) ← characters? s
  return (String.ofList cs, r)

/-! ## 4. Values -/

/-- The kinds of values, by their first characters. -/
inductive Opening where
  | text | list | record | null | yes | no | number

/-- What kind of value a first character announces. -/
def opening (c : Char) : Opening :=
  if c = '"' then .text
  else if c = '[' then .list
  else if c = '\x7b' then .record
  else if c = 'n' then .null
  else if c = 't' then .yes
  else if c = 'f' then .no
  else .number

mutual

/-- A value. -/
def value? (s : List Char) : Option (Datum × List Char) :=
  match s with
  | [] => none
  | c :: s =>
    match opening c with
    | .null => (word? ['u', 'l', 'l'] s).map (Datum.null, ·)
    | .yes => (word? ['r', 'u', 'e'] s).map (Datum.truth true, ·)
    | .no => (word? ['a', 'l', 's', 'e'] s).map (Datum.truth false, ·)
    | .number => (number? (c :: s)).map fun found => (.number found.1, found.2)
    | .text => (quoted? (c :: s)).map fun found => (.text found.1, found.2)
    | .list =>
      match expect? ']' (skip s) with
      | some r => some (.list [], r)
      | none => do
        let (ds, r) ← elements? s
        return (.list ds, r)
    | .record =>
      match expect? '\x7d' (skip s) with
      | some r => some (.record [], r)
      | none => do
        let (ms, r) ← members? s
        return (.record ms, r)
termination_by 2 * s.length

/-- The elements of a list and the closing bracket. -/
def elements? (s : List Char) : Option (List Datum × List Char) := do
  let (d, b) ← value? (skip s)
  match expect? ']' (skip b) with
  | some r => some ([d], r)
  | none => do
    let c ← expect? ',' (skip b)
    let ⟨c, _⟩ ← less? s c
    let (ds, r) ← elements? c
    return (d :: ds, r)
termination_by 2 * s.length + 1
decreasing_by
  · have hskip := length_skip_le s
    omega
  · omega

/-- A member of a record. -/
def member? (s : List Char) : Option ((String × Datum) × List Char) := do
  let (key, a) ← quoted? s
  let b ← expect? ':' (skip a)
  let ⟨b, _⟩ ← less? s b
  let (d, r) ← value? (skip b)
  return ((key, d), r)
termination_by 2 * s.length
decreasing_by
  have hskip := length_skip_le b
  omega

/-- The members of a record and the closing brace. -/
def members? (s : List Char) : Option (List (String × Datum) × List Char) := do
  let (m, b) ← member? (skip s)
  match expect? '\x7d' (skip b) with
  | some r => some ([m], r)
  | none => do
    let c ← expect? ',' (skip b)
    let ⟨c, _⟩ ← less? s c
    let (ms, r) ← members? c
    return (m :: ms, r)
termination_by 2 * s.length + 1
decreasing_by
  · have hskip := length_skip_le s
    omega
  · omega

end

/-- The datum that a text says, if the text is JSON. -/
def decode? (text : String) : Option Datum :=
  match value? (skip text.toList) with
  | some (d, r) => if skip r = [] then some d else none
  | none => none

end GoldenRun.Json
