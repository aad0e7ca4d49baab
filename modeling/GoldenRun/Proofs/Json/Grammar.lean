/-!
# The grammar of JSON

The rules by which a text is JSON, and what such a text says. Nothing here depends on how a text came
about: blanks may stand wherever the grammar has them, every escape and every form of a number is there.

* `Json.Datum`: what a text says;
* `Json.Number`, `Json.Quoted`: numbers and strings, with what they denote;
* `Json.Value`, `Json.Document`: values, and whole texts.

Rules for parts of a text that may end anywhere relate the text to what is *behind* the part: `Value s d r`
says that `s` begins with a value that says `d`, and that `r` is what is left.
-/

namespace GoldenRun.Json

/-! ## 1. Data -/

/-- The number `mantissa · 10 ^ exponent`. -/
structure Decimal where
  mantissa : Int
  exponent : Int
  deriving DecidableEq, Repr

/-- What a text says. Members keep their order. -/
inductive Datum where
  | null
  | truth (value : Bool)
  | number (value : Decimal)
  | text (value : String)
  | list (elements : List Datum)
  | record (members : List (String × Datum))

/-- A natural number. -/
def Datum.natural (n : Nat) : Datum :=
  .number ⟨n, 0⟩

/-! ## 2. Blanks and numbers -/

/-- A blank: space, tab, line feed, carriage return. -/
def isBlank (c : Char) : Bool :=
  c == ' ' || c == '\t' || c == '\n' || c == '\r'

/-- Any number of blanks, and what is behind them. -/
def Blanks (s r : List Char) : Prop :=
  ∃ blanks, s = blanks ++ r ∧ ∀ c ∈ blanks, isBlank c = true

/-- One or more digits. -/
def Digits (s : List Char) : Prop :=
  s ≠ [] ∧ ∀ c ∈ s, c.isDigit = true

/-- The number that digits denote. -/
def digitsValue (s : List Char) : Nat :=
  Nat.ofDigitChars 10 s 0

/-- The whole part of a number, which has no leading zero. -/
def Whole (s : List Char) : Prop :=
  s = ['0'] ∨ Digits s ∧ s.head? ≠ some '0'

/-- The optional fraction of a number, and its digits. -/
inductive Fraction : List Char → List Char → Prop
  | absent : Fraction [] []
  | present {s : List Char} (h : Digits s) : Fraction ('.' :: s) s

/-- The letter in front of an exponent. -/
def isExponentMark (c : Char) : Bool :=
  c == 'e' || c == 'E'

/-- The optional exponent of a number, and its value. -/
inductive Exponent : List Char → Int → Prop
  | absent : Exponent [] 0
  | plain {c : Char} {s : List Char} (hc : isExponentMark c = true) (h : Digits s) :
    Exponent (c :: s) (digitsValue s)
  | plus {c : Char} {s : List Char} (hc : isExponentMark c = true) (h : Digits s) :
    Exponent (c :: '+' :: s) (digitsValue s)
  | minus {c : Char} {s : List Char} (hc : isExponentMark c = true) (h : Digits s) :
    Exponent (c :: '-' :: s) (-digitsValue s)

/-- A number without a sign. -/
inductive Unsigned : List Char → Decimal → Prop
  | mk {whole fraction digits exponent : List Char} {e : Int} (hwhole : Whole whole)
    (hfraction : Fraction fraction digits) (hexponent : Exponent exponent e) :
    Unsigned (whole ++ fraction ++ exponent)
      ⟨digitsValue (whole ++ digits), e - digits.length⟩

/-- A number, and its value. -/
inductive Number : List Char → Decimal → Prop
  | positive {s : List Char} {d : Decimal} (h : Unsigned s d) : Number s d
  | negative {s : List Char} {d : Decimal} (h : Unsigned s d) :
    Number ('-' :: s) { d with mantissa := -d.mantissa }

/-! ## 3. Strings -/

/-- The value of a hexadecimal digit. -/
def hexValue? (c : Char) : Option Nat :=
  if c.isDigit then some (c.toNat - '0'.toNat)
  else if 'a' ≤ c ∧ c ≤ 'f' then some (c.toNat - 'a'.toNat + 10)
  else if 'A' ≤ c ∧ c ≤ 'F' then some (c.toNat - 'A'.toNat + 10)
  else none

/-- The value of four hexadecimal digits. -/
def unit? (a b c d : Char) : Option Nat :=
  match hexValue? a, hexValue? b, hexValue? c, hexValue? d with
  | some w, some x, some y, some z => some (((w * 16 + x) * 16 + y) * 16 + z)
  | _, _, _, _ => none

/-- The first half of a character above U+FFFF. -/
def IsHigh (n : Nat) : Prop := 0xD800 ≤ n ∧ n ≤ 0xDBFF

/-- The second half of such a character. -/
def IsLow (n : Nat) : Prop := 0xDC00 ≤ n ∧ n ≤ 0xDFFF

instance : DecidablePred IsHigh := fun _ => inferInstanceAs (Decidable (_ ∧ _))

instance : DecidablePred IsLow := fun _ => inferInstanceAs (Decidable (_ ∧ _))

/-- The character of two halves. -/
def paired (high low : Nat) : Char :=
  Char.ofNat (0x10000 + (high - 0xD800) * 0x400 + (low - 0xDC00))

/-- The character that a letter behind a backslash stands for. -/
def short? : Char → Option Char
  | '"' => some '"'
  | '\\' => some '\\'
  | '/' => some '/'
  | 'b' => some '\x08'
  | 'f' => some '\x0C'
  | 'n' => some '\n'
  | 'r' => some '\r'
  | 't' => some '\t'
  | _ => none

/-- What is behind a backslash: the character meant, and what is behind the escape. A half of a character
    stands for nothing when it is alone. -/
inductive Escape : List Char → Char → List Char → Prop
  | short {e c : Char} {r : List Char} (h : short? e = some c) : Escape (e :: r) c r
  | unit {a b c d : Char} {n : Nat} {r : List Char} (h : unit? a b c d = some n)
    (hhigh : ¬ IsHigh n) (hlow : ¬ IsLow n) : Escape ('u' :: a :: b :: c :: d :: r) (Char.ofNat n) r
  | pair {a b c d e f g h : Char} {high low : Nat} {r : List Char}
    (hfirst : unit? a b c d = some high) (hhigh : IsHigh high)
    (hsecond : unit? e f g h = some low) (hlow : IsLow low) :
    Escape ('u' :: a :: b :: c :: d :: '\\' :: 'u' :: e :: f :: g :: h :: r) (paired high low) r

/-- What may stand in a string as it is. -/
def IsPlain (c : Char) : Prop :=
  c ≠ '"' ∧ c ≠ '\\' ∧ 0x20 ≤ c.toNat

instance : DecidablePred IsPlain := fun _ => inferInstanceAs (Decidable (_ ∧ _ ∧ _))

/-- The rest of a string behind its opening quote: the characters meant, and what is behind the closing
    quote. -/
inductive Characters : List Char → List Char → List Char → Prop
  | close {r : List Char} : Characters ('"' :: r) [] r
  | plain {c : Char} {s cs r : List Char} (hc : IsPlain c) (h : Characters s cs r) :
    Characters (c :: s) (c :: cs) r
  | escape {c : Char} {s t cs r : List Char} (hc : Escape s c t) (h : Characters t cs r) :
    Characters ('\\' :: s) (c :: cs) r

/-- A string. -/
inductive Quoted : List Char → String → List Char → Prop
  | mk {s cs r : List Char} (h : Characters s cs r) : Quoted ('"' :: s) (String.ofList cs) r

/-! ## 4. Values -/

mutual

/-- A value. -/
inductive Value : List Char → Datum → List Char → Prop
  | null {r : List Char} : Value ('n' :: 'u' :: 'l' :: 'l' :: r) .null r
  | yes {r : List Char} : Value ('t' :: 'r' :: 'u' :: 'e' :: r) (.truth true) r
  | no {r : List Char} : Value ('f' :: 'a' :: 'l' :: 's' :: 'e' :: r) (.truth false) r
  | number {s r : List Char} {d : Decimal} (h : Number s d) : Value (s ++ r) (.number d) r
  | text {s r : List Char} {t : String} (h : Quoted s t r) : Value s (.text t) r
  | emptyList {s r : List Char} (h : Blanks s (']' :: r)) : Value ('[' :: s) (.list []) r
  | list {s r : List Char} {ds : List Datum} (h : Elements s ds r) : Value ('[' :: s) (.list ds) r
  | emptyRecord {s r : List Char} (h : Blanks s ('\x7d' :: r)) : Value ('\x7b' :: s) (.record []) r
  | record {s r : List Char} {ms : List (String × Datum)} (h : Members s ms r) :
    Value ('\x7b' :: s) (.record ms) r

/-- The elements of a list, of which there is at least one, and the closing bracket. -/
inductive Elements : List Char → List Datum → List Char → Prop
  | last {s a b r : List Char} {d : Datum} (hbefore : Blanks s a) (h : Value a d b)
    (hbehind : Blanks b (']' :: r)) : Elements s [d] r
  | more {s a b c r : List Char} {d : Datum} {ds : List Datum} (hbefore : Blanks s a) (h : Value a d b)
    (hbehind : Blanks b (',' :: c)) (hmore : Elements c ds r) : Elements s (d :: ds) r

/-- A member of a record: its key, a colon and its value. -/
inductive Member : List Char → String × Datum → List Char → Prop
  | mk {s a b c r : List Char} {key : String} {d : Datum} (hkey : Quoted s key a)
    (hbefore : Blanks a (':' :: b)) (hbehind : Blanks b c) (h : Value c d r) : Member s (key, d) r

/-- The members of a record, of which there is at least one, and the closing brace. -/
inductive Members : List Char → List (String × Datum) → List Char → Prop
  | last {s a b r : List Char} {m : String × Datum} (hbefore : Blanks s a) (h : Member a m b)
    (hbehind : Blanks b ('\x7d' :: r)) : Members s [m] r
  | more {s a b c r : List Char} {m : String × Datum} {ms : List (String × Datum)}
    (hbefore : Blanks s a) (h : Member a m b) (hbehind : Blanks b (',' :: c))
    (hmore : Members c ms r) : Members s (m :: ms) r

end

/-- A whole text: one value between blanks. -/
inductive Document : String → Datum → Prop
  | mk {text : String} {a b : List Char} {d : Datum} (hbefore : Blanks text.toList a)
    (h : Value a d b) (hbehind : Blanks b []) : Document text d

end GoldenRun.Json
