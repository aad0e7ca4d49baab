import GoldenRun.Machine.Utility.Format

/-!
# Arithmetic expressions

Expressions of whole numbers with the operators of `$((…))`. An expression is first read into a
`Formula` and then evaluated.

* Binary operators are read by climbing: an operand, and then as long as an operator of at least the
  given rank follows, that operator and an operand of the next rank.
* `&&`, `||` and `?:` evaluate only what they need, so only that can fail or assign.
* Results keep to 64 bits.
-/

namespace GoldenRun.Machine.Shell

/-- An expression. -/
inductive Formula where
  | number (n : Int)
  | named (name : String)
  | unary (operator : Char) (operand : Formula)
  | binary (operator : String) (left right : Formula)
  | choice (condition yes no : Formula)
  /-- Give a name a value; the operator, if there is one, takes the old value into account. -/
  | assign (name operator : String) (value : Formula)
  deriving DecidableEq, Repr

/-- Why an expression has no value. -/
inductive FormulaFault where
  | expecting (what : String)
  | divisionByZero
  /-- The value of a name is no number. -/
  | badNumber (text : String)
  deriving DecidableEq, Repr

/-- The wording of a fault of an expression. -/
def FormulaFault.message (expression : String) : FormulaFault → String
  | .expecting what => "arithmetic expression: expecting " ++ what ++ ": \"" ++ expression ++ "\""
  | .divisionByZero => "arithmetic expression: division by zero: \"" ++ expression ++ "\""
  | .badNumber text => "Illegal number: " ++ text

/-! ## 1. Reading -/

/-- Binary operators with their ranks, longer ones first. -/
def binaryOperators : List (String × Nat) :=
  [("||", 1), ("&&", 2), ("==", 6), ("!=", 6), ("<<", 8), (">>", 8), ("<=", 7), (">=", 7), ("<", 7),
    (">", 7), ("|", 3), ("^", 4), ("&", 5), ("+", 9), ("-", 9), ("*", 10), ("/", 10), ("%", 10)]

/-- Operators that may stand in front of the sign of an assignment. -/
def assigningOperators : List String :=
  ["<<", ">>", "+", "-", "*", "/", "%", "|", "&", "^", ""]

/-- What follows blanks. -/
def skipBlanks (cs : List Char) : List Char :=
  cs.dropWhile fun c => c = ' ' || c = '\t' || c = '\n'

/-- A character of a name. -/
def isFormulaNameChar (c : Char) : Bool := c.isAlphanum || c = '_'

/-- The largest number of 64 bits with a sign. -/
def maxNumber : Nat := 9223372036854775807

/-- The number at the beginning of a text and what follows it. One that is too large is the largest. -/
def takeNumber (cs : List Char) : Nat × List Char :=
  let (n, rest) := leadingNumeral cs
  (min (n.getD 0) maxNumber, rest)

/-- The name and the operator of an assignment at the beginning of a text, and what follows its
    sign. -/
def assignmentHead? (cs : List Char) : Option (String × String × List Char) :=
  let name := (skipBlanks cs).takeWhile isFormulaNameChar
  let rest := skipBlanks ((skipBlanks cs).drop name.length)
  if name.isEmpty || name.head?.any Char.isDigit then none
  else
    match assigningOperators.find? fun o => (o.toList ++ ['=']).isPrefixOf rest with
    | none => none
    | some o =>
      let behind := rest.drop (o.length + 1)
      if o = "" && behind.head? = some '=' then none else some (String.ofList name, o, behind)

mutual

/-- An expression of any kind, and what follows it. `fuel` covers the length, as in all readers. -/
def readFormula : (fuel : Nat) → List Char → Except FormulaFault (Formula × List Char)
  | 0, _ => .error (.expecting "primary")
  | fuel + 1, cs =>
    match assignmentHead? cs with
    | some (name, operator, behind) =>
      (readFormula fuel behind).map fun (value, rest) => (.assign name operator value, rest)
    | none => readChoice fuel cs

/-- An expression that assigns nothing, unless in brackets. -/
def readChoice : (fuel : Nat) → List Char → Except FormulaFault (Formula × List Char)
  | 0, _ => .error (.expecting "primary")
  | fuel + 1, cs => do
    let (condition, rest) ← climb fuel 1 cs
    match skipBlanks rest with
    | '?' :: rest =>
      let (yes, rest) ← readFormula fuel rest
      match skipBlanks rest with
      | ':' :: rest =>
        let (no, rest) ← readChoice fuel rest
        return (.choice condition yes no, rest)
      | _ => .error (.expecting "':'")
    | _ => return (condition, rest)

/-- An expression of operators of at least the given rank. -/
def climb : (fuel rank : Nat) → List Char → Except FormulaFault (Formula × List Char)
  | 0, _, _ => .error (.expecting "primary")
  | fuel + 1, rank, cs => do
    let (left, rest) ← operand fuel cs
    climbFrom fuel rank left rest

/-- What follows an operand that was read. -/
def climbFrom :
    (fuel rank : Nat) → (left : Formula) → List Char → Except FormulaFault (Formula × List Char)
  | 0, _, _, _ => .error (.expecting "primary")
  | fuel + 1, rank, left, cs =>
    let cs := skipBlanks cs
    match binaryOperators.find? fun o => o.1.toList.isPrefixOf cs with
    | none => .ok (left, cs)
    | some (o, r) =>
      if r < rank then .ok (left, cs)
      else do
        let (right, rest) ← climb fuel (r + 1) (cs.drop o.length)
        climbFrom fuel rank (.binary o left right) rest

/-- An operand. -/
def operand : (fuel : Nat) → List Char → Except FormulaFault (Formula × List Char)
  | 0, _ => .error (.expecting "primary")
  | fuel + 1, cs =>
    match skipBlanks cs with
    | '(' :: rest => do
      let (inner, rest) ← readFormula fuel rest
      match skipBlanks rest with
      | ')' :: rest => return (inner, rest)
      | _ => .error (.expecting "')'")
    | [] => .error (.expecting "primary")
    | c :: rest =>
      if "+-!~".toList.contains c then
        (operand fuel rest).map fun (inner, rest) => (.unary c inner, rest)
      else if c.isDigit then
        let (n, rest) := takeNumber (c :: rest)
        .ok (.number n, rest)
      else if isFormulaNameChar c then
        let name := (c :: rest).takeWhile isFormulaNameChar
        .ok (.named (String.ofList name), (c :: rest).drop name.length)
      else .error (.expecting "primary")

end

/-- The expression that a text is. -/
def Formula.ofText (text : String) : Except FormulaFault Formula := do
  let (formula, rest) ← readFormula (6 * text.length + 8) text.toList
  if (skipBlanks rest).isEmpty then return formula else .error (.expecting "EOF")

/-! ## 2. Evaluation -/

/-- 1 for yes and 0 for no. -/
def truth (b : Bool) : Int := if b then 1 else 0

/-- A number brought to 64 bits. -/
def wrapped (n : Int) : Int := Int.bmod n UInt64.size

/-- The value of a binary operator whose operands are both needed. -/
def binaryValue (operator : String) (a b : Int) : Except FormulaFault Int :=
  match operator with
  | "==" => .ok (truth (a == b))
  | "!=" => .ok (truth (a != b))
  | "<=" => .ok (truth (a ≤ b))
  | ">=" => .ok (truth (a ≥ b))
  | "<" => .ok (truth (a < b))
  | ">" => .ok (truth (a > b))
  | "+" => .ok (wrapped (a + b))
  | "-" => .ok (wrapped (a - b))
  | "*" => .ok (wrapped (a * b))
  | "/" => if b = 0 then .error .divisionByZero else .ok (wrapped (a.tdiv b))
  | "%" => if b = 0 then .error .divisionByZero else .ok (a.tmod b)
  | "|" => .ok (bitwise (· ||| ·) a b)
  | "&" => .ok (bitwise (· &&& ·) a b)
  | "^" => .ok (bitwise (· ^^^ ·) a b)
  | "<<" => .ok (wrapped (a * (1 <<< (b % 64).toNat : Nat)))
  | ">>" => .ok (a.fdiv (1 <<< (b % 64).toNat : Nat))
  | _ => .ok b
where
  /-- An operation on the 64 bits of each number. -/
  bitwise (f : Nat → Nat → Nat) (a b : Int) : Int :=
    wrapped (f (a % UInt64.size).toNat (b % UInt64.size).toNat : Nat)

/-- The value of an operator with one operand. -/
def unaryValue (operator : Char) (n : Int) : Int :=
  if operator = '-' then wrapped (-n)
  else if operator = '!' then truth (n == 0)
  else if operator = '~' then -n - 1
  else n

/-- The number that the value of a name is; no value is zero. -/
def numberOfText (text : String) : Except FormulaFault Int :=
  let cs := skipBlanks text.toList
  let (negative, digits) : Bool × List Char :=
    match cs with
    | '-' :: rest => (true, rest)
    | '+' :: rest => (false, rest)
    | cs => (false, cs)
  if text.isEmpty then .ok 0
  else if !digits.head?.any Char.isDigit then .error (.badNumber text)
  else
    let (n, rest) := takeNumber digits
    if (skipBlanks rest).isEmpty then .ok (if negative then -(n : Int) else n)
    else .error (.badNumber text)

/-- Evaluations keep the values that were assigned, the newest first. -/
abbrev Evaluation := StateT (List (String × Int)) (Except FormulaFault)

/-- The value of a name, which the expression may have assigned itself. -/
def valueOf (value? : String → Option String) (name : String) : Evaluation Int := do
  match (← get).lookup name with
  | some n => return n
  | none => liftM (numberOfText ((value? name).getD ""))

/-- The value of an expression. -/
def Formula.eval (value? : String → Option String) : Formula → Evaluation Int
  | .number n => return n
  | .named name => valueOf value? name
  | .unary operator a => return unaryValue operator (← a.eval value?)
  | .binary "&&" a b => do
    if (← a.eval value?) = 0 then return 0 else return truth ((← b.eval value?) != 0)
  | .binary "||" a b => do
    if (← a.eval value?) = 0 then return truth ((← b.eval value?) != 0) else return 1
  | .binary operator a b => do
    let x ← a.eval value?
    let y ← b.eval value?
    liftM (binaryValue operator x y)
  | .choice condition a b => do
    if (← condition.eval value?) = 0 then b.eval value? else a.eval value?
  | .assign name operator a => do
    let new ← a.eval value?
    let n ← if operator = "" then pure new else do
      let old ← valueOf value? name
      liftM (binaryValue operator old new)
    modify ((name, n) :: ·)
    return n

/-- The value of the expression that a text is, and the values that it assigns, the newest first. -/
def arithmeticValue (value? : String → Option String) (text : String) :
    Except FormulaFault (Int × List (String × Int)) := do
  let formula ← Formula.ofText text
  (formula.eval value?).run []

end GoldenRun.Machine.Shell
