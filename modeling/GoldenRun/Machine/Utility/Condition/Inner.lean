import GoldenRun.Machine.Utility.Condition.Property

/-!
# Conditions of a shell

The shell's own `test` says whether the condition that its arguments state holds, by its status: 0 if it does,
1 if it does not, and 2 if they state none.

Readers take words from the left. Each leaves the value, the last word that it took and the words behind
it. A word that looks like an operator with one operand is an operand itself if nothing that it could
stand for follows.
-/

namespace GoldenRun.Machine

/-- Why arguments state no condition. -/
inductive ConditionFault where
  /-- Words are left behind this one. -/
  | unexpected (word : String)
  | missingOperand (operator : String)
  | openBracket
  | badNumber (text : String)
  deriving DecidableEq, Repr

/-- The wording of a fault of a condition. -/
def ConditionFault.message : ConditionFault → String
  | .unexpected word => (if word.isEmpty then "" else word ++ ": ") ++ "unexpected operator"
  | .missingOperand operator => operator ++ ": argument expected"
  | .openBracket => "closing paren expected"
  | .badNumber text => "Illegal number: " ++ text

/-! ## 1. Operators -/

/-- The largest number of 64 bits with a sign. -/
def largestNumber : Int := 9223372036854775807

/-- A whole number of 64 bits in decimal digits, blanks around it or not. -/
def decimalNumber (text : String) : Except ConditionFault Int :=
  let isBlank (c : Char) := c = ' ' || (9 ≤ c.toNat && c.toNat ≤ 13)
  let cs := text.toList.dropWhile isBlank
  let (negative, cs) : Bool × List Char :=
    match cs with
    | '-' :: rest => (true, rest)
    | '+' :: rest => (false, rest)
    | cs => (false, cs)
  match decimal? (String.ofList (cs.reverse.dropWhile isBlank).reverse) with
  | none => .error (.badNumber text)
  | some n =>
    let n : Int := if negative then -(n : Int) else n
    if -largestNumber - 1 ≤ n && n ≤ largestNumber then .ok n else .error (.badNumber text)

/-- The operators with one operand. -/
def isUnaryOperator (word : String) : Bool :=
  match word.toList with
  | ['-', letter] => "nzerwOGfdxsLhpcugkbSt".toList.contains letter
  | _ => false

/-- A condition with one operand. -/
def unaryCondition (tree : FileTree) (operator operand : String) : Except ConditionFault Bool :=
  match operator.toList with
  | ['-', 'n'] => .ok (!operand.isEmpty)
  | ['-', 'z'] => .ok operand.isEmpty
  | ['-', 't'] => (decimalNumber operand).map fun _ => false
  | ['-', letter] => .ok ((fileProperty? tree letter operand).getD false)
  | _ => .ok false

/-- The operators with two operands. -/
def isBinaryOperator (word : String) : Bool :=
  ["=", "!=", "<", ">", "-eq", "-ne", "-lt", "-le", "-gt", "-ge", "-nt", "-ot", "-ef"].contains word

/-- How the operator of two letters compares numbers, if it does. -/
def numericOrder? : String → Option (Int → Int → Bool)
  | "-eq" => some (· == ·)
  | "-ne" => some (· != ·)
  | "-lt" => some (· < ·)
  | "-le" => some (· ≤ ·)
  | "-gt" => some (· > ·)
  | "-ge" => some (· ≥ ·)
  | _ => none

/-- A condition with two operands. A file is newer than another only if there is another. -/
def binaryCondition (tree : FileTree) (a operator b : String) : Except ConditionFault Bool :=
  let ages (holds : Int → Int → Bool) : Bool :=
    match modified? tree a, modified? tree b with
    | some x, some y => holds x y
    | _, _ => false
  match operator with
  | "=" => .ok (a == b)
  | "!=" => .ok (a != b)
  | "<" => .ok (a < b)
  | ">" => .ok (b < a)
  | "-nt" => .ok (ages (· > ·))
  | "-ot" => .ok (ages (· < ·))
  | "-ef" => .ok (isSameNode tree a b)
  | _ =>
    match numericOrder? operator with
    | some holds => return holds (← decimalNumber a) (← decimalNumber b)
    | none => .ok false

namespace Condition

/-! ## 2. Reading -/

/-- What a reader leaves: the value, the last word taken and the words behind it. -/
abbrev Answer := Except ConditionFault (Bool × String × List String)

/-- The word stands for itself, with these words behind it. -/
def isOperand (word : String) (rest : List String) : Bool :=
  match rest with
  | [] => true
  | [_] => !isUnaryOperator word
  | second :: _ => !isUnaryOperator word || isBinaryOperator second

mutual

/-- Conditions with `-o` between them. `fuel` covers the words, as in all readers. -/
def anyOf (tree : FileTree) : (fuel : Nat) → List String → Answer
  | 0, _ => .error .openBracket
  | fuel + 1, words => do
    let (a, last, rest) ← allOf tree fuel words
    match rest with
    | "-o" :: rest =>
      let (b, last, rest) ← anyOf tree fuel rest
      return (a || b, last, rest)
    | _ => return (a, last, rest)

/-- Conditions with `-a` between them. -/
def allOf (tree : FileTree) : (fuel : Nat) → List String → Answer
  | 0, _ => .error .openBracket
  | fuel + 1, words => do
    let (a, last, rest) ← single tree fuel words
    match rest with
    | "-a" :: rest =>
      let (b, last, rest) ← allOf tree fuel rest
      return (a && b, last, rest)
    | _ => return (a, last, rest)

/-- A single condition. Where there is none, it does not hold. -/
def single (tree : FileTree) : (fuel : Nat) → List String → Answer
  | 0, _ => .error .openBracket
  | _ + 1, [] => return (false, "", [])
  | fuel + 1, "!" :: rest => do
    let (a, last, rest) ← single tree fuel rest
    return (!a, last, rest)
  | fuel + 1, word :: rest => do
    match rest with
    | [] => return (!word.isEmpty, word, [])
    | second :: behind =>
      if word = "(" then
        if second = ")" then return (false, second, behind)
        let (a, _, rest) ← anyOf tree fuel rest
        match rest with
        | ")" :: rest => return (a, ")", rest)
        | _ => .error .openBracket
      else if !isOperand word rest then
        return (← unaryCondition tree word second, second, behind)
      else if isBinaryOperator second then
        match behind with
        | [] => .error (.missingOperand second)
        | third :: behind => return (← binaryCondition tree word second third, third, behind)
      else return (!word.isEmpty, word, rest)

end

/-- The condition that all words state. -/
def whole (tree : FileTree) (words : List String) : Except ConditionFault Bool := do
  let (value, last, rest) ← anyOf tree (4 * words.length + 4) words
  if rest.isEmpty then return value else .error (.unexpected last)

/-- The condition that arguments state, negated or not. A few short forms come first: of three words, the
    one in the middle is an operator if it can be; of three or four, brackets around and a leading `!` are
    seen before all else, and two `!` of these count once. -/
def ofArgs (tree : FileTree) (negated : Bool) : (args : List String) → Except ConditionFault Bool
  | [] => .ok false
  | first :: rest =>
    let value (answer : Except ConditionFault Bool) := answer.map (· != negated)
    let args := first :: rest
    match args with
    | [a, operator, b] =>
      if isBinaryOperator operator then value (binaryCondition tree a operator b)
      else if first = "(" && b = ")" then value (whole tree [operator])
      else if first = "!" then ofArgs tree true rest
      else value (whole tree args)
    | [_, b, c, d] =>
      if first = "(" && d = ")" then value (whole tree [b, c])
      else if first = "!" then ofArgs tree true rest
      else value (whole tree args)
    | _ => value (whole tree args)

end Condition

/-! ## 3. Utilities -/

/-- Whether the condition holds that words state. -/
def Errand.testInside (errand : Errand) (words : List String) : Effort :=
  match Condition.ofArgs errand.files false words with
  | .ok true => errand.finish 0
  | .ok false => errand.finish 1
  | .error fault => errand.complain 2 (errand.line fault.message)

/-- Whether a condition holds. -/
def innerTest : Utility := fun errand => errand.testInside errand.args

/-- Whether a condition in brackets holds. -/
def innerBracket : Utility := fun errand =>
  if errand.args.getLast? = some "]" then errand.testInside errand.args.dropLast
  else errand.complain 2 (errand.line "missing ]")

end GoldenRun.Machine
