import GoldenRun.Machine.Utility.Options
import GoldenRun.Regex.Syntax

/-!
# Calculation

`expr` writes the value of an expression whose words are its arguments. A value is a text; one that looks like
a whole number is also that number, of any size.

Readers take words from the left and leave the words behind. What is not needed for the value is read but not
calculated. `last` is the word in front of the first that is left.
-/

namespace GoldenRun.Machine

namespace Calculation

/-- What a reader leaves: the value, the last word that was taken and the words behind. -/
abbrev Answer := Except String (String × String × List String)

/-- The number that a text looks like. -/
def integer? (text : String) : Option Int :=
  match text.toList with
  | '-' :: digits => (decimal? (String.ofList digits)).map fun n => -(n : Int)
  | _ => (decimal? text).map Int.ofNat

/-- The text is empty or zero. -/
def isNull (text : String) : Bool :=
  match text.toList with
  | [] => true
  | '-' :: rest => !rest.isEmpty && rest.all (· = '0')
  | cs => cs.all (· = '0')

/-- The text of a truth value. -/
def truth (b : Bool) : String := if b then "1" else "0"

/-- A comparison of numbers if both are, and of texts otherwise. -/
def compared (operator a b : String) : String :=
  let order :=
    match integer? a, integer? b with
    | some x, some y => compare x y
    | _, _ => compare a b
  truth <| match operator with
    | "<" => order = .lt
    | "<=" => order != .gt
    | "=" | "==" => order = .eq
    | "!=" => order != .eq
    | ">=" => order != .lt
    | _ => order = .gt

/-- A calculation with two numbers. -/
def calculated (operator a b : String) : Except String String :=
  match integer? a, integer? b with
  | some x, some y =>
    match operator with
    | "+" => .ok (toString (x + y))
    | "-" => .ok (toString (x - y))
    | "*" => .ok (toString (x * y))
    | _ =>
      if y = 0 then .error "division by zero"
      else .ok (toString (if operator = "/" then Int.tdiv x y else Int.tmod x y))
  | _, _ => .error "non-integer argument"

/-- What the beginning of a text is for a pattern: what its first group stands for, or the number of
    characters if it has no group. -/
def matched (text pattern : String) : Except String String :=
  match Regex.ofText .looseBasic false pattern.toList with
  | .error fault => .error fault.message
  | .ok regex =>
    let hasGroups := 0 < regex.groupCount
    match regex.matchAt? { after := text.toList } with
    | none => .ok (if hasGroups then "" else "0")
    | some stop =>
      .ok (if hasGroups then String.ofList ((stop.groups.lookup 1).getD []) else toString stop.offset)

/-- The place of the first character that is in a set, counted from one, or zero. -/
def placeIn (text set : String) : Nat :=
  (text.toList.findIdx? fun c => set.toList.contains c).elim 0 (· + 1)

/-- So many characters from a place on, counted from one. -/
def part (text start length : String) : String :=
  match integer? start, integer? length with
  | some start, some length =>
    if start ≤ 0 || length ≤ 0 then ""
    else String.ofList ((text.toList.drop (start.toNat - 1)).take length.toNat)
  | _, _ => ""

/-- The operators of each rank, the weakest first. -/
def operators : List (List String) :=
  [["|"], ["&"], ["<", "<=", "=", "==", "!=", ">=", ">"], ["+", "-"], ["*", "/", "%"], [":"]]

/-- The value that an operator makes. -/
def combine (needed : Bool) (operator a b : String) : Except String String :=
  match operator with
  | "|" => .ok (if !isNull a then a else if !isNull b then b else "0")
  | "&" => .ok (if isNull a || isNull b then "0" else a)
  | ":" => if needed then matched a b else .ok a
  | _ =>
    if !needed then .ok a
    else if ["+", "-", "*", "/", "%"].contains operator then calculated operator a b
    else .ok (compared operator a b)

/-- The operand behind an operator has to be calculated. -/
def needsSecond (needed : Bool) (operator a : String) : Bool :=
  match operator with
  | "|" => needed && isNull a
  | "&" => needed && !isNull a
  | _ => needed

mutual

/-- An expression of operators of a rank and the ranks above it. `fuel` covers the words, as in all
    readers. -/
def ranked (needed : Bool) : (fuel : Nat) → (ranks : List (List String)) → (last : String) → List String →
    Answer
  | 0, _, last, _ => .error ("syntax error: missing argument after " ++ quotedWord last)
  | fuel + 1, [], last, words => atom needed fuel last words
  | fuel + 1, rank :: higher, last, words => do
    let (a, last, rest) ← ranked needed fuel higher last words
    continued needed fuel rank higher a last rest

/-- More operands of a rank behind the value of those in front. -/
def continued (needed : Bool) : (fuel : Nat) → (rank : List String) → (higher : List (List String)) →
    (a last : String) → List String → Answer
  | 0, _, _, a, last, words => .ok (a, last, words)
  | fuel + 1, rank, higher, a, last, words =>
    match words with
    | operator :: rest =>
      if rank.contains operator then do
        let (b, last, rest) ← ranked (needsSecond needed operator a) fuel higher operator rest
        let value ← combine needed operator a b
        continued needed fuel rank higher value last rest
      else .ok (a, last, words)
    | [] => .ok (a, last, words)

/-- An operand. -/
def atom (needed : Bool) : (fuel : Nat) → (last : String) → List String → Answer
  | 0, last, _ | _, last, [] => .error ("syntax error: missing argument after " ++ quotedWord last)
  | fuel + 1, last, word :: rest => do
    match word with
    | "+" =>
      match rest with
      | [] => .error ("syntax error: missing argument after " ++ quotedWord "+")
      | word :: rest => return (word, word, rest)
    | "length" =>
      let (a, last, rest) ← atom needed fuel word rest
      return (toString a.length, last, rest)
    | "match" =>
      let (a, last, rest) ← atom needed fuel word rest
      let (b, last, rest) ← atom needed fuel last rest
      return (← if needed then matched a b else .ok a, last, rest)
    | "index" =>
      let (a, last, rest) ← atom needed fuel word rest
      let (b, last, rest) ← atom needed fuel last rest
      return (toString (placeIn a b), last, rest)
    | "substr" =>
      let (a, last, rest) ← atom needed fuel word rest
      let (start, last, rest) ← atom needed fuel last rest
      let (length, last, rest) ← atom needed fuel last rest
      return (part a start length, last, rest)
    | "(" =>
      let (a, last, rest) ← ranked needed fuel operators word rest
      match rest with
      | ")" :: rest => return (a, ")", rest)
      | [] => .error ("syntax error: expecting ')' after " ++ quotedWord last)
      | word :: _ => .error ("syntax error: expecting ')' instead of " ++ quotedWord word)
    | ")" => .error "syntax error: unexpected ')'"
    | _ =>
      let _ := last
      return (word, word, rest)

end

/-- The value of an expression. -/
def value (words : List String) : Except String String := do
  let (a, _, rest) ← ranked true (16 * words.length + 16) operators "" words
  match rest with
  | [] => return a
  | word :: _ => .error ("syntax error: unexpected argument " ++ quotedWord word)

end Calculation

/-- The value of an expression. -/
def expr : Utility := fun errand =>
  match if errand.args.head? = some "--" then errand.args.drop 1 else errand.args with
  | [] => { errand.misused "missing operand" with code := 2 }
  | words =>
    match Calculation.value words with
    | .error fault => errand.complain 2 (errand.line fault)
    | .ok value => { errand.say (value ++ "\n") with code := if Calculation.isNull value then 1 else 0 }

end GoldenRun.Machine
