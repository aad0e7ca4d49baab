import GoldenRun.Machine.Utility.Condition.Inner

/-!
# Conditions of a program

The program `test` reads its arguments by their number where there are few of them, and as an expression
where there are more. Readers take words from the left and leave the words behind.

* `-l` in front of a word that is compared as a number stands for the length of the word.
* A fault is told at once, so what is in front of it was read already.
-/

namespace GoldenRun.Machine

namespace Expression

/-- What a reader leaves: the value and the words behind, or what is at fault. -/
abbrev Answer := Except String (Bool × List String)

/-- The operators with two operands. -/
def isDyadic (word : String) : Bool :=
  ["=", "==", "!=", "-nt", "-ot", "-ef", "-eq", "-ne", "-lt", "-le", "-gt", "-ge"].contains word

/-- A word that has the form of an operator with one operand. -/
def isMonadic (word : String) : Bool :=
  match word.toList with
  | ['-', _] => true
  | _ => false

/-- A whole number of any size in decimal digits, blanks around it or not. -/
def number (text : String) : Except String Int :=
  let isBlank (c : Char) := c = ' ' || (9 ≤ c.toNat && c.toNat ≤ 13)
  let cs := text.toList.dropWhile isBlank
  let (negative, cs) : Bool × List Char :=
    match cs with
    | '-' :: rest => (true, rest)
    | '+' :: rest => (false, rest)
    | cs => (false, cs)
  match decimal? (String.ofList (cs.reverse.dropWhile isBlank).reverse) with
  | some n => .ok (if negative then -(n : Int) else n)
  | none => .error ("invalid integer " ++ quotedWord text)

/-- What all readers know. -/
structure Ground where
  tree : FileTree
  /-- The last of all words. -/
  last : String
  /-- All words are in brackets. -/
  inBrackets : Bool := false

variable (ground : Ground)

/-- A word is missing. -/
def beyond {α : Type} : Except String α :=
  .error ("missing argument after " ++ quotedWord ground.last)

/-- The next word, if there is one. -/
def next : List String → Except String (String × List String)
  | [] => beyond ground
  | word :: rest => .ok (word, rest)

/-- A condition with one operand. -/
def monadic (operator : String) (rest : List String) : Answer := do
  match operator.toList with
  | ['-', letter] =>
    if letter = 'n' || letter = 'z' then
      let (word, rest) ← next ground rest
      return (word.isEmpty == (letter = 'z'), rest)
    else if letter = 't' then
      let (word, rest) ← next ground rest
      let _ ← number word
      return (false, rest)
    else if letter = 'N' then
      let (_, rest) ← next ground rest
      return (false, rest)
    else
      match fileProperty? ground.tree letter "" with
      | none => .error (quotedWord operator ++ ": unary operator expected")
      | some _ =>
        let (word, rest) ← next ground rest
        return ((fileProperty? ground.tree letter word).getD false, rest)
  | _ => beyond ground

/-- A condition with two operands, either of which may be a length. -/
def dyadic (leftIsLength : Bool) (a operator : String) (behind : List String) : Answer := do
  let (rightIsLength, behind) : Bool × List String :=
    match behind with
    | "-l" :: b :: rest => (true, b :: rest)
    | behind => (false, behind)
  let b := behind.headD ""
  let rest := behind.drop 1
  let operand (isLength : Bool) (word : String) : Except String Int :=
    if isLength then .ok word.length else number word
  let refuseLengths : Except String Unit :=
    if leftIsLength || rightIsLength then .error (operator ++ " does not accept -l") else .ok ()
  match numericOrder? operator with
  | some holds => return (holds (← operand leftIsLength a) (← operand rightIsLength b), rest)
  | none =>
    match operator with
    | "-nt" =>
      refuseLengths
      return ((modified? ground.tree a).any fun x => (modified? ground.tree b).all (· < x), rest)
    | "-ot" =>
      refuseLengths
      return ((modified? ground.tree b).any fun y => (modified? ground.tree a).all (· < y), rest)
    | "-ef" =>
      refuseLengths
      return (isSameNode ground.tree a b, rest)
    | _ =>
      let left := if rightIsLength then operator else a
      return ((left == b) != (operator = "!="), rest)

/-- A single word. -/
def one : List String → Answer
  | [] => .ok (false, [])
  | word :: rest => .ok (!word.isEmpty, rest)

/-- Two words. -/
def two : List String → Answer
  | "!" :: rest => (one rest).map fun (value, rest) => (!value, rest)
  | word :: rest => if isMonadic word then monadic ground word rest else beyond ground
  | [] => beyond ground

/-- `!`, which is followed by something, and a reader of it. -/
def negated (rest : List String) (reader : List String → Answer) : Answer :=
  if rest.isEmpty then beyond ground else (reader rest).map fun (value, rest) => (!value, rest)

/-- The number of words in brackets, of which the first is one. Of more than four, all that are left. -/
def bracketed (words : List String) : Nat :=
  let inside := ((words.drop 1).takeWhile (· != ")")).length + 1
  if 4 < inside then words.length else inside

mutual

/-- So many words, or more. `fuel` covers the words, as in all readers. -/
def counted : (fuel : Nat) → (count : Nat) → List String → Answer
  | 0, _, _ => beyond ground
  | fuel + 1, count, words =>
    match count, words with
    | 1, words => one words
    | 2, words => two ground words
    | 3, words => three fuel words
    | 4, "!" :: rest => negated ground rest (three fuel)
    | 4, "(" :: a :: b :: ")" :: _ =>
      (two ground (a :: b :: words.drop 3)).map fun (value, rest) => (value, rest.drop 1)
    | _, words => expression fuel words

/-- Three words. -/
def three : (fuel : Nat) → List String → Answer
  | 0, _ => beyond ground
  | fuel + 1, a :: operator :: rest =>
    if isDyadic operator then dyadic ground false a operator rest
    else if a = "!" then negated ground (operator :: rest) (two ground)
    else if a = "(" && rest.head? = some ")" then
      .ok (!operator.isEmpty, rest.drop 1)
    else if operator = "-a" || operator = "-o" then
      expression fuel (a :: operator :: rest)
    else .error (quotedWord operator ++ ": binary operator expected")
  | _ + 1, _ => beyond ground

/-- Conditions with `-o` between them. -/
def expression : (fuel : Nat) → List String → Answer
  | 0, _ => beyond ground
  | fuel + 1, words => do
    let (a, rest) ← allOf fuel words
    match rest with
    | "-o" :: rest =>
      let (b, rest) ← expression fuel rest
      return (a || b, rest)
    | _ => return (a, rest)

/-- Conditions with `-a` between them. -/
def allOf : (fuel : Nat) → List String → Answer
  | 0, _ => beyond ground
  | fuel + 1, words => do
    let (a, rest) ← term fuel words
    match rest with
    | "-a" :: rest =>
      let (b, rest) ← allOf fuel rest
      return (a && b, rest)
    | _ => return (a, rest)

/-- A single condition. -/
def term : (fuel : Nat) → List String → Answer
  | 0, _ | _, [] => beyond ground
  | fuel + 1, "!" :: rest => negated ground rest (term fuel)
  | fuel + 1, word :: rest =>
    if word = "(" then
      if rest.isEmpty then beyond ground
      else do
        let (value, rest) ← counted fuel (bracketed rest) rest
        match rest with
        | [] =>
          .error (quotedWord ")" ++ " expected" ++ if ground.inBrackets then ", found ']'" else "")
        | ")" :: rest => return (value, rest)
        | word :: _ => .error (quotedWord ")" ++ " expected, found " ++ quotedWord word)
    else
      match word, rest with
      | "-l", a :: operator :: b :: behind =>
        if isDyadic operator then dyadic ground true a operator (b :: behind)
        else plain word rest
      | _, _ => plain word rest

/-- A condition that begins with a word. -/
def plain (word : String) (rest : List String) : Answer :=
  match rest with
  | operator :: b :: behind =>
    if isDyadic operator then dyadic ground false word operator (b :: behind)
    else if isMonadic word then monadic ground word rest
    else .ok (!word.isEmpty, rest)
  | _ => if isMonadic word then monadic ground word rest else .ok (!word.isEmpty, rest)

end

/-- Whether the condition holds that arguments state. -/
def ofArgs (tree : FileTree) (inBrackets : Bool) (args : List String) : Except String Bool := do
  match args.getLast? with
  | none => return false
  | some last =>
    let ground : Ground := { tree, last, inBrackets }
    let (value, rest) ← counted ground (4 * args.length + 8) args.length args
    match rest with
    | [] => return value
    | word :: _ => .error ("extra argument " ++ quotedWord word)

end Expression

/-- Whether the condition holds that words state. -/
def Errand.testWords (errand : Errand) (inBrackets : Bool) (words : List String) : Effort :=
  match Expression.ofArgs errand.files inBrackets words with
  | .ok true => errand.finish 0
  | .ok false => errand.finish 1
  | .error fault => errand.complain 2 (errand.line fault)

/-- Whether a condition holds. -/
def test : Utility := fun errand => errand.testWords false errand.args

/-- Whether a condition in brackets holds. -/
def bracket : Utility := fun errand =>
  if errand.args.getLast? = some "]" then errand.testWords true errand.args.dropLast
  else errand.complain 2 (errand.line "missing ']'")

end GoldenRun.Machine
