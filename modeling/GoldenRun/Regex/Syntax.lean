import GoldenRun.Regex.Basic

/-!
# How regular expressions are written

In an *extended* dialect `(`, `)`, `|`, `+`, `?` and `{` are operators, and with a backslash in front they
stand for themselves. In a *basic* one it is the other way round, and `*`, `^` and `$` are ordinary where
they cannot be operators. Both come in a strict form and in a *loose* one, where a repetition of nothing is
ordinary or read past. The *modern* dialect is strict and extended; it has `\d` and groups `(?:…)` that are
not numbered, and a `?` behind a repetition does not matter for what is matched as a whole.

A text is cut into tokens, and an expression is read from the tokens: choices of sequences of pieces, a
piece being an atom with repetitions behind it. A place is never repeated, and a group can be referred to
only behind its end.
-/

namespace GoldenRun

namespace Regex

/-! ## 1. Tokens -/

/-- How operators are written. -/
inductive Dialect where
  | basic
  | looseBasic
  | extended
  | looseExtended
  | modern
  deriving DecidableEq, Repr

/-- Operators are written with a backslash. -/
def Dialect.isBasic (dialect : Dialect) : Bool :=
  dialect = .basic || dialect = .looseBasic

/-- What is wrong with an expression. -/
inductive Fault where
  | openBracket
  | openGroup
  | closedGroup
  | openInterval
  | badInterval
  | nothingToRepeat
  | trailingBackslash
  | badReference
  | badRange
  | badClass
  | badCollation
  /-- Nothing is behind an opening bracket. -/
  | badPattern
  | tooBig
  deriving DecidableEq, Repr

/-- What is said about a fault. -/
def Fault.message : Fault → String
  | openBracket => "Unmatched [, [^, [:, [., or [="
  | openGroup => "Unmatched ( or \\("
  | closedGroup => "Unmatched ) or \\)"
  | openInterval => "Unmatched \\\x7b"
  | badInterval => "Invalid content of \\\x7b\\\x7d"
  | nothingToRepeat => "Invalid preceding regular expression"
  | trailingBackslash => "Trailing backslash"
  | badReference => "Invalid back reference"
  | badRange => "Invalid range end"
  | badClass => "Invalid character class name"
  | badCollation => "Invalid collation character"
  | badPattern => "Invalid regular expression"
  | tooBig => "Regular expression too big"

/-- A token of an expression. -/
inductive Token where
  | char (set : CharSet)
  | place (place : Place)
  | backref (number : Nat)
  | opening
  | closing
  | bar
  /-- A repetition, and how it is written. -/
  | times (least : Nat) (most : Option Nat) (written : List Char)
  /-- A repetition that is written wrongly; the last token. -/
  | wrongTimes (fault : Fault)
  /-- Something else that is written wrongly; the last token. -/
  | wrong (fault : Fault)
  deriving DecidableEq, Repr

/-- A text up to the given two characters, and what is behind them. -/
def upToPair (a b : Char) : List Char → Option (List Char × List Char)
  | [] => none
  | [_] => none
  | x :: y :: rest =>
    if x = a && y = b then some ([], rest)
    else (upToPair a b (y :: rest)).map fun (text, rest) => (x :: text, rest)

/-- One end of a range in brackets. -/
def readBracketChar : List Char → Option (Char × List Char)
  | '[' :: '.' :: rest =>
    match upToPair '.' ']' rest with
    | some ([c], rest) => some (c, rest)
    | _ => none
  | c :: rest => some (c, rest)
  | [] => none

/-- What stands in brackets, up to the closing one. `isFirst` says whether a closing bracket would be an
    ordinary character. `fuel` covers the text. -/
def readBracket (isFirst : Bool) : (fuel : Nat) → List Char → Except Fault (List (Nat × Nat) × List Char)
  | 0, _ | _, [] => .error .openBracket
  | fuel + 1, c :: cs =>
    if c = ']' && !isFirst then .ok ([], cs)
    else
      let more (ranges : List (Nat × Nat)) (rest : List Char) :
          Except Fault (List (Nat × Nat) × List Char) :=
        (readBracket false fuel rest).map fun (others, rest) => (ranges ++ others, rest)
      match c, cs with
      | '[', ':' :: rest =>
        match upToPair ':' ']' rest with
        | none => .error .openBracket
        | some (name, rest) =>
          match CharSet.class? (String.ofList name) with
          | some ranges => more ranges rest
          | none => .error .badClass
      | '[', '=' :: rest =>
        match upToPair '=' ']' rest with
        | some ([c], rest) => more [(c.toNat, c.toNat)] rest
        | _ => .error .openBracket
      | _, _ =>
        match readBracketChar (c :: cs) with
        | none => .error .openBracket
        | some (low, '-' :: next :: rest) =>
          if next = ']' then more [(low.toNat, low.toNat)] ('-' :: next :: rest)
          else
            match readBracketChar (next :: rest) with
            | none => .error .openBracket
            | some (high, rest) =>
              if high.toNat < low.toNat then .error .badRange
              else more [(low.toNat, high.toNat)] rest
        | some (low, rest) => more [(low.toNat, low.toNat)] rest

/-- A text in brackets is the name of a class with its colons, but without brackets of its own. -/
def isClassName (inside : List Char) : Bool :=
  inside.head? = some ':' && inside.getLast? = some ':' && inside.any (· != ':') &&
    inside.all fun c => c != '-' && c != '['

/-- The name of a class stands in single brackets somewhere in a text. `fuel` covers the text. -/
def hasBareClass : (fuel : Nat) → List Char → Bool
  | 0, _ | _, [] => false
  | fuel + 1, '\\' :: cs => hasBareClass fuel (cs.drop 1)
  | fuel + 1, '[' :: cs =>
    let cs := if cs.head? = some '^' then cs.drop 1 else cs
    match readBracket true (cs.length + 1) cs with
    | .error _ => false
    | .ok (_, rest) => isClassName (cs.take (cs.length - rest.length - 1)) || hasBareClass fuel rest
  | fuel + 1, _ :: cs => hasBareClass fuel cs

/-- The greatest number of repetitions. -/
def maxTimes : Nat := 32767

/-- What a number in an interval is. -/
inductive Bound where
  | missing
  | number (n : Nat)
  /-- Something else than a number. -/
  | wrong
  deriving DecidableEq, Repr

/-- What is behind a number in an interval. -/
inductive BoundEnd where
  | comma
  | brace
  | nothing
  deriving DecidableEq, Repr

/-- A number in an interval behind what was read of it, up to a comma or the closing brace. -/
def readBound (isBasic : Bool) : (soFar : Bound) → List Char → Bound × BoundEnd × List Char
  | _, [] => (.wrong, .nothing, [])
  | soFar, ',' :: rest => (soFar, .comma, rest)
  | soFar, '\\' :: c :: rest =>
    if isBasic && c = '\x7d' then (soFar, .brace, rest) else readBound isBasic .wrong rest
  | soFar, c :: rest =>
    if !isBasic && c = '\x7d' then (soFar, .brace, rest)
    else
      let next : Bound :=
        match soFar with
        | .wrong => .wrong
        | .missing => if c.isDigit then .number (c.toNat - 48) else .wrong
        | .number n => if c.isDigit then .number (n * 10 + (c.toNat - 48)) else .wrong
      readBound isBasic next rest

/-- An interval behind its opening brace: the least and the greatest number, and what is behind the closing
    brace. `none` stands for something that is no interval but may be ordinary text. -/
def readInterval (dialect : Dialect) (cs : List Char) :
    Except Fault (Option (Nat × Option Nat × List Char)) :=
  let isBasic := dialect.isBasic
  let wrong (ending : BoundEnd) : Except Fault (Option (Nat × Option Nat × List Char)) :=
    if dialect = .looseExtended then .ok none
    else .error (if ending = .nothing then .openInterval else .badInterval)
  let close (least : Nat) (most : Option Nat) (rest : List Char) :
      Except Fault (Option (Nat × Option Nat × List Char)) :=
    if most.any (· < least) then .error .badInterval
    else if maxTimes < most.getD least then .error .tooBig
    else .ok (some (least, most, rest))
  match readBound isBasic .missing cs with
  | (.missing, .brace, _) => .error .badInterval
  | (.wrong, ending, _) => wrong ending
  | (.number n, .brace, rest) => close n (some n) rest
  | (least, _, rest) =>
    let least := match least with
      | .number n => n
      | _ => 0
    match readBound isBasic .missing rest with
    | (.wrong, ending, _) => wrong ending
    | (.number n, .brace, rest) => close least (some n) rest
    | (.missing, .brace, rest) => close least none rest
    | (_, _, _) => .error .badInterval

/-- What a backslash and a letter mean in both dialects, if they mean anything special. -/
def escapeToken? : Char → Option Token
  | 'w' => some (.char { ranges := CharSet.wordRanges })
  | 'W' => some (.char { ranges := CharSet.wordRanges, negated := true })
  | 's' => some (.char { ranges := CharSet.spaceRanges })
  | 'S' => some (.char { ranges := CharSet.spaceRanges, negated := true })
  | 'b' => some (.place .wordEdge)
  | 'B' => some (.place .wordInside)
  | '<' => some (.place .wordStart)
  | '>' => some (.place .wordEnd)
  | '\x60' => some (.place .textStart)
  | '\x27' => some (.place .textEnd)
  | c => if '1' ≤ c && c ≤ '9' then some (.backref (c.toNat - 48)) else none

/-- What a backslash and a character mean in the modern dialect. -/
def modernEscape (c : Char) : Except Fault Token :=
  match c with
  | 'd' => .ok (.char { ranges := [(48, 57)] })
  | 'D' => .ok (.char { ranges := [(48, 57)], negated := true })
  | 'n' => .ok (.char (CharSet.single '\n'))
  | 't' => .ok (.char (CharSet.single '\t'))
  | 'r' => .ok (.char (CharSet.single '\r'))
  | 'A' => .ok (.place .textStart)
  | 'z' => .ok (.place .textEnd)
  | '\x60' | '\x27' => .error .badReference
  | c =>
    match escapeToken? c with
    | some (.backref _) => .error .badReference
    | some token => .ok token
    | none => if c.isAlphanum then .error .badReference else .ok (.char (CharSet.single c))

/-- An operator other than an interval. -/
def operator? : Char → Option Token
  | '(' => some .opening
  | ')' => some .closing
  | '|' => some .bar
  | '+' => some (.times 1 none ['+'])
  | '?' => some (.times 0 (some 1) ['?'])
  | _ => none

/-- A place where an expression begins: `last` is the token in front of it. -/
def isBeginning (last : Option Token) : Bool :=
  match last with
  | none | some .opening | some .bar => true
  | _ => false

/-- The tokens of a text behind the token `last`, up to what is written wrongly. `fuel` covers the text. -/
def tokens (dialect : Dialect) (folded : Bool) :
    (fuel : Nat) → (last : Option Token) → List Char → List Token
  | 0, _, _ | _, _, [] => []
  | fuel + 1, last, c :: cs =>
    let put (token : Token) (rest : List Char) : List Token :=
      token :: tokens dialect folded fuel (some token) rest
    let plain (c : Char) (rest : List Char) : List Token :=
      put (.char { CharSet.single c with folded }) rest
    let interval (inside : List Char) : List Token :=
      match readInterval dialect inside with
      | .ok (some (least, most, rest)) =>
        let written := (inside.take (inside.length - rest.length)).filter (· != '\\')
        put (.times least most ('\x7b' :: written)) rest
      | .ok none => plain '\x7b' inside
      | .error fault => [.wrongTimes fault]
    let bracket (negated : Bool) (inside : List Char) : List Token :=
      match readBracket true (inside.length + 1) inside with
      | .ok (ranges, rest) => put (.char { ranges, negated, folded }) rest
      | .error fault => [.wrong fault]
    let isBasic := dialect.isBasic
    match c, cs with
    | '\\', [] => [.wrong .trailingBackslash]
    | '\\', d :: rest =>
      if dialect = .modern then
        match modernEscape d with
        | .ok token => put token rest
        | .error fault => [.wrong fault]
      else if isBasic && d = '\x7b' then interval rest
      else
        match (if isBasic then operator? d else none).or (escapeToken? d) with
        | some token => put token rest
        | none => plain d rest
    | '.', rest => put (.char .any) rest
    | '[', [] | '[', ['^'] => [.wrong .badPattern]
    | '[', '^' :: rest => bracket true rest
    | '[', rest => bracket false rest
    | '*', rest =>
      if isBasic && (isBeginning last || last = some (.place .lineStart)) then plain '*' rest
      else put (.times 0 none ['*']) rest
    | '^', rest =>
      if isBasic && !isBeginning last then plain '^' rest else put (.place .lineStart) rest
    | '$', rest =>
      let isLast := rest.isEmpty || ['\\', ')'].isPrefixOf rest || ['\\', '|'].isPrefixOf rest
      if isBasic && !isLast then plain '$' rest else put (.place .lineEnd) rest
    | '(', '?' :: ':' :: rest =>
      if dialect = .modern then put .opening rest
      else if isBasic then plain c cs
      else put .opening cs
    | '\x7b', rest =>
      if isBasic then plain c rest else interval rest
    | '?', rest =>
      let isLazy := match dialect, last with
        | .modern, some (.times _ _ _) => true
        | _, _ => false
      if isLazy then tokens dialect folded fuel last rest
      else if isBasic then plain '?' rest
      else put (.times 0 (some 1) ['?']) rest
    | c, rest =>
      match if isBasic then none else operator? c with
      | some token => put token rest
      | none => plain c rest

/-! ## 2. Expressions -/

/-- What is left to read, how many groups have begun, and which have ended. -/
structure Progress where
  rest : List Token
  groups : Nat := 0
  closed : List Nat := []

/-- A piece with the repetitions behind it; in the strict basic dialect neither a star nor an interval is
    behind another repetition. -/
def repeated (dialect : Dialect) (isRepeated : Bool) (regex : Regex) :
    List Token → Except Fault (Regex × List Token)
  | .times least most written :: rest =>
    if dialect = .basic && isRepeated && written != ['+'] && written != ['?'] then .error .nothingToRepeat
    else repeated dialect true (.times regex least most) rest
  | .wrongTimes fault :: _ =>
    .error (if dialect = .basic && isRepeated then .nothingToRepeat else fault)
  | rest => .ok (regex, rest)

mutual

/-- A choice. `fuel` covers the tokens; `depth` is the number of open groups. A group that ends in one
    alternative cannot be referred to in another. -/
def readChoice (dialect : Dialect) : (fuel : Nat) → (depth : Nat) → Progress →
    Except Fault (Regex × Progress)
  | 0, _, progress => .ok (.empty, progress)
  | fuel + 1, depth, progress => do
    let closed := progress.closed
    let (first, progress) ← readSequence dialect fuel depth progress
    match progress.rest with
    | .bar :: rest =>
      let before := progress.closed
      let (second, progress) ← readChoice dialect fuel depth { progress with rest, closed }
      return (.alt first second, { progress with closed := before ++ progress.closed })
    | _ => return (first, progress)

/-- A sequence of pieces. -/
def readSequence (dialect : Dialect) : (fuel : Nat) → (depth : Nat) → Progress →
    Except Fault (Regex × Progress)
  | 0, _, progress => .ok (.empty, progress)
  | fuel + 1, depth, progress => do
    let go (atom : Regex) (progress : Progress) : Except Fault (Regex × Progress) := do
      let (piece, rest) ← repeated dialect false atom progress.rest
      let (others, progress) ← readSequence dialect fuel depth { progress with rest }
      return (if others = .empty then piece else .seq piece others, progress)
    let ordinary (text : List Char) (rest : List Token) : Except Fault (Regex × Progress) :=
      match text with
      | [] => readSequence dialect fuel depth { progress with rest }
      | c :: cs =>
        let others := cs.map fun c => Token.char (CharSet.single c)
        go (.char (CharSet.single c)) { progress with rest := others ++ rest }
    match progress.rest with
    | [] | .bar :: _ => return (.empty, progress)
    | .wrong fault :: _ => .error fault
    | .wrongTimes fault :: _ =>
      .error (if dialect = .basic || dialect = .extended then .nothingToRepeat else fault)
    | .closing :: rest =>
      if depth != 0 then return (.empty, progress)
      else if dialect = .looseExtended then ordinary [')'] rest
      else .error .closedGroup
    | .char set :: rest => go (.char set) { progress with rest }
    | .place condition :: rest =>
      if dialect = .modern then go (.place condition) { progress with rest }
      else do
        let (others, progress) ← readSequence dialect fuel depth { progress with rest }
        return (if others = .empty then .place condition else .seq (.place condition) others, progress)
    | .backref n :: rest =>
      if progress.closed.contains n then go (.backref n) { progress with rest }
      else .error .badReference
    | .times _ _ written :: rest =>
      if dialect = .extended || dialect = .modern || (dialect = .basic && written.head? = some '\x7b') then
        .error .nothingToRepeat
      else if dialect.isBasic then ordinary written rest
      else
        match written.drop 1, rest with
        | [], .closing :: rest => ordinary [')'] rest
        | text, rest => ordinary text rest
    | .opening :: rest =>
      let number := progress.groups + 1
      let (inner, progress) ← readChoice dialect fuel (depth + 1)
        { progress with rest, groups := number }
      match progress.rest with
      | .closing :: rest =>
        go (.group number inner) { progress with rest, closed := number :: progress.closed }
      | _ => .error .openGroup

end

/-- The expression with another set for every set of characters and another condition for every condition. -/
def replace (set : CharSet → CharSet) (condition : Place → Place) : Regex → Regex
  | empty => empty
  | char s => char (set s)
  | place p => place (condition p)
  | seq first second => seq (first.replace set condition) (second.replace set condition)
  | alt first second => alt (first.replace set condition) (second.replace set condition)
  | times regex least most => times (regex.replace set condition) least most
  | group number regex => group number (regex.replace set condition)
  | backref number => backref number

/-- The expression for a text that is taken as a whole: its lines neither begin nor end. -/
def acrossLines (regex : Regex) : Regex :=
  regex.replace id fun
    | .lineStart => .textStart
    | .lineEnd => .textEnd
    | other => other

/-- The expression for the lines of a text: no set that leaves characters out has the line feed. -/
def withinLines (regex : Regex) : Regex :=
  regex.replace (fun set =>
    if set.negated then { set with ranges := (10, 10) :: set.ranges } else set) id

/-- The expression that a text spells; it applies to lines or to whole texts. -/
def ofText (dialect : Dialect) (folded : Bool) (text : List Char) (byLine : Bool := false) :
    Except Fault Regex := do
  let tokens := tokens dialect folded (text.length + 1) none text
  let (regex, _) ← readChoice dialect (2 * text.length + 2) 0 { rest := tokens }
  return if byLine then regex.withinLines else regex.acrossLines

/-- The number of groups in an expression. -/
def groupCount : Regex → Nat
  | empty | char _ | place _ | backref _ => 0
  | seq a b | alt a b => groupCount a + groupCount b
  | times r _ _ => groupCount r
  | group _ r => groupCount r + 1

end Regex

end GoldenRun
