import GoldenRun.Machine.Utility.Format
import GoldenRun.Machine.Utility.Options

/-!
# Characters for characters

`tr` writes its input with characters in the place of others, without some, or with runs made single.
Its operands are *sets*: lists of items, of which each stands for characters.

* A set is read once its escapes are: an escaped character is never part of a construct.
* In a set of images, `[c*]` fills up to the length of the other set, and the last character counts for
  all that are still missing.
* `[:upper:]` and `[:lower:]` stand for each other only at the same place of both sets.
-/

namespace GoldenRun.Machine

/-! ## 1. Sets -/

/-- An item of a set. -/
inductive SetItem where
  | char (c : Char)
  | range (low high : Char)
  /-- The members of a named class. -/
  | charClass (name : String)
  /-- All characters equal to one. -/
  | equivalent (c : Char)
  /-- A character so many times. -/
  | repeated (c : Char) (count : Nat)
  /-- A character as often as is needed. -/
  | filling (c : Char)
  deriving DecidableEq, Repr

/-- A character of a set, and whether it was escaped. -/
abbrev SetChar := Char × Bool

/-- All characters. -/
def allChars : List Char :=
  (List.range 256).map Char.ofNat

/-- The members of a named class; there is none of another name. -/
def classMembers? (name : String) : Option (List Char) :=
  let ascii (p : Char → Bool) := some (((List.range 128).map Char.ofNat).filter p)
  let isBlank (c : Char) := c = ' ' || c = '\t'
  let isGraph (c : Char) : Bool := 33 ≤ c.toNat && c.toNat ≤ 126
  match name with
  | "upper" => ascii Char.isUpper
  | "lower" => ascii Char.isLower
  | "alpha" => ascii Char.isAlpha
  | "digit" => ascii Char.isDigit
  | "alnum" => ascii Char.isAlphanum
  | "xdigit" => ascii fun c => (hex? c).isSome
  | "space" => ascii fun c => c = ' ' || (9 ≤ c.toNat && c.toNat ≤ 13)
  | "blank" => ascii isBlank
  | "punct" => ascii fun c => isGraph c && !c.isAlphanum
  | "graph" => ascii isGraph
  | "print" => ascii fun c => isGraph c || c = ' '
  | "cntrl" => ascii fun c => c.toNat < 32 || c.toNat = 127
  | _ => none

/-- The characters that an item stands for. -/
def SetItem.chars : SetItem → List Char
  | char c | equivalent c => [c]
  | range low high => (List.range (high.toNat + 1 - low.toNat)).map fun i => Char.ofNat (low.toNat + i)
  | charClass name => (classMembers? name).getD []
  | repeated c count => List.replicate count c
  | filling _ => []

/-- The characters of a set behind its escapes, and whether a lone backslash ends it. `fuel` covers its
    length. -/
def unescapeSet : (fuel : Nat) → List Char → List SetChar × Bool
  | 0, _ | _, [] => ([], false)
  | _ + 1, ['\\'] => ([('\\', false)], true)
  | fuel + 1, '\\' :: c :: cs =>
    let (char, rest) : Char × List Char :=
      if (octal? c).isSome then
        let (n, rest) := takeDigits octal? 8 3 0 (c :: cs)
        if n < 256 then (Char.ofNat n, rest)
        else (Char.ofNat (n / 8), cs.drop 1)
      else
        match c with
        | 'a' | 'b' | 'f' | 'n' | 'r' | 't' | 'v' => ((escaped? c).getD c, cs)
        | c => (c, cs)
    let (set, warned) := unescapeSet fuel rest
    ((char, true) :: set, warned)
  | fuel + 1, c :: cs =>
    let (set, warned) := unescapeSet fuel cs
    ((c, false) :: set, warned)

/-- The text in front of an unescaped delimiter and bracket, and what is behind them. -/
def untilClosing (delimiter : Char) : List SetChar → Option (List Char × List SetChar)
  | a :: b :: rest =>
    if a = (delimiter, false) && b = (']', false) then some ([], rest)
    else (untilClosing delimiter (b :: rest)).map fun (text, rest) => (a.1 :: text, rest)
  | _ => none

/-- A star, digits and a bracket. -/
def isStarred : List SetChar → Bool
  | ('*', false) :: rest => (rest.dropWhile (·.1.isDigit)).head? = some (']', false)
  | _ => false

/-- The number of times of a repeated character, octal behind a zero. -/
def repeatCount? (digits : List Char) : Option Nat :=
  match digits with
  | '0' :: _ => if digits.all (octal? · |>.isSome) then some (takeDigits octal? 8 digits.length 0 digits).1
    else none
  | _ => decimal? (String.ofList digits)

/-- A repeated character behind its opening bracket, and what follows it, if there is one. -/
def readRepeat : List SetChar → Except String (Option (SetItem × List SetChar))
  | (c, _) :: ('*', false) :: rest =>
    let digits := rest.takeWhile fun d => !d.2 && d.1 != ']'
    match rest.drop digits.length with
    | (']', false) :: behind =>
      if digits.isEmpty then .ok (some (.filling c, behind))
      else
        match repeatCount? (digits.map Prod.fst) with
        | some 0 => .ok (some (.filling c, behind))
        | some count => .ok (some (.repeated c count, behind))
        | none =>
          .error ("invalid repeat count " ++ quotedWord (String.ofList (digits.map Prod.fst)) ++
            " in [c*n] construct")
    | _ => .ok none
  | _ => .ok none

/-- A class or an equivalence between brackets and delimiters. -/
def readNamed (delimiter : Char) (name : List Char) : Except String SetItem :=
  match delimiter, name with
  | ':', [] => .error "missing character class name '[::]'"
  | _, [] => .error "missing equivalence class character '[==]'"
  | ':', name =>
    if (classMembers? (String.ofList name)).isSome then .ok (.charClass (String.ofList name))
    else .error ("invalid character class " ++ quotedWord (String.ofList name))
  | _, [c] => .ok (.equivalent c)
  | _, name =>
    .error (String.ofList name ++ ": equivalence class operand must be a single character")

/-- A construct behind an opening bracket, and what follows it, if there is one. -/
def readBracket (rest : List SetChar) : Except String (Option (SetItem × List SetChar)) :=
  match rest with
  | (delimiter, false) :: inner =>
    if delimiter = ':' || delimiter = '=' then
      match untilClosing delimiter inner with
      | some (name, behind) =>
        match readNamed delimiter name with
        | .ok item => .ok (some (item, behind))
        | .error fault => if !name.isEmpty && isStarred inner then readRepeat rest else .error fault
      | none => readRepeat rest
    else readRepeat rest
  | rest => readRepeat rest

/-- A character in a message about a range. -/
def rangeEnd (c : Char) : List Char :=
  if c = '\\' then ['\\', '\\']
  else if isPrinted c then [c]
  else '\\' :: [c.toNat / 64, c.toNat / 8 % 8, c.toNat % 8].map fun d => Char.ofNat (d + 48)

/-- The items of a set. `fuel` covers its length. -/
def readItems : (fuel : Nat) → List SetChar → Except String (List SetItem)
  | 0, _ | _, [] => .ok []
  | fuel + 1, a :: rest =>
    if rest.length < 2 then .ok ((a :: rest).map fun c => .char c.1)
    else do
      match ← if a = ('[', false) then readBracket rest else .ok none with
      | some (item, behind) => return item :: (← readItems fuel behind)
      | none =>
        match rest with
        | ('-', false) :: b :: behind =>
          if b.1 < a.1 then
            .error ("range-endpoints of '" ++ String.ofList (rangeEnd a.1 ++ '-' :: rangeEnd b.1) ++
              "' are in reverse collating sequence order")
          else return .range a.1 b.1 :: (← readItems fuel behind)
        | _ => return .char a.1 :: (← readItems fuel rest)

/-- A set as it is written, and whether a lone backslash ends it. -/
def readSet (text : String) : Except String (List SetItem × Bool) := do
  let (chars, warned) := unescapeSet (text.length + 1) text.toList
  return (← readItems (chars.length + 1) chars, warned)

/-! ## 2. Pairs of sets -/

/-- The two classes that may stand for each other. -/
inductive LetterCase where
  | upper
  | lower
  deriving DecidableEq, Repr

/-- The case that an item stands for, if it is one of the two classes. -/
def SetItem.case? : SetItem → Option LetterCase
  | charClass "upper" => some .upper
  | charClass "lower" => some .lower
  | _ => none

/-- What is still to be taken of a set: stretches of characters, the first one perhaps begun. -/
structure SetCursor where
  begun : Bool := false
  stretches : List (Option LetterCase × List Char)

namespace SetCursor

/-- A set before anything is taken. -/
def ofItems (items : List SetItem) : SetCursor :=
  { stretches := (items.map fun item => (item.case?, item.chars)).filter (!·.2.isEmpty) }

/-- The next character and the case of its stretch, and the rest of the set. -/
def next : SetCursor → Option (Char × Option LetterCase) × SetCursor
  | ⟨_, (letters, c :: cs) :: rest⟩ =>
    (some (c, letters), if cs.isEmpty then ⟨false, rest⟩ else ⟨true, (letters, cs) :: rest⟩)
  | cursor => (none, cursor)

/-- The set behind the stretch that has begun. -/
def skip (cursor : SetCursor) : SetCursor := ⟨false, cursor.stretches.drop 1⟩

end SetCursor

/-- The case of the next character taken, if any. -/
def takenCase (taken : Option (Char × Option LetterCase)) : Option LetterCase :=
  taken.bind Prod.snd

/-- Characters and their images, taken from both sets in step; a stretch of one case counts for all of
    it. `fuel` covers the shorter set. -/
def imagePairs : (fuel : Nat) → SetCursor → SetCursor → List (Char × Char)
  | 0, _, _ => []
  | fuel + 1, first, second =>
    let (c, first) := first.next
    let (d, second) := second.next
    let letters := (List.range 26).map fun i => (Char.ofNat (97 + i), Char.ofNat (65 + i))
    match takenCase c, takenCase d, c, d with
    | some .lower, some .upper, _, _ => letters ++ imagePairs fuel first.skip second.skip
    | some .upper, some .lower, _, _ =>
      letters.map Prod.swap ++ imagePairs fuel first.skip second.skip
    | _, some _, some (c, _), some (d, _) => (c, d) :: imagePairs fuel first.skip second.skip
    | _, none, some (c, _), some (d, _) => (c, d) :: imagePairs fuel first second
    | _, _, _, _ => []

/-- How much the cases of two sets take up more than one place each; or nothing if a case in the second
    set begins where none begins in the first. `fuel` covers the shorter set. -/
def alignedCases : (fuel : Nat) → (surplus : Nat) → SetCursor → SetCursor → Option Nat
  | 0, surplus, _, _ => some surplus
  | fuel + 1, surplus, first, second =>
    let (c, first') := first.next
    let (d, second') := second.next
    if (takenCase d).isSome && !second.begun && ((takenCase c).isNone || first.begun) then none
    else if c.isNone || d.isNone then some surplus
    else if (takenCase d).isSome then alignedCases fuel (surplus + 25) first'.skip second'.skip
    else alignedCases fuel surplus first' second'

/-- The number of characters that items stand for. -/
def setLength (items : List SetItem) : Nat :=
  (items.flatMap SetItem.chars).length

/-- Characters that are not in a set. -/
def othersThan (chars : List Char) : List Char :=
  allChars.filter (!chars.contains ·)

/-- How the sets are to be used. -/
structure SetUse where
  complement : Bool := false
  delete : Bool := false
  squeeze : Bool := false
  truncate : Bool := false
  deriving DecidableEq, Repr

/-- The set of images made as long as the other set, or why it cannot be. -/
def completeImages (use : SetUse) (first second : List SetItem) : Except String (List SetItem) := do
  let chars := first.flatMap SetItem.chars
  let length := if use.complement then (othersThan chars).length else chars.length
  let fillings := second.countP fun item => match item with
    | .filling _ => true
    | _ => false
  let second := second.map fun item => match item with
    | .filling c => if fillings = 1 then .repeated c (length - setLength second) else item
    | _ => item
  let hasClass (items : List SetItem) := items.any fun item => match item with
    | .charClass _ => true
    | _ => false
  if 1 < fillings then .error "only one [c*] repeat construct may appear in string2"
  if second.any fun item => match item with
      | .equivalent _ => true
      | _ => false then
    .error "[=c=] expressions may not appear in string2 when translating"
  if second.any fun item => match item with
      | .charClass _ => item.case?.isNone
      | _ => false then
    .error ("when translating, the only character classes that may appear in\n" ++
      "string2 are 'upper' and 'lower'")
  let surplus ←
    if use.complement || !hasClass second then .ok 0
    else
      match alignedCases (length + setLength second + 1) 0 (.ofItems first) (.ofItems second) with
      | some surplus => .ok surplus
      | none => .error "misaligned [:upper:] and/or [:lower:] construct"
  let missing := (length - surplus) - (setLength second - surplus)
  let complete ←
    if missing = 0 || use.truncate then .ok second
    else
      match setLength second, second.getLast? with
      | 0, _ | _, none => .error "when not truncating set1, string2 must be non-empty"
      | _, some (.charClass _) =>
        .error ("when translating with string1 longer than string2,\n" ++
          "the latter string must not end with a character class")
      | _, some item =>
        .ok (second ++ (item.chars.getLast?.map fun c => .repeated c missing).toList)
  let images := complete.flatMap SetItem.chars
  if use.complement && hasClass first &&
      !(images.length = length && images.all (some · == images.head?)) then
    .error ("when translating with complemented character classes,\n" ++
      "string2 must map all characters in the domain to one")
  return complete

/-! ## 3. The utility -/

/-- Runs of one character that the set holds, made single. -/
def squeezed (set : Array Bool) : List Char → List Char
  | [] => []
  | [c] => [c]
  | a :: b :: rest =>
    if a = b && set.getD a.toNat false then squeezed set (b :: rest) else a :: squeezed set (b :: rest)

/-- A set as a table. -/
def setTable (chars : List Char) : Array Bool :=
  chars.foldl (fun table c => table.setIfInBounds c.toNat true) (Array.replicate 256 false)

/-- Images as a table; of two for one character the later counts. -/
def imageTable (pairs : List (Char × Char)) : Array Char :=
  pairs.foldl (fun table (c, d) => table.setIfInBounds c.toNat d) allChars.toArray

/-- What becomes of the input, or why the sets are at fault. -/
def charChange (use : SetUse) (first : List SetItem) :
    (second : Option (List SetItem)) → Except String (List Char → List Char)
  | second => do
    let chars := first.flatMap SetItem.chars
    let members := if use.complement then othersThan chars else chars
    let isFilling (item : SetItem) := match item with
      | .filling _ => true
      | _ => false
    if first.any isFilling then .error "the [c*] repeat construct may not appear in string1"
    let without (cs : List Char) :=
      let table := setTable members
      cs.filter fun c => !table.getD c.toNat false
    match second with
    | none => return if use.delete then without else squeezed (setTable members)
    | some second =>
      if use.delete then
        if second.any isFilling then
          .error "the [c*] construct may appear in string2 only when translating"
        return fun cs => squeezed (setTable (second.flatMap SetItem.chars)) (without cs)
      else
        let second ← completeImages use first second
        let images := second.flatMap SetItem.chars
        let pairs :=
          if use.complement then members.zip images
          else imagePairs (chars.length + 1) (.ofItems first) (.ofItems second)
        let table := imageTable pairs
        let change (cs : List Char) := cs.map fun c => table.getD c.toNat c
        return if use.squeeze then squeezed (setTable images) ∘ change else change

/-- The options of `tr`. -/
def charOptions : List OptionKind :=
  [flag 'c' ["complement"], flag 'C' [], flag 'd' ["delete"], flag 's' ["squeeze-repeats"],
    flag 't' ["truncate-set1"]]

/-- What is wrong with the number of sets, if anything is. `last` is the last argument. -/
def setFault? (use : SetUse) (last : String) (operands : List String) : Option String :=
  let least := if use.delete = use.squeeze then 2 else 1
  let most := if use.delete && !use.squeeze then 1 else 2
  if operands.length < least then
    some <|
      if operands.isEmpty then "missing operand"
      else "missing operand after " ++ quotedWord last ++ "\n" ++
        (if use.squeeze then "Two strings must be given when both deleting and squeezing repeats."
         else "Two strings must be given when translating.")
  else if most < operands.length then
    some ("extra operand " ++ quotedWord ((operands.drop most).headD "") ++
      if operands.length = 2 then
        "\nOnly one string may be given when deleting without squeezing repeats."
      else "")
  else none

/-- The sets that operands are, and how many of them end with a lone backslash. -/
def readSets : List String → Except String (List (List SetItem) × Nat)
  | [] => .ok ([], 0)
  | text :: rest => do
    let (items, warned) ← readSet text
    let (sets, warnings) ← readSets rest
    return (items :: sets, warnings + if warned then 1 else 0)

/-- The input with characters replaced, left out or made single. -/
def tr : Utility := fun errand =>
  let arguments := readOptions charOptions false errand.args
  let use : SetUse := {
    complement := arguments.has "c" || arguments.has "C"
    delete := arguments.has "d"
    squeeze := arguments.has "s"
    truncate := arguments.has "t" }
  match arguments.fault.map OptionFault.message <|>
    setFault? use (errand.args.getLastD "") arguments.operands with
  | some fault => errand.misused fault
  | none =>
    let change := do
      let (sets, warnings) ← readSets arguments.operands
      let change ← charChange use (sets.headD []) (sets.drop 1).head?
      return (change, warnings)
    match change with
    | .error fault => errand.complain 1 (errand.line fault)
    | .ok (change, warnings) =>
      let warning := errand.line "warning: an unescaped backslash at end of string is not portable"
      let warnings := (List.replicate warnings warning).map fun text =>
        (Outlet.err, ByteText.toBytes text)
      let changed (content : Bytes) : Bytes :=
        (change (content.map ByteText.charOf)).map ByteText.byteOf
      match errand.input with
      | .cycle pattern => errand.pour (changed pattern)
      | input =>
        match input.all? with
        | none => errand.hang
        | some content =>
          { errand.finish 0 (warnings ++ [(.out, changed content)]) with unread := .bytes [] }

end GoldenRun.Machine
