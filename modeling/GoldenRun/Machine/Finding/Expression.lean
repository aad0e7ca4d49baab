import GoldenRun.Machine.Finding.Report
import GoldenRun.Machine.Pattern
import GoldenRun.Regex.Syntax

/-!
# What is looked for

`find` goes through directories and evaluates an expression for every file: tests, actions, and operators between
them.

* `Expression` is an expression; `readPlan` reads the arguments, of which the first ones are places to begin at and
  the rest is the expression.
* `Expression.ofTokens` puts tokens together; an operator takes the more, the lower its rank is. An expression
  without an action is completed by the one that writes paths.
-/

namespace GoldenRun.Machine.Finding

/-! ## 1. Expressions -/

/-- A number that a count is compared with. -/
structure Bound where
  rule : Ordering
  value : Nat
  deriving DecidableEq, Repr

/-- The count is as the bound says. -/
def Bound.admits (bound : Bound) (count : Nat) : Bool := compare count bound.value = bound.rule

/-- The bound that a text spells: a sign in front of a number means more or less. -/
def Bound.ofText? (text : String) : Option Bound :=
  match text.toList with
  | '+' :: digits => (decimal? (String.ofList digits)).map (⟨.gt, ·⟩)
  | '-' :: digits => (decimal? (String.ofList digits)).map (⟨.lt, ·⟩)
  | digits => (decimal? (String.ofList digits)).map (⟨.eq, ·⟩)

/-- How permission bits are compared with others. -/
inductive PermissionRule where
  | exactly
  | all
  | any
  deriving DecidableEq, Repr

/-- A test. -/
inductive FindTest where
  | always (answer : Bool)
  | name (pattern : Pattern) (folded : Bool)
  | path (pattern : Pattern) (folded : Bool)
  /-- A link to a path that the pattern describes. -/
  | target (pattern : Pattern) (folded : Bool)
  | regex (regex : Regex)
  /-- The kind is one of these; `otherWay` treats links in the other way than the search does. -/
  | kind (letters : List Char) (otherWay : Bool)
  | empty
  | size (bound : Bound) (unit : Nat)
  /-- The age in units of nanoseconds; the first unit counts as 0 or as 1. -/
  | age (bound : Bound) (unit first : Nat)
  | newerThan (moment : Int)
  | permission (rule : PermissionRule) (onFile onDirectory : Nat)
  | links (bound : Bound)
  /-- The number of the owner and of the group, which is 0. -/
  | owner (bound : Bound)
  /-- It is there when links are followed, and can be carried out if that is asked for. -/
  | accessible (runs : Bool)
  | sameAs (location : Location)
  deriving Repr

/-- An action. -/
inductive FindAction where
  /-- The path is written, with a byte behind it; to a file, if one is given. -/
  | print (ending : UInt8) (target : Option String)
  | report (parts : List ReportPart) (target : Option String)
  /-- A command is started. -/
  | start (command : List String) (isInside asks : Bool)
  /-- A command is started with many paths; its number tells it from others. -/
  | collect (number : Nat) (command : List String) (isInside : Bool)
  | delete
  | prune
  | quit
  deriving Repr

/-- Without such an action paths are written. -/
def FindAction.writes : FindAction → Bool
  | prune | quit => false
  | _ => true

/-- An expression. -/
inductive Expression where
  | test (test : FindTest)
  | act (action : FindAction)
  | negated (finding : Expression)
  | both (first second : Expression)
  | either (first second : Expression)
  /-- Both are evaluated, and the last one counts. -/
  | list (first second : Expression)
  deriving Repr

/-- What has to be known of a file for a test: nothing but its path, its kind, all that is kept with it, the path
    that a link holds, or who may do what with it. -/
def FindTest.cost : FindTest → Nat
  | always _ | name _ _ | path _ _ | regex _ => 0
  | kind _ _ => 1
  | empty | size _ _ | age _ _ _ | newerThan _ | permission _ _ _ | links _ | owner _ | sameAs _ => 2
  | target _ _ => 3
  | accessible _ => 4

/-- The greatest cost of the tests of an expression; `none` if it has an action. -/
def Expression.cost? : Expression → Option Nat
  | .test condition => some condition.cost
  | .act _ => none
  | .negated finding => finding.cost?
  | .both first second | .either first second | .list first second => do
    return max (← first.cost?) (← second.cost?)

/-- Of two expressions without actions, the one that costs less is evaluated first, so that the other one
    counts. -/
def Expression.isSwapped (first second : Expression) : Bool :=
  match first.cost?, second.cost? with
  | some a, some b => b < a
  | _, _ => false

/-! ## 2. Tokens -/

/-- A piece of an expression. -/
inductive FindToken where
  | primary (finding : Expression)
  | negation (name : String)
  /-- An operator; the one with the higher rank holds its operands the tighter. -/
  | operator (name : String) (rank : Nat)
  | opening
  /-- A closing bracket, or the one that was added at the end. -/
  | closing (isAdded : Bool)
  deriving Repr

/-- The rank of a negation. -/
def negationRank : Nat := 4

/-- The two sides of an operator put together. -/
def joinSides (rank : Nat) (first second : Expression) : Expression :=
  match rank with
  | 3 => .both first second
  | 2 => .either first second
  | _ => .list first second

mutual

/-- An expression of operators that have a higher rank than the given one, and the tokens behind it. `above` is
    the token in front of it. `fuel` covers the tokens. -/
def readExpression : (fuel : Nat) → (rank : Nat) → (above : Option FindToken) → List FindToken →
    Except String (Expression × List FindToken)
  | 0, _, _, _ => .error "invalid expression"
  | _, _, _, [] => .error "invalid expression"
  | fuel + 1, rank, above, token :: rest => do
    let aboveName : Option String := match above with
      | some (.negation name) | some (.operator name _) => some name
      | _ => none
    let (first, rest) ← (match token with
      | .operator name _ =>
        .error ("invalid expression; you have used a binary operator '" ++ name ++
          "' with nothing before it.")
      | .closing isAdded =>
        match aboveName, isAdded with
        | some name, false => .error ("expected an expression between '" ++ name ++ "' and ')'")
        | some name, true => .error ("expected an expression after '" ++ name ++ "'")
        | none, _ => .error "invalid expression; you have too many ')'"
      | .primary finding => .ok (finding, rest)
      | .negation name => do
        let (finding, rest) ← readExpression fuel negationRank (some (.negation name)) rest
        return (.negated finding, rest)
      | .opening =>
        match rest with
        | [] | .closing true :: _ =>
          .error ("invalid expression; expected to find a ')' but didn't see one. " ++
            "Perhaps you need an extra predicate after '('")
        | .closing false :: _ => .error "invalid expression; empty parentheses are not allowed."
        | rest => do
          let (finding, rest) ← readExpression fuel 0 (some .opening) rest
          match rest with
          | .closing false :: rest => return (finding, rest)
          | _ =>
            .error ("invalid expression; I was expecting to find a ')' somewhere but " ++
              "did not see one.")
      : Except String (Expression × List FindToken))
    readOperators fuel rank first rest

/-- The expression that begins with a first one and goes on with operators of a higher rank than the given one. -/
def readOperators : (fuel : Nat) → (rank : Nat) → (first : Expression) → List FindToken →
    Except String (Expression × List FindToken)
  | 0, _, _, _ => .error "invalid expression"
  | fuel + 1, rank, first, tokens =>
    match tokens with
    | .operator name own :: rest =>
      if rank < own then do
        let (second, rest) ← readExpression fuel own (some (.operator name own)) rest
        readOperators fuel rank (joinSides own first second) rest
      else .ok (first, tokens)
    | _ => .ok (first, tokens)

end

/-- The tokens of an expression with what is understood: an `-a` between two expressions. -/
def withConjunctions : List FindToken → List FindToken
  | [] => []
  | token :: rest =>
    let isEnd := match token with
      | .primary _ | .closing _ => true
      | _ => false
    let isStart := match rest with
      | .primary _ :: _ | .negation _ :: _ | .opening :: _ => true
      | _ => false
    if isEnd && isStart then token :: .operator "-a" 3 :: withConjunctions rest
    else token :: withConjunctions rest

/-- The action that writes paths. -/
def printing : Expression := .act (.print 0x0A none)

/-- The expression that tokens make. -/
def Expression.ofTokens (tokens : List FindToken) : Except String Expression := do
  let writes := tokens.any fun token =>
    match token with
    | .primary (.act action) => action.writes
    | _ => false
  let whole :=
    if tokens.isEmpty then [.primary printing]
    else if writes then tokens
    else .opening :: tokens ++ [.closing true, .primary printing]
  let whole := withConjunctions whole
  if tokens.isEmpty || writes then
    match ← readExpression (2 * whole.length + 2) 0 none whole with
    | (finding, []) => return finding
    | (_, .closing _ :: _) => .error "you have too many ')'"
    | _ => .error "unexpected extra predicate"
  else
    let inner := withConjunctions (tokens ++ [.closing true])
    match ← readExpression (2 * whole.length + 2) 0 (some .opening) inner with
    | (finding, [.closing true]) => return .both finding printing
    | (_, .closing _ :: _) => .error "you have too many ')'"
    | _ =>
      .error "invalid expression; I was expecting to find a ')' somewhere but did not see one."

/-! ## 3. Arguments -/

/-- Which links are followed. -/
inductive LinkRule where
  | never
  /-- Those that the search begins with. -/
  | atFirst
  | always
  deriving DecidableEq, Repr

/-- What is to be done. -/
structure FindPlan where
  links : LinkRule := .never
  origins : List String := []
  least : Nat := 0
  most : Option Nat := none
  /-- What is in a directory comes before the directory. -/
  isDeepFirst : Bool := false
  /-- That was asked for by itself. -/
  isDeepAsked : Bool := false
  deletes : Bool := false
  prunes : Bool := false
  dialect : Option Regex.Dialect := none
  tokens : List FindToken := []
  warnings : List String := []
  /-- The files that are written to. -/
  targets : List String := []

/-- What is wrong with an argument. -/
inductive FindFault where
  | message (text : String)
  | missing
  | invalid (arg : String)
  deriving DecidableEq, Repr

/-- A pattern for names, as it is written or in small letters. -/
def patternOf (folded : Bool) (text : String) : Pattern :=
  .ofText (if folded then String.ofList (text.toList.map Char.toLower) else text)

/-- The letters of kinds in a list of them. -/
def readKinds (name : String) : (found : List Char) → List Char → Except FindFault (List Char)
  | found, [] =>
    if found.isEmpty then .error (.message ("Arguments to " ++ name ++ " should contain at least one letter"))
    else
      .error (.message ("Last file type in list argument to " ++ name ++
        " is missing, i.e., list is ending on: ','"))
  | found, c :: rest =>
    if !"bcdpflsD".toList.contains c then
      .error (.message ("Unknown argument to " ++ name ++ ": " ++ String.singleton c))
    else if found.contains c then
      .error (.message ("Duplicate file type '" ++ String.singleton c ++ "' in the argument list to " ++
        name ++ "."))
    else
      match rest with
      | [] => .ok (found ++ [c])
      | ',' :: rest => readKinds name (found ++ [c]) rest
      | _ => .error (.message ("Must separate multiple arguments to " ++ name ++ " using: ','"))

/-- The test of a size. -/
def readSizeTest (text : String) : Except FindFault FindTest :=
  match text.toList.getLast? with
  | none => .error (.message "invalid null argument to -size")
  | some letter =>
    let unit? : Option Nat :=
      match letter with
      | 'b' => some 512
      | 'c' => some 1
      | 'k' => some 1024
      | 'M' => some (Nat.pow 1024 2)
      | 'G' => some (Nat.pow 1024 3)
      | 'w' => some 2
      | _ => none
    match unit?, letter.isDigit with
    | none, false => .error (.message ("invalid -size type \x60" ++ String.singleton letter ++ "'"))
    | unit?, _ =>
      let digits := if unit?.isSome then String.ofList text.toList.dropLast else text
      match Bound.ofText? digits with
      | some bound => .ok (.size bound (unit?.getD 512))
      | none => .error (.message ("Invalid argument \x60" ++ text ++ "' to -size"))

/-- The test of permission bits, and a warning. -/
def readPermission (text : String) : Except FindFault (FindTest × Option String) :=
  let (rule, spelt) : PermissionRule × String :=
    match text.toList with
    | '-' :: rest => (.all, String.ofList rest)
    | '/' :: rest => (.any, String.ofList rest)
    | _ => (.exactly, text)
  match Mode.read? spelt with
  | none => .error (.message ("invalid mode " ++ quotedWord text))
  | some mode =>
    let onFile := mode.bits false 0 0
    let onDirectory := mode.bits true 0 0
    if rule = .any && onFile = 0 then
      .ok (.permission .all 0 0,
        some ("warning: you have specified a mode pattern " ++ text ++ " (which is equivalent to /000). " ++
          "The meaning of -perm /000 has now been changed to be consistent with -perm -000; that is, while " ++
          "it used to match no files, it now matches all files."))
    else .ok (.permission rule onFile onDirectory, none)

/-- A number of a unit, as a bound of nanoseconds: a number may have a fraction. -/
def readAge (unit first : Nat) (text : String) : Option FindTest :=
  let (rule, digits) : Ordering × List Char :=
    match text.toList with
    | '+' :: rest => (.gt, rest)
    | '-' :: rest => (.lt, rest)
    | rest => (.eq, rest)
  match digits.head?.any (fun c => c.isDigit || c = '.'), Floating.read? .double digits with
  | true, some (.finite _ significand exponent, _, []) =>
    let (num, den) := scaleRatio 2 exponent (significand * unit) 1
    some (.age ⟨rule, num / den⟩ unit first)
  | _, _ => none

/-- An expression of one of the older dialects, in which the signs for one or more and for at most one stand by
    themselves and there are no intervals, as one of a dialect in which they stand behind backslashes. -/
def withoutOldSigns : (isBracketed : Bool) → List Char → List Char
  | _, [] => []
  | false, '\\' :: c :: rest =>
    if c = '+' || c = '?' || c = '\x7b' || c = '\x7d' then c :: withoutOldSigns false rest
    else '\\' :: c :: withoutOldSigns false rest
  | false, '[' :: c :: d :: rest =>
    if c = ']' then '[' :: c :: withoutOldSigns true (d :: rest)
    else if c = '^' && d = ']' then '[' :: c :: d :: withoutOldSigns true rest
    else '[' :: withoutOldSigns (c != ']') (c :: d :: rest)
  | isBracketed, c :: rest =>
    if isBracketed then c :: withoutOldSigns (c != ']') rest
    else if c = '+' || c = '?' then '\\' :: c :: withoutOldSigns false rest
    else c :: withoutOldSigns false rest

/-- The test of a regular expression for a whole path. -/
def readRegexTest (dialect : Option Regex.Dialect) (folded : Bool) (text : String) : Except FindFault FindTest :=
  let read :=
    match dialect with
    | some dialect => Regex.ofText dialect folded text.toList
    | none => Regex.ofText .looseBasic folded (withoutOldSigns false text.toList)
  match read with
  | .ok regex => .ok (.regex regex)
  | .error fault =>
    .error (.message ("failed to compile regular expression " ++ quotedWord text ++ ": " ++ fault.message))

/-- The names of the dialects of regular expressions. -/
def dialectNames : List (String × Option Regex.Dialect) :=
  [("findutils-default", none), ("ed", some .looseBasic), ("emacs", none), ("gnu-awk", some .looseExtended),
    ("grep", some .looseBasic), ("posix-awk", some .looseExtended), ("awk", some .looseExtended),
    ("posix-basic", some .looseBasic), ("posix-egrep", some .looseExtended), ("egrep", some .looseExtended),
    ("posix-extended", some .looseExtended), ("posix-minimal-basic", some .looseBasic),
    ("sed", some .looseBasic)]

/-- The command behind an action that starts one, whether it takes many paths, and the arguments behind it. -/
def readCommand (canCollect : Bool) : (words : List String) → List String →
    Option (List String × Bool × List String)
  | _, [] => none
  | words, ";" :: rest => if words.isEmpty then none else some (words.reverse, false, rest)
  | words, "+" :: rest =>
    if canCollect && words.head? = some "\x7b\x7d" then some (words.reverse, true, rest)
    else readCommand canCollect ("+" :: words) rest
  | words, word :: rest => readCommand canCollect (word :: words) rest

/-- A text holds the place of a path. -/
def holdsPlace (word : String) : Bool :=
  (Pattern.endsOf word.toList).any fun rest => ['\x7b', '\x7d'].isPrefixOf rest

/-- The plan with one more token. -/
def FindPlan.withToken (plan : FindPlan) (token : FindToken) : FindPlan :=
  { plan with tokens := plan.tokens ++ [token] }

/-- The plan with one more test. -/
def FindPlan.withTest (plan : FindPlan) (test : FindTest) : FindPlan :=
  plan.withToken (.primary (.test test))

/-- The plan with one more action. -/
def FindPlan.withAction (plan : FindPlan) (action : FindAction) : FindPlan :=
  plan.withToken (.primary (.act action))

/-- What the reader of an expression knows of the machine. -/
structure FindContext where
  tree : FileTree

/-- The test of an owner or a group. -/
def readOwner (what text : String) : Except FindFault FindTest :=
  if text = "root" then .ok (.owner ⟨.eq, 0⟩)
  else
    match decimal? text with
    | some n => .ok (.owner ⟨.eq, n⟩)
    | none => .error (.message (quotedWord text ++ " is not the name of " ++ what))

/-- The time of the file at a path. -/
def timeAt (context : FindContext) (path : String) : Except FindFault Int :=
  match context.tree.find true (ByteText.toBytes path) with
  | .ok node => .ok (FoundFile.timeOf node)
  | .error cause => .error (.message (quotedName path ++ ": " ++ cause.message))

/-- The test that an argument spells, if it spells one. -/
def orInvalid (arg : String) (test? : Option FindTest) : Except FindFault FindTest :=
  match test? with
  | some test => .ok test
  | none => .error (.invalid arg)

/-- The plan after a test or an action that takes one argument; `none` if there is none of that name. -/
def FindPlan.withArgument (context : FindContext) (plan : FindPlan) (name arg : String) :
    Option (Except FindFault FindPlan) :=
  let test (test : FindTest) : Option (Except FindFault FindPlan) := some (.ok (plan.withTest test))
  let tested (test : Except FindFault FindTest) : Option (Except FindFault FindPlan) :=
    some (test.map plan.withTest)
  let bounded (make : Bound → FindTest) : Option (Except FindFault FindPlan) :=
    tested (orInvalid arg ((Bound.ofText? arg).map make))
  let aged (unit first : Nat) : Option (Except FindFault FindPlan) :=
    tested (orInvalid arg (readAge (unit * 1000000000) first arg))
  let depth (set : Nat → FindPlan) : Option (Except FindFault FindPlan) :=
    some (match decimal? arg with
      | some n => .ok ((set n).withTest (.always true))
      | none =>
        .error (.message ("Expected a positive decimal integer argument to " ++ name ++ ", but got " ++
          quotedWord arg)))
  let report (target : Option String) : Option (Except FindFault FindPlan) :=
    some (match readReport (arg.length + 1) arg.toList with
      | .ok (parts, warnings) =>
        .ok ({ plan with warnings := plan.warnings ++ warnings }.withAction (.report parts target))
      | .error reason => .error (.message reason))
  match name with
  | "-name" => test (.name (patternOf false arg) false)
  | "-iname" => test (.name (patternOf true arg) true)
  | "-path" | "-wholename" => test (.path (patternOf false arg) false)
  | "-ipath" | "-iwholename" => test (.path (patternOf true arg) true)
  | "-lname" => test (.target (patternOf false arg) false)
  | "-ilname" => test (.target (patternOf true arg) true)
  | "-regex" => tested (readRegexTest plan.dialect false arg)
  | "-iregex" => tested (readRegexTest plan.dialect true arg)
  | "-type" => tested ((readKinds name [] arg.toList).map (.kind · false))
  | "-xtype" => tested ((readKinds name [] arg.toList).map (.kind · true))
  | "-size" => tested (readSizeTest arg)
  | "-perm" =>
    some ((readPermission arg).map fun (test, warning) =>
      { plan with warnings := plan.warnings ++ warning.toList }.withTest test)
  | "-links" => bounded .links
  | "-uid" | "-gid" => bounded .owner
  | "-user" => tested (readOwner "a known user" arg)
  | "-group" => tested (readOwner "an existing group" arg)
  | "-mtime" | "-atime" | "-ctime" => aged 86400 0
  | "-mmin" | "-amin" | "-cmin" => aged 60 1
  | "-newer" | "-anewer" | "-cnewer" | "-newermm" => tested ((timeAt context arg).map .newerThan)
  | "-samefile" =>
    some (match context.tree.find false (ByteText.toBytes arg),
        context.tree.locate (plan.links = .always) (ByteText.toBytes arg) with
      | .ok _, .ok location => .ok (plan.withTest (.sameAs location))
      | .error cause, _ | _, .error cause =>
        .error (.message (quotedName arg ++ ": " ++ cause.message)))
  | "-maxdepth" => depth fun n => { plan with most := some n }
  | "-mindepth" => depth fun n => { plan with least := n }
  | "-regextype" =>
    some (match dialectNames.lookup arg with
      | some dialect => .ok ({ plan with dialect }.withTest (.always true))
      | none =>
        .error (.message ("Unknown regular expression type " ++ quotedWord arg ++ "; valid types are " ++
          ", ".intercalate (dialectNames.map fun (name, _) => quotedWord name) ++ ".")))
  | "-printf" => report none
  | "-fprint" =>
    some (.ok ({ plan with targets := plan.targets ++ [arg] }.withAction (.print 0x0A (some arg))))
  | "-fprint0" =>
    some (.ok ({ plan with targets := plan.targets ++ [arg] }.withAction (.print 0 (some arg))))
  | _ => none

/-- The plan after a test, an action or an option that takes no argument; `none` if there is none of that
    name. -/
def FindPlan.withWord (plan : FindPlan) (name : String) : Option FindPlan :=
  let option (plan : FindPlan) : Option FindPlan := some (plan.withTest (.always true))
  match name with
  | "-true" => some (plan.withTest (.always true))
  | "-false" | "-nouser" | "-nogroup" => some (plan.withTest (.always false))
  | "-empty" => some (plan.withTest .empty)
  | "-executable" => some (plan.withTest (.accessible true))
  | "-readable" | "-writable" => some (plan.withTest (.accessible false))
  | "-depth" | "-d" => option { plan with isDeepFirst := true, isDeepAsked := true }
  | "-daystart" | "-noleaf" | "-mount" | "-xdev" | "-warn" | "-nowarn" | "-ignore_readdir_race"
  | "-noignore_readdir_race" => option plan
  | "-follow" => option { plan with links := .always }
  | "-print" => some (plan.withAction (.print 0x0A none))
  | "-print0" => some (plan.withAction (.print 0 none))
  | "-prune" => some ({ plan with prunes := true }.withAction .prune)
  | "-quit" => some (plan.withAction .quit)
  | "-delete" => some ({ plan with isDeepFirst := true, deletes := true }.withAction .delete)
  | "!" | "-not" => some (plan.withToken (.negation name))
  | "-a" | "-and" => some (plan.withToken (.operator name 3))
  | "-o" | "-or" => some (plan.withToken (.operator name 2))
  | "," => some (plan.withToken (.operator name 1))
  | "(" => some (plan.withToken .opening)
  | ")" => some (plan.withToken (.closing false))
  | _ => none

/-- The plan after an action that starts a command, and the arguments behind it; `none` if there is none of that
    name. -/
def FindPlan.withCommand (plan : FindPlan) (name : String) (args : List String) :
    Option (Except FindFault (FindPlan × List String)) :=
  let isInside := name = "-execdir" || name = "-okdir"
  let asks := name = "-ok" || name = "-okdir"
  if !asks && name != "-exec" && name != "-execdir" then none
  else
    some (match readCommand (!asks) [] args with
      | none =>
        match args with
        | [] => .error .missing
        | word :: _ => if word = ";" then .error (.invalid word) else .error .missing
      | some (command, false, rest) => .ok (plan.withAction (.start command isInside asks), rest)
      | some (command, true, rest) =>
        if 1 < (command.filter holdsPlace).length then
          .error (.message ("Only one instance of \x7b\x7d is supported with " ++ name ++ " ... +"))
        else .ok (plan.withAction (.collect plan.tokens.length command.dropLast isInside), rest))

/-- The plan after the arguments of an expression. `before` is the name of the last test or action, for a hint.
    `fuel` covers the arguments. -/
def readArguments (context : FindContext) : (fuel : Nat) → (before : String) → FindPlan → List String →
    Except (List String) FindPlan
  | 0, _, plan, _ | _, _, plan, [] => .ok plan
  | fuel + 1, before, plan, name :: rest =>
    let told (fault : FindFault) : Except (List String) FindPlan :=
      .error (plan.warnings ++ [match fault with
        | .message text => text
        | .missing => "missing argument to \x60" ++ name ++ "'"
        | .invalid arg => "invalid argument \x60" ++ arg ++ "' to \x60" ++ name ++ "'"])
    match plan.withWord name, plan.withCommand name rest with
    | some plan, _ => readArguments context fuel name plan rest
    | none, some (.ok (plan, rest)) => readArguments context fuel name plan rest
    | none, some (.error fault) => told fault
    | none, none =>
      match name, rest with
      | "-fprintf", target :: format :: rest =>
        match plan.withArgument context "-printf" format with
        | some (.ok plan') =>
          let tokens := plan'.tokens.dropLast ++ (plan'.tokens.getLast?.map fun token =>
            match token with
            | .primary (.act (.report parts _)) => .primary (.act (.report parts (some target)))
            | token => token).toList
          readArguments context fuel name { plan' with tokens, targets := plan.targets ++ [target] } rest
        | some (.error fault) => told fault
        | none => told .missing
      | "-fprintf", _ => told .missing
      | _, rest =>
        match plan.withArgument context name (rest.headD "1"), rest with
        | some _, [] => told .missing
        | some (.ok plan), _ :: rest => readArguments context fuel name plan rest
        | some (.error fault), _ => told fault
        | none, _ =>
          if name.toList.head? = some '-' && name.length > 1 then
            .error (plan.warnings ++ [if (after? "-newer" name).isSome then
                "invalid predicate \x60" ++ name ++ "'"
              else "unknown predicate \x60" ++ name ++ "'"])
          else
            let takesPattern := ["-name", "-iname", "-path", "-ipath", "-wholename", "-iwholename", "-lname",
              "-ilname", "-regex", "-iregex"].contains before
            let isThere := (context.tree.find false (ByteText.toBytes name)).toOption.isSome
            .error (plan.warnings ++ ["paths must precede expression: \x60" ++ name ++ "'"] ++
              if takesPattern && isThere then
                ["possible unquoted pattern after predicate \x60" ++ before ++ "'?"]
              else [])

/-- An argument looks like the beginning of an expression. -/
def beginsExpression (arg : String) : Bool :=
  arg = "!" || arg = "(" || (arg.toList.head? = some '-' && arg.length > 1)

/-- The options in front of the places, and the arguments behind them. -/
def readLinkOptions : FindPlan → List String → Except (List String) (FindPlan × List String)
  | plan, "-H" :: rest => readLinkOptions { plan with links := .atFirst } rest
  | plan, "-L" :: rest => readLinkOptions { plan with links := .always } rest
  | plan, "-P" :: rest => readLinkOptions { plan with links := .never } rest
  | plan, "-D" :: _ :: rest => readLinkOptions plan rest
  | plan, "--" :: rest => .ok (plan, rest)
  | plan, arg :: rest =>
    match after? "-O" arg with
    | some level =>
      if (decimal? level).isSome then readLinkOptions plan rest
      else .error ["Please specify a decimal number immediately after -O"]
    | none => .ok (plan, arg :: rest)
  | plan, [] => .ok (plan, [])

/-- The plan that arguments make, with its expression; or what is told about them. -/
def readPlan (context : FindContext) (args : List String) : Except (List String) (FindPlan × Expression) := do
  let (plan, args) ← readLinkOptions {} args
  let origins := args.takeWhile fun arg => !beginsExpression arg
  let plan := { plan with origins := if origins.isEmpty then ["."] else origins }
  let rest := args.drop origins.length
  let plan ← readArguments context (rest.length + 1) "" plan rest
  match Expression.ofTokens plan.tokens with
  | .error reason => .error (plan.warnings ++ [reason])
  | .ok finding =>
    if plan.deletes && plan.prunes && !plan.isDeepAsked then
      .error (plan.warnings ++ ["The -delete action automatically turns on -depth, but -prune does nothing when " ++
        "-depth is in effect.  If you want to carry on anyway, just explicitly use the -depth option."])
    else return (plan, finding)

end GoldenRun.Machine.Finding
