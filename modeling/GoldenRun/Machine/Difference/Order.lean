import GoldenRun.Machine.Difference.Groups
import GoldenRun.Machine.Utility.Options
import GoldenRun.Regex.Syntax

/-!
# What a comparison of lines is asked for

The options of `diff` are read in order. Some of them contradict each other, and some have values that
are refused; the first such fault ends the reading.

* `Order.ofOptions`: what options ask for.
-/

namespace GoldenRun.Machine.Difference

/-- How changes are described. -/
inductive Style where
  | listed
  | context
  | unified
  | edScript
  | forwardScript
  | revision
  | columns
  | groups
  deriving DecidableEq, Repr

/-- What is wrong with options. -/
inductive OrderFault where
  /-- The options are used wrongly; a hint follows. -/
  | misuse (text : String)
  | refusal (text : String)
  deriving DecidableEq, Repr

/-- The formats that were given for groups and lines of the same kind. -/
structure FormatOrder where
  old : Option String := none
  new : Option String := none
  changed : Option String := none
  common : Option String := none
  deriving DecidableEq, Repr

/-- What options ask for. -/
structure Order where
  style : Option Style := none
  /-- How many lines are shown around changes. -/
  context : Nat := 0
  /-- This number was given with a style. -/
  isExact : Bool := false
  /-- The number that an option of digits makes. -/
  digits : Option Nat := none
  width : Option Nat := none
  tabSize : Option Nat := none
  horizon : Nat := 0
  labels : List String := []
  /-- Lines in which one of these occurs do not count. -/
  ignored : List String := []
  /-- Lines in which one of these occurs are headings. -/
  headings : List String := []
  groups : FormatOrder := {}
  lines : FormatOrder := {}
  coloured : Bool := false
  /-- Entries whose names these patterns describe are left out. -/
  excluded : List String := []
  /-- The first entry of the directories that is compared. -/
  starting : Option String := none
  /-- The one file that all operands are compared with, in front of them or behind them. -/
  fixedFirst : Option String := none
  fixedSecond : Option String := none
  deriving Repr

/-- The options of `diff`. -/
def optionKinds : List OptionKind :=
  [flag 'a' ["text"], flag 'b' ["ignore-space-change"], flag 'B' ["ignore-blank-lines"],
    long "binary", flag 'q' ["brief"], long "changed-group-format" .always,
    long "color" (.attached "auto"), flag 'c' [], valued 'C' [],
    { key := "C", names := ["context"], takes := .attached "3" }, flag 'd' ["minimal"],
    valued 'D' ["ifdef"], flag 'e' ["ed"], flag 'E' ["ignore-tab-expansion"],
    valued 'x' ["exclude"], valued 'X' ["exclude-from"], flag 't' ["expand-tabs"],
    flag 'f' ["forward-ed"], long "from-file" .always, flag 'h' [], flag 'H' ["speed-large-files"],
    long "horizon-lines" .always, flag 'w' ["ignore-all-space"], flag 'i' ["ignore-case"],
    long "ignore-file-name-case", valued 'I' ["ignore-matching-lines"],
    flag 'Z' ["ignore-trailing-space"], flag 'T' ["initial-tab"], valued 'L' ["label"],
    long "left-column", long "line-format" .always, flag 'N' ["new-file"],
    long "new-group-format" .always, long "new-line-format" .always, long "no-dereference",
    long "no-ignore-file-name-case", long "normal", long "old-group-format" .always,
    long "old-line-format" .always, flag 'l' ["paginate"], long "palette" .always,
    flag 'n' ["rcs"], flag 'r' ["recursive"], flag 's' ["report-identical-files"],
    flag 'p' ["show-c-function"], valued 'F' ["show-function-line"], flag 'y' ["side-by-side"],
    valued 'S' ["starting-file"], long "strip-trailing-cr", long "suppress-blank-empty",
    long "suppress-common-lines", long "tabsize" .always, long "to-file" .always,
    long "unchanged-group-format" .always, long "unchanged-line-format" .always,
    flag 'P' ["unidirectional-new-file"], flag 'u' [], valued 'U' [],
    { key := "U", names := ["unified"], takes := .attached "3" }, valued 'W' ["width"]] ++
    flags "0123456789"

/-- A whole number with blanks in front and a sign or not; nothing at all is zero. -/
def wholeNumber? (text : String) : Option Int :=
  let cs := text.toList.dropWhile fun c => c = ' ' || (9 ≤ c.toNat && c.toNat ≤ 13)
  let (negative, cs) : Bool × List Char :=
    match cs with
    | '-' :: rest => (true, rest)
    | '+' :: rest => (false, rest)
    | cs => (false, cs)
  match leadingDigits cs with
  | (some n, []) => some (if negative then -(n : Int) else n)
  | _ => if text.isEmpty then some 0 else none

namespace Order

/-- The order with a style; another style contradicts it. -/
def withStyle (order : Order) (style : Style) : Except OrderFault Order :=
  if order.style.any (· != style) then .error (.misuse "conflicting output style options")
  else .ok { order with style := some style }

/-- A value where there was none or the same one. -/
def agreeing (old : Option String) (option value : String) : Except OrderFault (Option String) :=
  if old.any (· != value) then
    .error (.misuse ("conflicting " ++ option ++ " option value '" ++ value ++ "'"))
  else .ok (some value)

/-- A positive number where there was none or the same one. -/
def agreeingNumber (old : Option Nat) (what value : String) : Except OrderFault (Option Nat) :=
  match wholeNumber? value with
  | some n =>
    if n ≤ 0 then .error (.misuse ("invalid " ++ what ++ " '" ++ value ++ "'"))
    else if old.any (· != n.toNat) then .error (.refusal ("conflicting " ++ what ++ " options"))
    else .ok (some n.toNat)
  | none => .error (.misuse ("invalid " ++ what ++ " '" ++ value ++ "'"))

/-- A regular expression that is one. -/
def checked (pattern : String) : Except OrderFault String :=
  match Regex.ofText .looseBasic false pattern.toList with
  | .ok _ => .ok pattern
  | .error fault => .error (.refusal (pattern ++ ": " ++ fault.message))

/-- The order with lines around changes in a style. -/
def withContext (order : Order) (style : Style) (value : String) : Except OrderFault Order := do
  match wholeNumber? value with
  | some n =>
    if n < 0 then .error (.misuse ("invalid context length '" ++ value ++ "'"))
    else
      let order ← order.withStyle style
      return { order with context := max order.context n.toNat, isExact := true }
  | none => .error (.misuse ("invalid context length '" ++ value ++ "'"))

/-- The formats of groups that mark what belongs to which text with a name. -/
def namedGroups (name : String) : FormatOrder where
  common := some "%="
  old := some ("#ifndef " ++ name ++ "\n%<#endif /* ! " ++ name ++ " */\n")
  new := some ("#ifdef " ++ name ++ "\n%>#endif /* " ++ name ++ " */\n")
  changed := some ("#ifndef " ++ name ++ "\n%<#else /* " ++ name ++ " */\n%>#endif /* " ++ name ++
    " */\n")

/-- The order with the formats of groups for a name. -/
def withName (order : Order) (name : String) : Except OrderFault Order := do
  let order ← order.withStyle .groups
  let wanted := namedGroups name
  let agree (old new : Option String) : Except OrderFault (Option String) :=
    agreeing old "-D" (new.getD "")
  let common ← agree order.groups.common wanted.common
  let old ← agree order.groups.old wanted.old
  let new ← agree order.groups.new wanted.new
  let changed ← agree order.groups.changed wanted.changed
  return { order with groups := { old, new, changed, common } }

/-- The order with one more option. -/
def add (order : Order) (option : String × String) : Except OrderFault Order := do
  let (key, value) := option
  let agree (old : Option String) : Except OrderFault (Option String) :=
    agreeing old ("--" ++ key) value
  match key with
  | "c" => return { ← order.withStyle .context with context := max order.context 3 }
  | "u" => return { ← order.withStyle .unified with context := max order.context 3 }
  | "C" => order.withContext .context value
  | "U" => order.withContext .unified value
  | "e" => order.withStyle .edScript
  | "f" => order.withStyle .forwardScript
  | "n" => order.withStyle .revision
  | "y" => order.withStyle .columns
  | "normal" => order.withStyle .listed
  | "D" => order.withName value
  | "old-group-format" =>
    let order ← order.withStyle .groups
    return { order with groups.old := ← agree order.groups.old }
  | "new-group-format" =>
    let order ← order.withStyle .groups
    return { order with groups.new := ← agree order.groups.new }
  | "changed-group-format" =>
    let order ← order.withStyle .groups
    return { order with groups.changed := ← agree order.groups.changed }
  | "unchanged-group-format" =>
    let order ← order.withStyle .groups
    return { order with groups.common := ← agree order.groups.common }
  | "old-line-format" =>
    let order ← order.withStyle .groups
    return { order with lines.old := ← agree order.lines.old }
  | "new-line-format" =>
    let order ← order.withStyle .groups
    return { order with lines.new := ← agree order.lines.new }
  | "unchanged-line-format" =>
    let order ← order.withStyle .groups
    return { order with lines.common := ← agree order.lines.common }
  | "line-format" =>
    let order ← order.withStyle .groups
    let common ← agree order.lines.common
    let old ← agree order.lines.old
    let new ← agree order.lines.new
    return { order with lines := { order.lines with old, new, common } }
  | "W" => return { order with width := ← agreeingNumber order.width "width" value }
  | "tabsize" => return { order with tabSize := ← agreeingNumber order.tabSize "tabsize" value }
  | "horizon-lines" =>
    match wholeNumber? value with
    | some n => return { order with horizon := max order.horizon n.toNat }
    | none => .error (.misuse ("invalid horizon length '" ++ value ++ "'"))
  | "L" =>
    if order.labels.length < 2 then return { order with labels := order.labels ++ [value] }
    else .error (.refusal "too many file label options")
  | "I" => return { order with ignored := order.ignored ++ [← checked value] }
  | "F" => return { order with headings := order.headings ++ [← checked value] }
  | "p" => return { order with headings := order.headings ++ ["^[[:alpha:]$_]"] }
  | "color" =>
    if ["always", "never", "auto"].contains value then
      return { order with coloured := value = "always" }
    else .error (.misuse ("invalid color '" ++ value ++ "'"))
  | "x" => return { order with excluded := order.excluded ++ [value] }
  | "S" => return { order with starting := ← agreeing order.starting "-S" value }
  | "from-file" => return { order with fixedFirst := ← agree order.fixedFirst }
  | "to-file" => return { order with fixedSecond := ← agree order.fixedSecond }
  | _ => return order

/-- The order with the number that digits make; those of options next to each other make one. -/
def addDigits (order : Order) : ( isOpen : Bool) → List (String × String) → Order
  | _, [] => order
  | isOpen, (key, _) :: rest =>
    match decimal? key with
    | some digit =>
      let before := if isOpen then order.digits.getD 0 else 0
      addDigits { order with digits := some (before * 10 + digit) } true rest
    | none => addDigits order false rest

/-- What options ask for. -/
def ofOptions (options : List (String × String)) : Except OrderFault Order := do
  let order ← options.foldlM add {}
  return order.addDigits false options

/-- The style that is asked for. -/
def chosenStyle (order : Order) (marksFunctions : Bool) : Style :=
  order.style.getD (if marksFunctions then .context else .listed)

/-- How many lines are shown around changes. -/
def chosenContext (order : Order) (marksFunctions : Bool) : Nat :=
  let style := order.chosenStyle marksFunctions
  let context :=
    if order.style.isNone && style = .context && order.digits.isNone then 3 else order.context
  match order.digits with
  | some digits =>
    if (style = .context || style = .unified) &&
        (context < digits || (digits < context && !order.isExact)) then digits
    else context
  | none => context

/-- Formats with the missing ones filled in. -/
def chosenFormats (order : Order) : GroupFormats :=
  let groups := order.groups
  let old := groups.old.getD (groups.changed.getD "%<")
  let new := groups.new.getD (groups.changed.getD "%>")
  let line (given : Option String) : List Char := (given.getD "%l\n").toList
  { old := old.toList
    new := new.toList
    changed := (groups.changed.getD (old ++ new)).toList
    common := (groups.common.getD "%=").toList
    lines := { old := line order.lines.old, new := line order.lines.new
               common := line order.lines.common } }

end Order

end GoldenRun.Machine.Difference
