import GoldenRun.Machine.Utility.Content
import GoldenRun.Machine.Utility.Sorting
import GoldenRun.Regex.Syntax

/-!
# Numbered lines

`nl` writes the lines of its operands with numbers in front of them. A line that consists of delimiters begins a
section of a page: the head behind three, the body behind two, the foot behind one. What lines are numbered
depends on the section, and the numbers begin anew with every section.
-/

namespace GoldenRun.Machine

/-! ## 1. Plans -/

/-- What lines are numbered. -/
inductive NumberedLines where
  | all
  | full
  | none
  | found (regex : Regex)
  deriving Repr

/-- How a number is written. -/
inductive NumberAlignment where
  | left
  | right
  /-- On the right, with zeros in front. -/
  | zeros
  deriving DecidableEq, Repr

/-- A section of a page. -/
inductive PageSection where
  | head
  | body
  | foot
  deriving DecidableEq, Repr

/-- How lines are numbered. -/
structure NumberPlan where
  head : NumberedLines := .none
  body : NumberedLines := .full
  foot : NumberedLines := .none
  delimiter : Bytes := [0x5C, 0x3A]
  start : Int := 1
  increment : Int := 1
  /-- Of so many empty lines in a row one is numbered. -/
  joined : Nat := 1
  alignment : NumberAlignment := .right
  /-- Numbers go on from section to section. -/
  continues : Bool := false
  separator : String := "\t"
  width : Nat := 6
  /-- Options that cannot be used, as they are told. -/
  wrong : List String := []

/-- The options of `nl`. -/
def numberOptions : List OptionKind :=
  [valued 'b' ["body-numbering"], valued 'd' ["section-delimiter"], valued 'f' ["footer-numbering"],
    valued 'h' ["header-numbering"], valued 'i' ["line-increment"], valued 'l' ["join-blank-lines"],
    valued 'n' ["number-format"], flag 'p' ["no-renumber"], valued 's' ["number-separator"],
    valued 'v' ["starting-line-number"], valued 'w' ["number-width"]]

/-- An integer between bounds that an option gives. -/
def boundedOption (what : String) (least most : Int) (text : String) : Except Trouble Int :=
  let cs := text.toList.dropWhile fun c => c = ' ' || (9 ≤ c.toNat && c.toNat ≤ 13)
  let (isNegative, digits) : Bool × List Char :=
    match cs with
    | '-' :: rest => (true, rest)
    | '+' :: rest => (false, rest)
    | cs => (false, cs)
  let shown := "invalid " ++ what ++ ": " ++ quotedWord text
  match decimal? (String.ofList digits) with
  | none => Trouble.because shown
  | some n =>
    let value : Int := if isNegative then -(n : Int) else n
    let limit : Int := Int.ofNat (Nat.pow 2 63)
    if value < -limit || limit ≤ value then Trouble.because (shown ++ ": Value too large for defined data type")
    else if value < least || most < value then
      Trouble.because (shown ++ ": Numerical result out of range")
    else .ok value

namespace NumberPlan

/-- The plan with one more option. -/
def withOption (plan : NumberPlan) (option : String × String) : Except Trouble NumberPlan :=
  let largest : Int := Int.ofNat (Nat.pow 2 63) - 1
  let (key, text) := option
  let style (name : String) (use : NumberedLines → NumberPlan) : Except Trouble NumberPlan :=
    match text.toList with
    | 'a' :: _ => .ok (use .all)
    | 't' :: _ => .ok (use .full)
    | 'n' :: _ => .ok (use .none)
    | 'p' :: pattern =>
      match Regex.ofText .looseBasic false pattern with
      | .ok regex => .ok (use (.found regex))
      | .error fault => Trouble.because fault.message
    | _ =>
      .ok { plan with wrong := plan.wrong ++ ["invalid " ++ name ++ " numbering style: " ++ quotedWord text] }
  match key with
  | "h" => style "header" fun head => { plan with head }
  | "b" => style "body" fun body => { plan with body }
  | "f" => style "footer" fun foot => { plan with foot }
  | "p" => .ok { plan with continues := true }
  | "s" => .ok { plan with separator := text }
  | "v" => do return { plan with start := ← boundedOption "starting line number" (-largest - 1) largest text }
  | "i" => do return { plan with increment := ← boundedOption "line number increment" (-largest - 1) largest text }
  | "l" => do
    return { plan with joined := (← boundedOption "line number of blank lines" 1 largest text).toNat }
  | "w" => do
    return { plan with width := (← boundedOption "line number field width" 1 (Int.ofNat (Nat.pow 2 31) - 1) text).toNat }
  | "d" =>
    let bytes := ByteText.toBytes text
    .ok { plan with delimiter := if bytes.length = 1 then bytes ++ (plan.delimiter.drop 1).take 1 else bytes }
  | "n" =>
    match text with
    | "ln" => .ok { plan with alignment := .left }
    | "rn" => .ok { plan with alignment := .right }
    | "rz" => .ok { plan with alignment := .zeros }
    | _ => .ok { plan with wrong := plan.wrong ++ ["invalid line numbering format: " ++ quotedWord text] }
  | _ => .ok plan

/-- A number as it is written. -/
def numberText (plan : NumberPlan) (n : Int) : String :=
  let text := toString n
  let gap (c : Char) (length : Nat) : String := String.ofList (List.replicate (plan.width - length) c)
  match plan.alignment with
  | .right => gap ' ' text.length ++ text
  | .left => text ++ gap ' ' text.length
  | .zeros =>
    let digits := toString n.natAbs
    if n < 0 then "-" ++ gap '0' (digits.length + 1) ++ digits else gap '0' digits.length ++ digits

/-- The section that a line begins. -/
def section? (plan : NumberPlan) (line : Bytes) : Option PageSection :=
  let mark := plan.delimiter
  if mark.length < 2 then none
  else if line = mark ++ mark ++ mark then some .head
  else if line = mark ++ mark then some .body
  else if line = mark then some .foot
  else none

/-- What lines of a section are numbered. -/
def styleOf (plan : NumberPlan) : PageSection → NumberedLines
  | .head => plan.head
  | .body => plan.body
  | .foot => plan.foot

end NumberPlan

/-! ## 2. Lines -/

/-- Where the numbering is. -/
structure NumberState where
  number : Int
  place : PageSection := .body
  /-- How many empty lines were not numbered. -/
  blanks : Nat := 0
  /-- What is written, backwards. -/
  out : List Bytes := []

/-- One more line numbered. -/
def NumberState.step (plan : NumberPlan) (state : NumberState) (line : Bytes) : NumberState :=
  match plan.section? line with
  | some place =>
    { state with
      place, number := if plan.continues then state.number else plan.start, out := [0x0A] :: state.out }
  | none =>
    let put (isNumbered : Bool) (state : NumberState) : NumberState :=
      let head := if isNumbered then plan.numberText state.number ++ plan.separator
        else String.ofList (List.replicate (plan.width + plan.separator.length) ' ')
      { state with
        number := if isNumbered then state.number + plan.increment else state.number
        out := (ByteText.toBytes head ++ line ++ [0x0A]) :: state.out }
    match plan.styleOf state.place with
    | .none => put false state
    | .full => put (!line.isEmpty) state
    | .found regex => put (regex.occursIn (line.map ByteText.charOf)) state
    | .all =>
      if plan.joined < 2 then put true state
      else if !line.isEmpty || state.blanks + 1 = plan.joined then put true { state with blanks := 0 }
      else put false { state with blanks := state.blanks + 1 }

/-- A plan of options; what cannot be used is told before what ends it all. -/
def NumberPlan.ofOptions (errand : Errand) (plan : NumberPlan) :
    List (String × String) → Except Effort NumberPlan
  | [] => .ok plan
  | option :: rest =>
    match plan.withOption option with
    | .ok plan => plan.ofOptions errand rest
    | .error trouble =>
      .error (errand.complain 1 (String.join ((plan.wrong ++ [trouble.message]).map errand.line)))

/-- Lines with numbers. -/
def nl : Utility := fun errand =>
  let arguments := readOptions numberOptions true errand.args
  match NumberPlan.ofOptions errand {} arguments.options with
  | .error effort => effort
  | .ok plan =>
    let wrong := plan.wrong ++ (arguments.fault.map OptionFault.message).toList
    if !wrong.isEmpty then errand.misused (("\n" ++ errand.name ++ ": ").intercalate wrong)
    else
      let operands := orInput arguments.operands
      let sources := errand.sources operands
      let (_, said) := sources.foldl (fun (state, said) (path, source) =>
        match source with
        | .error cause => (state, said ++ [(Outlet.err, ByteText.toBytes (errand.refusal path cause))])
        | .ok source =>
          let state := (linesBy 0x0A (source.all?.getD [])).foldl (NumberState.step plan) state
          ({ state with out := [] }, said ++ [(Outlet.out, state.out.reverse.flatten)]))
        (({ number := plan.start } : NumberState), ([] : List (Outlet × Bytes)))
      { code := if said.any (·.1 = .err) then 1 else 0
        said
        files := errand.files
        unread := errand.unreadAfter operands
        endless := sources.any fun (_, source) => source.toOption.any (·.all?.isNone) }

end GoldenRun.Machine
