import GoldenRun.Event
import GoldenRun.Regex.Syntax
import GoldenRun.Text.Blank
import GoldenRun.Text.Letter
import GoldenRun.Text.Quoted

/-!
# Log lines

A *filter* decides which events are logged. It is a list of directives such as `warn`,
`functest::harness=info` or `[run{tests_dir=t.*}]=debug`. A directive has a threshold, and says what
it is about: an origin, by the beginning of its name; a span, by its name; and fields, by their names and
perhaps by their values.

* A directive without a span and without values is about events. Of those that are about an event, the
  most specific decides.
* A directive with a span or with fields is about spans. It admits what lies in a span that it is about.
* Spans are at level `info`: where no directive wants that much, none is looked at, unless a directive
  asks for values.
* A text that names no level and no threshold asks for everything of the origin that it names.
-/

namespace GoldenRun

/-! ## 1. Thresholds -/

/-- From which level on events are logged, if at all. -/
inductive Threshold where
  | off
  | atLeast (level : Level)
  /-- Everything, also what is below every level of this program. -/
  | all
  deriving DecidableEq, Repr

namespace Threshold

/-- How much a threshold lets through. -/
def rank : Threshold → Nat
  | .off => 0
  | .atLeast level => 4 - level.rank
  | .all => 5

/-- Events of the level are logged. -/
def admits (level : Level) (threshold : Threshold) : Bool :=
  (Threshold.atLeast level).rank ≤ threshold.rank

/-- The one that lets more through. -/
def max (a b : Threshold) : Threshold :=
  if a.rank < b.rank then b else a

/-- The one of several that lets most through. -/
def maxOf (thresholds : List Threshold) : Threshold :=
  thresholds.foldl max .off

/-- The threshold of the given number. -/
def ofNumber? : Nat → Option Threshold
  | 0 => some .off
  | 1 => some (.atLeast .error)
  | 2 => some (.atLeast .warn)
  | 3 => some (.atLeast .info)
  | 4 => some (.atLeast .debug)
  | 5 => some .all
  | _ => none

/-- The threshold of the given name, upper and lower case being the same. -/
def ofName? (text : String) : Option Threshold :=
  match String.ofList (text.toList.map Char.toLower) with
  | "off" => some .off
  | "error" => some (.atLeast .error)
  | "warn" => some (.atLeast .warn)
  | "info" => some (.atLeast .info)
  | "debug" => some (.atLeast .debug)
  | "trace" => some .all
  | _ => none

/-- The threshold of the given name, or of a number, with a plus sign or without. -/
def ofText? (text : String) : Option Threshold :=
  let digits := if text.toList.head? = some '+' then text.toList.drop 1 else text.toList
  if !digits.isEmpty && digits.all Char.isDigit then
    ofNumber? (digits.foldl (fun n c => n * 10 + (c.toNat - 48)) 0)
  else ofName? text

end Threshold

/-! ## 2. Directives -/

/-- What the value of a field must be. -/
inductive ValueTest where
  /-- A number or a truth value, which no field of a span here has. -/
  | unmet
  | pattern (regex : Regex)
  deriving DecidableEq, Repr

/-- A field that is asked for. -/
structure FieldTest where
  name : String
  value? : Option ValueTest := none
  /-- The value as it is written. -/
  written : String := ""
  deriving DecidableEq, Repr

/-- A threshold, and what it is for. -/
structure Directive where
  origin? : Option String := none
  span? : Option String := none
  fields : List FieldTest := []
  threshold : Threshold := .all
  deriving DecidableEq, Repr

namespace ValueTest

/-- A text that is read as a number with decimal places or an exponent, or as one of the words for what
    is no number. -/
def isNumber (text : String) : Bool :=
  let unsigned := match text.toList with
    | '+' :: cs | '-' :: cs => cs
    | cs => cs
  let word := String.ofList (unsigned.map Char.toLower)
  let whole := unsigned.takeWhile Char.isDigit
  let rest := unsigned.drop whole.length
  let places := if rest.head? = some '.' then (rest.drop 1).takeWhile Char.isDigit else []
  let rest := if rest.head? = some '.' then rest.drop (places.length + 1) else rest
  let isExponent := match rest with
    | [] => true
    | e :: cs =>
      let cs := if cs.head? = some '+' || cs.head? = some '-' then cs.drop 1 else cs
      (e = 'e' || e = 'E') && !cs.isEmpty && cs.all Char.isDigit
  ["inf", "infinity", "nan"].contains word ||
    (!(whole.isEmpty && places.isEmpty) && isExponent)

/-- The test that a text states, unless it is no pattern. -/
def ofText? (text : String) : Option ValueTest :=
  if text = "true" || text = "false" || isNumber text then some .unmet
  else (Regex.ofText .modern false text.toList).toOption.map .pattern

/-- A displayed value passes. -/
def passes (value : String) : ValueTest → Bool
  | .unmet => false
  | .pattern regex => regex.matchesAll value.toList

end ValueTest

/-- The field that a text asks for. -/
def FieldTest.ofText? (text : List Char) : Option FieldTest :=
  match (cut (· == '=') text).map String.ofList with
  | [] => none
  | [name] => some { name }
  | name :: value :: _ =>
    (ValueTest.ofText? value).map fun test => { name, value? := some test, written := value }

namespace Directive

/-- A text without the blanks at both of its ends. -/
def trimmed (cs : List Char) : List Char :=
  ((cs.dropWhile Text.isBlank).reverse.dropWhile Text.isBlank).reverse

/-- The part of a text from one place to another. -/
def between (text : List Char) (start stop : Nat) : String :=
  String.ofList ((text.take stop).drop start)

/-- A directive with the threshold that stands behind `=` at a place, if there is one. -/
def withThreshold? (directive : Directive) (text body : List Char) (place : Nat) : Option Directive :=
  match body.drop place with
  | [] => some directive
  | '=' :: _ =>
    match String.ofList (text.drop (place + 1)) with
    | "" => some directive
    | level => (Threshold.ofText? level).map fun threshold => { directive with threshold }
  | _ => none

/-- A directive whose span begins at a place. -/
def withSpan? (directive : Directive) (text body : List Char) (start : Nat) : Option Directive :=
  let stop := start + ((body.drop start).takeWhile fun c => c != ']' && c != '\x7b').length
  match body.drop stop with
  | [] => none
  | ']' :: _ => withThreshold? { directive with span? := some (between text start stop) } text body (stop + 1)
  | _ :: inner =>
    let name := between text start stop
    let length := (inner.takeWhile (· != '\x7d')).length
    let field := between text (stop + 1) (stop + 1 + length)
    match inner.drop length, field.isEmpty, FieldTest.ofText? field.toList with
    | '\x7d' :: ']' :: _, false, some test =>
      withThreshold?
        { directive with span? := if name.isEmpty then none else some name, fields := [test] }
        text body (stop + length + 3)
    | _, _, _ => none

/-- The directive that a text states. Blanks around it do not matter for its form, but they stay in the
    places of the text: a level or an origin next to them is not recognized. -/
def ofText? (stated : String) : Option Directive :=
  let text := stated.toList
  let body := trimmed text
  match body with
  | [] => none
  | '[' :: _ => withSpan? {} text body 1
  | c :: _ =>
    if !(Text.isLetterOrDigit c || c = '-' || c = ':' || c = '_') then none
    else
      let stop := (body.takeWhile fun c => c != '=' && c != '[').length
      let directive : Directive := { origin? := some (between text 0 stop) }
      match body.drop stop with
      | [] =>
        match Threshold.ofText? stated with
        | some threshold => some { threshold }
        | none => some { origin? := some stated }
      | '[' :: _ => withSpan? directive text body (stop + 1)
      | _ => withThreshold? directive text body stop

/-- It is about spans. -/
def aboutSpans (directive : Directive) : Bool :=
  directive.span?.isSome || !directive.fields.isEmpty

/-- It asks for the value of a field. -/
def asksValues (directive : Directive) : Bool :=
  directive.fields.any (·.value?.isSome)

/-- It is about events. -/
def aboutEvents (directive : Directive) : Bool :=
  directive.span?.isNone && !directive.asksValues

/-- The names of the fields that it asks for. -/
def fieldNames (directive : Directive) : List String :=
  directive.fields.map (·.name)

/-- The origin is one that it is about. -/
def coversOrigin (directive : Directive) (origin : Origin) : Bool :=
  directive.origin?.all fun beginning => beginning.toList.isPrefixOf origin.name.toList

/-- An event is one that it is about. -/
def coversEvent (directive : Directive) (event : Event) : Bool :=
  directive.coversOrigin event.origin && directive.fieldNames.all event.fieldNames.contains

/-- A span is one that it is about, the values of fields aside. -/
def coversSpan (directive : Directive) (span : Span) : Bool :=
  directive.coversOrigin span.origin && directive.span?.all (· == span.name) &&
    directive.fieldNames.all (span.fields.map Prod.fst).contains

/-- The fields of a span have the values that it asks for. -/
def passes (directive : Directive) (span : Span) : Bool :=
  directive.fields.all fun field =>
    match field.value?, span.fields.lookup field.name with
    | none, _ => true
    | some test, some value => test.passes value
    | some _, none => false

/-- The length of a beginning of names, none being shorter than any. -/
def originLength (directive : Directive) : Nat :=
  match directive.origin? with
  | none => 0
  | some origin => origin.utf8ByteSize + 1

/-- Of two directives about one event, the first decides: it names more of the origin, or as much of it
    and more fields, or fields that come later in the order of names. -/
def isSpecific (a b : Directive) : Bool :=
  if a.originLength != b.originLength then b.originLength < a.originLength
  else if a.fields.length != b.fields.length then b.fields.length < a.fields.length
  else compare a.fieldNames b.fieldNames == .gt

/-- Two directives are about the same: the later takes the place of the earlier. -/
def sameSubject (a b : Directive) : Bool :=
  a.origin? == b.origin? && a.span? == b.span? &&
    (a.fields.map fun f => (f.name, f.value?.isSome, f.written)) ==
      b.fields.map fun f => (f.name, f.value?.isSome, f.written)

end Directive

/-! ## 3. Filters -/

/-- Directives. -/
abbrev LogFilter := List Directive

namespace LogFilter

/-- The filter that a text states; a text without any directive admits errors only. -/
def ofText? (text : String) : Option LogFilter :=
  match ((cut (· == ',') text.toList).filter (!·.isEmpty)).map String.ofList with
  | [] => some [{ threshold := .atLeast .error }]
  | parts => parts.mapM Directive.ofText?

/-- The filter of the environment, or the usual one if there is none that can be read. -/
def choose (stated : Option Bytes) (verbose : Bool) : LogFilter :=
  match (stated.bind Bytes.decode?).bind ofText? with
  | some filter => filter
  | none => [{ threshold := .atLeast (if verbose then .debug else .warn) }]

/-- Directives without those that a later one about the same replaces. -/
def withoutReplaced : LogFilter → LogFilter
  | [] => []
  | d :: rest => if rest.any d.sameSubject then withoutReplaced rest else d :: withoutReplaced rest

/-- The directive that decides about an event. -/
def deciding? (filter : LogFilter) (event : Event) : Option Directive :=
  ((withoutReplaced (filter.filter (·.aboutEvents))).filter (·.coversEvent event)).foldl
    (fun best d =>
      match best with
      | none => some d
      | some b => if d.isSpecific b then some d else best) none

/-- The most that any directive wants. -/
def ceiling (filter : LogFilter) : Threshold :=
  if filter.any (·.asksValues) then .all else .maxOf (filter.map (·.threshold))

/-- What is logged of the events in a span. -/
def within (filter : LogFilter) (span : Span) : Threshold :=
  let concerned := (withoutReplaced (filter.filter (·.aboutSpans))).filter (·.coversSpan span)
  .maxOf ((concerned.filter (·.passes span)).map (·.threshold))

/-- The event is logged. -/
def admits (filter : LogFilter) (event : Event) : Bool :=
  let byItself := (filter.deciding? event).any (·.threshold.admits event.level)
  let bySpan := filter.ceiling.admits .info && event.spans.any fun span =>
    (filter.within span).admits event.level
  byItself || bySpan

end LogFilter

/-! ## 4. Lines -/

/-- A character of a message as it stands in a line: those that control a terminal are written out. -/
def lineChar (c : Char) : List Char :=
  let n := c.toNat
  if n = 0x1B || n = 0x07 || n = 0x08 || n = 0x0C || n = 0x7F then
    ['\\', 'x', Nat.digitChar (n / 16), Nat.digitChar (n % 16)]
  else if 0x80 ≤ n && n ≤ 0x9F then Text.codePoint c
  else [c]

/-- A field in a log line. -/
def FieldValue.inLine : FieldValue → String
  | .text s => Text.quoted s
  | .bare s => s

/-- An event as a log line, without its level: the origin, the message and the fields. -/
def Event.line (event : Event) : String :=
  event.origin.name ++ ": " ++ String.ofList (event.message.toList.flatMap lineChar) ++
    String.join (event.fields.map fun (name, value) => " " ++ name ++ "=" ++ value.inLine)

end GoldenRun
