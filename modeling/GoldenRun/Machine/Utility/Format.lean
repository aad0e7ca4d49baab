import GoldenRun.Machine.Escape
import GoldenRun.Machine.Floating
import GoldenRun.Machine.Utility.Basic

/-!
# Printing

* `printf` writes its arguments as a format says, and starts over with the format as long as arguments
  are left.
* `echo` writes its arguments with blanks between them.

Both come in two forms: a shell's own, and a program. They differ in what they can read and in what they
say about an argument that is no number, so a `Printer` tells them apart.
-/

namespace GoldenRun.Machine

/-- Who prints. -/
inductive Printer where
  /-- A shell itself. -/
  | inner
  /-- A program. -/
  | program
  deriving DecidableEq, Repr

/-! ## 1. Formats -/

/-- A width or a precision in a format. -/
inductive Amount where
  | none
  | number (n : Nat)
  /-- The next argument. -/
  | argument
  deriving DecidableEq, Repr

/-- A directive of a format. -/
structure Directive where
  shape : Shape := {}
  width : Amount := .none
  precision : Amount := .none
  kind : Char := 's'
  deriving DecidableEq, Repr

/-- A part of a format. -/
inductive FormatPart where
  | text (cs : List Char)
  | stop
  | directive (directive : Directive)
  /-- What is at fault behind a width and a precision. Nothing behind this is read. -/
  | fault (directive : Directive) (message : String)
  deriving DecidableEq, Repr

/-- The width or precision at the beginning of a text, and the rest. -/
def readAmount (cs : List Char) : Amount × List Char :=
  match cs, leadingDigits cs with
  | '*' :: rest, _ => (.argument, rest)
  | _, (some n, rest) => (.number n, rest)
  | cs, (none, _) => (.none, cs)

/-- The width and the precision at the beginning of a text, and the rest. -/
def readAmounts (cs : List Char) : Amount × Amount × List Char :=
  let (width, rest) := readAmount cs
  match rest with
  | '.' :: rest =>
    match readAmount rest with
    | (.none, rest) => (width, .number 0, rest)
    | (precision, rest) => (width, precision, rest)
  | rest => (width, .none, rest)

namespace Printer

/-- The flags that a directive may have. -/
def flags : Printer → String
  | inner => "#-+ 0"
  | program => "#-+ 0\x27I"

/-- The escapes in formats. -/
def formatEscapes : Printer → EscapeRules
  | inner => {}
  | program => { hexadecimal := true, stops := true, full := true }

/-- The escapes in the arguments of `echo`. -/
def echoEscapes : Printer → EscapeRules
  | inner => { zeroLed := true, stops := true }
  | program => { zeroLed := true, stops := true, hexadecimal := true }

/-- The escapes in the arguments of `%b`. -/
def argumentEscapes (printer : Printer) : EscapeRules :=
  { printer.echoEscapes with full := printer = program }

/-- The precision of floating-point numbers. -/
def floats : Printer → Precision
  | inner => .double
  | program => .extended

/-- The kinds of directives that there are, behind flags and a precision. -/
def allows (printer : Printer) (flags : List Char) (hasPrecision : Bool) (kind : Char) : Bool :=
  let among (kinds : String) := kinds.toList.contains kind
  match printer with
  | inner => among "bcsdiouxXaAeEfFgG"
  | program =>
    among "csdiouxXaAeEfFgG" &&
      !((flags.contains '\x27' || flags.contains 'I') && among "aAceEosxX") &&
      !(flags.contains '#' && among "cdisu") && !(flags.contains '0' && among "cs") &&
      !(hasPrecision && kind = 'c')

/-- A directive is not allowed. `text` is the directive. -/
def invalid (printer : Printer) (text : List Char) : String :=
  match printer with
  | inner => String.ofList text ++ ": invalid directive"
  | program => String.ofList text ++ ": invalid conversion specification"

/-- The directive behind `%`, and what follows it. -/
def readDirective (printer : Printer) (cs : List Char) : FormatPart × List Char :=
  let given := cs.takeWhile (Shape.isFlag printer.flags)
  let (width, precision, behind) := readAmounts (cs.drop given.length)
  let behind := if printer = program then behind.dropWhile (Shape.isFlag "lLhjtz") else behind
  let text := '%' :: cs.take (cs.length - behind.length + 1)
  let directive : Directive := { shape := Shape.ofFlags given, width, precision }
  match printer, cs, behind with
  | inner, _, [] => (.fault directive "missing format character", [])
  | program, 'b' :: rest, _ => (.directive { kind := 'b' }, rest)
  | program, 'q' :: rest, _ => (.directive { kind := 'q' }, rest)
  | _, _, [] => (.fault directive (printer.invalid text), [])
  | _, _, kind :: rest =>
    if printer.allows given (precision != .none) kind then
      (.directive { directive with kind }, rest)
    else (.fault directive (printer.invalid text), [])

/-- The parts of a format. `fuel` covers its length. -/
def readFormat (printer : Printer) : (fuel : Nat) → List Char → List FormatPart
  | 0, _ => []
  | _ + 1, [] => []
  | fuel + 1, '\\' :: cs =>
    match readEscape printer.formatEscapes cs with
    | (.stop, _) => [.stop]
    | (.fault message, _) => [.fault {} message]
    | (.text text, rest) => .text text :: readFormat printer fuel rest
  | fuel + 1, '%' :: '%' :: cs => .text ['%'] :: readFormat printer fuel cs
  | fuel + 1, '%' :: cs =>
    match printer.readDirective cs with
    | (.fault directive message, _) => [.fault directive message]
    | (part, rest) => part :: readFormat printer fuel rest
  | fuel + 1, c :: cs => .text [c] :: readFormat printer fuel cs

end Printer

/-! ## 2. Numbers -/

/-- What is wrong with an argument that should be a number. -/
inductive NumberFault where
  | none
  | noNumber
  /-- Something is behind the number. -/
  | incomplete
  | outOfRange
  deriving DecidableEq, Repr

/-- A whole number at the beginning of a text, behind blanks and a sign, and what follows it. -/
def readWhole? (text : List Char) : Option (Int × List Char) :=
  let number (sign : Int) (cs : List Char) : Option (Int × List Char) :=
    match leadingNumeral cs with
    | (some n, rest) => some (sign * n, rest)
    | (none, _) => none
  match text.dropWhile fun c => c = ' ' || (9 ≤ c.toNat && c.toNat ≤ 13) with
  | '-' :: rest => number (-1) rest
  | rest => number 1 (if rest.head? = some '+' then rest.drop 1 else rest)

namespace Printer

/-- What is wrong with a text of which `rest` is no part of the number. A shell looks at the end of the text
    first, a program at the range. -/
def judge (printer : Printer) (isNumber outside : Bool) (text rest : List Char) : NumberFault :=
  let shape : NumberFault :=
    if isNumber then (if rest.isEmpty then .none else .incomplete)
    else if text.isEmpty then .none
    else .noNumber
  let range : NumberFault := if outside then .outOfRange else .none
  match printer with
  | inner => if shape = .none then range else shape
  | program => if range = .none then shape else range

/-- What is said about a number. -/
def complaint? (printer : Printer) (text : String) : NumberFault → Option String
  | .none => none
  | .noNumber => some <| match printer with
    | inner => text ++ ": expected numeric value"
    | program => quotedWord text ++ ": expected a numeric value"
  | .incomplete => some <| match printer with
    | inner => text ++ ": not completely converted"
    | program => quotedWord text ++ ": value not completely converted"
  | .outOfRange => some <| match printer with
    | inner => text ++ ": Numerical result out of range"
    | program => quotedWord text ++ ": Numerical result out of range"

/-- The character behind a quote that begins an argument, and what is said about the rest. -/
def quotedChar? (printer : Printer) (text : String) : Option (Char × Option String) :=
  match text.toList with
  | quote :: rest =>
    if quote != '"' && quote != '\x27' then none
    else
      match printer, rest with
      | inner, rest => some (rest.headD '\x00', none)
      | program, [] => none
      | program, [c] => some (c, none)
      | program, c :: rest =>
        some (c, some ("warning: " ++ String.ofList rest ++
          ": character(s) following character constant have been ignored"))
  | [] => none

/-- An argument as a whole number, with a sign or not, and what is said about it. -/
def whole (printer : Printer) (isSigned : Bool) (text : String) : Int × NumberFault :=
  match readWhole? text.toList with
  | none => (0, printer.judge false false text.toList text.toList)
  | some (n, rest) =>
    let outside (isOutside : Bool) := printer.judge true isOutside text.toList rest
    if isSigned then
      let most : Int := (Nat.pow 2 63 : Nat) - 1
      if most < n then (most, outside true)
      else if n < -most - 1 then (-most - 1, outside true)
      else (n, outside false)
    else if UInt64.size ≤ n.natAbs then ((UInt64.size : Int) - 1, outside true)
    else (n % UInt64.size, outside false)

/-- An argument as a floating-point number, and what is said about it. -/
def float (printer : Printer) (text : String) : Floating × NumberFault :=
  match Floating.read? printer.floats text.toList with
  | none => (.zero, printer.judge false false text.toList text.toList)
  | some (number, outside, rest) => (number, printer.judge true outside text.toList rest)

end Printer

/-! ## 3. Passes through a format -/

/-- How far printing got. -/
structure Printing where
  /-- What was written, the newest first. -/
  out : List Char := []
  complaints : List String := []
  /-- The arguments that are left. -/
  args : List String
  code : Nat := 0
  ended : Bool := false
  deriving DecidableEq, Repr

namespace Printing

/-- Write a text. -/
def write (printing : Printing) (text : List Char) : Printing :=
  { printing with out := text.reverse ++ printing.out }

/-- Say something. -/
def tell (printing : Printing) (message : Option String) : Printing :=
  { printing with complaints := printing.complaints ++ message.toList }

/-- Say what is wrong, and end with a code. -/
def fail (printing : Printing) (code : Nat) (message : String) : Printing :=
  { printing.tell (some message) with code, ended := true }

/-- The next argument, and the printing without it. -/
def next (printing : Printing) : Option String × Printing :=
  (printing.args.head?, { printing with args := printing.args.drop 1 })

end Printing

namespace Printer

/-- The code behind a fault of a format. -/
def faultCode : Printer → Nat
  | inner => 2
  | program => 1

/-- What became of an argument that should be a number. -/
def told (printer : Printer) (text : String) (fault : NumberFault) (printing : Printing) : Printing :=
  match printer.complaint? text fault with
  | none => printing
  | some message => { printing.tell (some message) with code := 1 }

/-- The next argument as a whole number. -/
def nextWhole (printer : Printer) (isSigned : Bool) (printing : Printing) : Int × Printing :=
  match printing.next with
  | (none, printing) => (0, printing)
  | (some text, printing) =>
    match printer.quotedChar? text with
    | some (c, message) => (c.toNat, printing.tell message)
    | none =>
      let (n, fault) := printer.whole isSigned text
      (n, printer.told text fault printing)

/-- The next argument as a floating-point number. -/
def nextFloat (printer : Printer) (printing : Printing) : Floating × Printing :=
  match printing.next with
  | (none, printing) => (.zero, printing)
  | (some text, printing) =>
    match printer.quotedChar? text with
    | some (c, message) => (.ofInt printer.floats c.toNat, printing.tell message)
    | none =>
      let (number, fault) := printer.float text
      (number, printer.told text fault printing)

/-- The next argument as a width or a precision. One that is too large is a fault of a program, and wraps
    around in a shell. -/
def nextAmount (printer : Printer) (what : String) (printing : Printing) : Int × Printing :=
  let text := printing.args.headD ""
  let (n, printing) := printer.nextWhole true printing
  match printer with
  | inner => (Int.bmod n (Nat.pow 2 32), printing)
  | program =>
    let most : Int := (Nat.pow 2 31 : Nat) - 1
    if most < n || (n < -most - 1 && what = "field width") then
      (0, printing.fail 1 ("invalid " ++ what ++ ": " ++ quotedWord text))
    else (n, printing)

/-- The shape of a directive with the width and the precision that arguments give. -/
def shapeOf (printer : Printer) (directive : Directive) (printing : Printing) : Shape × Printing :=
  let (shape, printing) :=
    match directive.width with
    | .none => (directive.shape, printing)
    | .number n => ({ directive.shape with width := n }, printing)
    | .argument =>
      let (n, printing) := printer.nextAmount "field width" printing
      ({ directive.shape with
          width := n.natAbs
          leftAligned := directive.shape.leftAligned || n < 0 }, printing)
  if printing.ended then (shape, printing)
  else
    match directive.precision with
    | .none => (shape, printing)
    | .number n => ({ shape with precision := some n }, printing)
    | .argument =>
      let (n, printing) := printer.nextAmount "precision" printing
      ({ shape with precision := if n < 0 then none else some n.toNat }, printing)

/-- A text with its escapes read, in a field. -/
def writeUnescaped (printer : Printer) (shape : Shape) (arg : String) (printing : Printing) : Printing :=
  let (text, ended) := unescape printer.argumentEscapes (arg.length + 1) arg.toList
  let printing := printing.write (shape.pad (match shape.precision with
    | some n => text.take n
    | none => text))
  match ended with
  | some (.fault message) => printing.fail printer.faultCode message
  | some _ => { printing with ended := true }
  | none => printing

/-- What a directive writes. -/
def apply (printer : Printer) (directive : Directive) (printing : Printing) : Printing :=
  let (shape, printing) := printer.shapeOf directive printing
  let natural (write : Nat → List Char) : Printing :=
    let (n, printing) := printer.nextWhole false printing
    printing.write (write n.toNat)
  let float (write : Floating → List Char) : Printing :=
    let (number, printing) := printer.nextFloat printing
    printing.write (write number)
  let kind := directive.kind
  if printing.ended then printing
  else
    match kind with
    | 'd' | 'i' =>
      let (n, printing) := printer.nextWhole true printing
      printing.write (shape.decimal n)
    | 'u' => natural fun n => shape.whole [] (shape.digits 10 n)
    | 'o' => natural shape.octal
    | 'x' | 'X' => natural (shape.hexadecimal (kind = 'X'))
    | 'e' | 'E' => float (shape.scientific (kind = 'E'))
    | 'f' | 'F' => float (shape.fixed (kind = 'F'))
    | 'g' | 'G' => float (shape.general (kind = 'G'))
    | 'a' | 'A' => float (shape.binary printer.floats (kind = 'A'))
    | _ =>
      let (arg, printing) := printing.next
      let arg := arg.getD ""
      match kind with
      | 'c' => printing.write (shape.pad [arg.toList.headD '\x00'])
      | 'b' => printer.writeUnescaped shape arg printing
      | 'q' => printing.write (wordForShell arg).toList
      | _ =>
        printing.write (shape.pad (match shape.precision with
          | some n => arg.toList.take n
          | none => arg.toList))

/-- A part of a format carried out, if nothing has ended the printing. -/
def carryOut (printer : Printer) (printing : Printing) (part : FormatPart) : Printing :=
  if printing.ended then printing
  else
    match part with
    | .text text => printing.write text
    | .stop => { printing with ended := true }
    | .fault directive message =>
      let (_, printing) := printer.shapeOf directive printing
      if printing.ended then printing else printing.fail printer.faultCode message
    | .directive directive =>
      if directive.kind = 'q' && printing.args.isEmpty then printing
      else printer.apply directive printing

/-- Passes through a format until the arguments are used up or one uses none; `fuel` covers their
    number. -/
def passes (printer : Printer) (parts : List FormatPart) : (fuel : Nat) → Printing → Printing
  | 0, printing => printing
  | fuel + 1, printing =>
    let after := parts.foldl printer.carryOut printing
    if after.ended || after.args.isEmpty then after
    else if after.args.length = printing.args.length then
      match printer with
      | inner => after
      | program =>
        after.tell (some ("warning: ignoring excess arguments, starting with " ++
          quotedWord (after.args.headD "")))
    else passes printer parts fuel after

/-- A format with arguments. Complaints come before what is written, which is kept back. -/
def format (printer : Printer) (format : String) (args : List String) : Utility := fun errand =>
  let parts := printer.readFormat (format.length + 1) format.toList
  let printing := printer.passes parts (args.length + 1) { args }
  errand.finish printing.code
    (printing.complaints.map (fun text => (.err, ByteText.toBytes (errand.line text))) ++
      [(.out, printing.out.reverse.map ByteText.byteOf)])

end Printer

/-! ## 4. Utilities -/

/-- The `printf` of a shell. -/
def innerPrintf : Utility := fun errand =>
  let operands (args : List String) : Effort :=
    match args with
    | [] => errand.complain 2 (errand.line "usage: printf format [arg ...]")
    | format :: args => Printer.inner.format format args errand
  match errand.args with
  | "--" :: args => operands args
  | first :: rest =>
    match first.toList with
    | '-' :: letter :: _ =>
      errand.complain 2 (errand.line ("Illegal option -" ++ String.singleton letter))
    | _ => operands (first :: rest)
  | [] => operands []

/-- The program `printf`. -/
def printf : Utility := fun errand =>
  match if errand.args.head? = some "--" then errand.args.drop 1 else errand.args with
  | [] => errand.misused "missing operand"
  | format :: args => Printer.program.format format args errand

/-- Arguments with blanks between them. -/
def spaced (args : List String) : String := " ".intercalate args

/-- The arguments on a line, open at its end or not, with escapes read or not. -/
def echoLine (rules : Option EscapeRules) (isOpen : Bool) (args : List String) : Utility :=
  fun errand =>
    let text := spaced args
    let ending := if isOpen then "" else "\n"
    match rules with
    | none => errand.say (text ++ ending)
    | some rules =>
      let (out, ended) := unescape rules (text.length + 1) text.toList
      errand.say (String.ofList out ++ (if ended.isSome then "" else ending))

/-- The `echo` of a shell: escapes are read, and a leading `-n` leaves the line open. -/
def innerEcho : Utility := fun errand =>
  match errand.args with
  | "-n" :: rest => echoLine (some Printer.inner.echoEscapes) true rest errand
  | args => echoLine (some Printer.inner.echoEscapes) false args errand

/-- The program `echo`: leading options `-n`, `-e` and `-E` say whether the line is left open and
    escapes are read. -/
def echo : Utility := fun errand =>
  let isOption (arg : String) : Bool :=
    match after? "-" arg with
    | some letters => !letters.isEmpty && letters.toList.all fun c => "neE".toList.contains c
    | none => false
  let options := errand.args.takeWhile isOption
  let letters := options.flatMap String.toList
  let reads := (letters.reverse.find? fun c => c = 'e' || c = 'E') = some 'e'
  echoLine (if reads then some Printer.program.echoEscapes else none) (letters.contains 'n')
    (errand.args.drop options.length) errand

end GoldenRun.Machine
