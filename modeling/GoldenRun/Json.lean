/-!
# JSON documents

A small document type for reports, and the two layouts it is written in.

* `compact`: no blanks at all.
* `pretty`: every member and every element on a line of its own, two blanks deeper than its container;
  an empty container is written `[]` or `{}` in braces; a colon is followed by one blank.

Strings are written with `"` and `\` escaped, the five control characters that have a short form in
that form, all other control characters below U+0020 as `\u00xx`, and everything else as it is.
-/

namespace GoldenRun

/-- A document. Members keep their order. -/
inductive Json where
  /-- A natural number. -/
  | num (n : Nat)
  /-- A text. -/
  | str (text : String)
  /-- A list. -/
  | arr (elements : List Json)
  /-- A record. -/
  | obj (members : List (String × Json))
  deriving Repr, Inhabited

namespace Json

/-! ## 1. Strings -/

/-- A digit of a `\u` escape. -/
def hexDigit (n : Nat) : Char :=
  if n < 10 then Char.ofNat (0x30 + n) else Char.ofNat (0x61 + (n - 10))

/-- The written form of one character inside a string. -/
def escapeChar (c : Char) : List Char :=
  if c = '"' then ['\\', '"']
  else if c = '\\' then ['\\', '\\']
  else if c.toNat = 0x08 then ['\\', 'b']
  else if c.toNat = 0x09 then ['\\', 't']
  else if c.toNat = 0x0A then ['\\', 'n']
  else if c.toNat = 0x0C then ['\\', 'f']
  else if c.toNat = 0x0D then ['\\', 'r']
  else if c.toNat < 0x20 then
    ['\\', 'u', '0', '0', hexDigit (c.toNat / 16), hexDigit (c.toNat % 16)]
  else [c]

/-- The written form of a text, quotes included. -/
def quoteChars (chars : List Char) : List Char :=
  '"' :: chars.flatMap escapeChar ++ ['"']

/-- The written form of a text. -/
def quote (text : String) : String :=
  String.ofList (quoteChars text.toList)

/-! ## 2. Layouts -/

mutual

/-- The document without blanks. -/
def compact : Json → String
  | num n => toString n
  | str text => quote text
  | arr elements => "[" ++ ",".intercalate (compactElements elements) ++ "]"
  | obj members => "\x7b" ++ ",".intercalate (compactMembers members) ++ "\x7d"

/-- The elements of a list, each without blanks. -/
def compactElements : List Json → List String
  | [] => []
  | e :: es => compact e :: compactElements es

/-- The members of a record, each without blanks. -/
def compactMembers : List (String × Json) → List String
  | [] => []
  | (key, value) :: ms => (quote key ++ ":" ++ compact value) :: compactMembers ms

end

/-- The beginning of a line at the given depth. -/
def newline (depth : Nat) : String :=
  "\n" ++ String.ofList (List.replicate (2 * depth) ' ')

/-- A container in brackets: every item on its own line, or nothing at all between the brackets. -/
def block (opening closing : String) (depth : Nat) (items : List String) : String :=
  if items.isEmpty then opening ++ closing
  else
    opening ++ newline (depth + 1) ++ ("," ++ newline (depth + 1)).intercalate items ++
      newline depth ++ closing

mutual

/-- The document over several lines, its container standing at `depth`. -/
def prettyAt (depth : Nat) : Json → String
  | num n => toString n
  | str text => quote text
  | arr elements => block "[" "]" depth (prettyElements (depth + 1) elements)
  | obj members => block "\x7b" "\x7d" depth (prettyMembers (depth + 1) members)

/-- The elements of a list, at `depth`. -/
def prettyElements (depth : Nat) : List Json → List String
  | [] => []
  | e :: es => prettyAt depth e :: prettyElements depth es

/-- The members of a record, at `depth`. -/
def prettyMembers (depth : Nat) : List (String × Json) → List String
  | [] => []
  | (key, value) :: ms => (quote key ++ ": " ++ prettyAt depth value) :: prettyMembers depth ms

end

/-- The document over several lines. -/
def pretty (document : Json) : String :=
  prettyAt 0 document

end Json

end GoldenRun
