import GoldenRun.Machine.ByteText

/-!
# Names in messages

The messages of a utility show names in one of two ways.

* `quotedWord`: a word of the command line is put in single quotes; inside, a quote, a backslash and what
  is not printed are written with a backslash.
* `quotedName`: the name of a file is written as a shell would have to read it: in quotes, or bare if it
  may be and nothing in it needs quotes. A name with a single quote is put in double quotes if it holds
  nothing that is special there; what is not printed is written in a piece `$'…'` of its own.

Texts are byte texts, and only ASCII is printed.
-/

namespace GoldenRun.Machine

/-- A character that is printed as it is. -/
def isPrinted (c : Char) : Bool :=
  0x20 ≤ c.toNat && c.toNat < 0x7F

/-- A character that is not printed, as it is written behind a backslash. -/
def escapeCode (c : Char) : List Char :=
  match c with
  | '\x07' => ['a']
  | '\x08' => ['b']
  | '\x0c' => ['f']
  | '\n' => ['n']
  | '\r' => ['r']
  | '\t' => ['t']
  | '\x0b' => ['v']
  | c => [c.toNat / 64, c.toNat / 8 % 8, c.toNat % 8].map fun d => Char.ofNat (d + 48)

/-- A word of the command line. -/
def quotedWord (text : String) : String :=
  let shown (c : Char) : List Char :=
    if c = '\\' || c = '\x27' then ['\\', c]
    else if isPrinted c then [c]
    else '\\' :: escapeCode c
  "'" ++ String.ofList (text.toList.flatMap shown) ++ "'"

/-- A character that means the same in single and in double quotes, and outside of them. -/
def isPlain (c : Char) : Bool :=
  c.isAlphanum || "%+,-./:]_ ".toList.contains c

/-- A character that a shell would not read as itself outside of quotes; `first` and `alone` say whether it
    begins the name and whether it is all of it. -/
def needsQuotes (first alone : Bool) (c : Char) : Bool :=
  !isPrinted c || " !\"$&()*;<=>[^|?\\\x60\x27".toList.contains c ||
    (first && (c = '#' || c = '~')) || (alone && (c = '\x7b' || c = '\x7d'))

/-- The rest of a name in single quotes, and the closing quote; `inEscape` says whether a piece `$'…'` is
    open. -/
def quotedRest (inEscape : Bool) : List Char → List Char
  | [] => ['\x27']
  | c :: cs =>
    if isPrinted c then
      let opening := if inEscape then ['\x27', '\x27'] else []
      let shown := if c = '\x27' then ['\x27', '\\', '\x27', '\x27'] else [c]
      if inEscape && c = '\x27' then ['\x27', '\\', '\x27', '\x27'] ++ quotedRest false cs
      else opening ++ shown ++ quotedRest false cs
    else
      let opening := if inEscape then [] else ['\x27', '$', '\x27']
      opening ++ '\\' :: escapeCode c ++ quotedRest true cs

/-- The name of a file, in quotes. -/
def quotedName (name : String) : String :=
  let cs := name.toList
  if cs.contains '\x27' && cs.all fun c => isPlain c || c = '\x27' then "\"" ++ name ++ "\""
  else String.ofList ('\x27' :: quotedRest false cs)

/-- A word as a shell would have to read it. -/
def wordForShell (word : String) : String :=
  let cs := word.toList
  if cs.isEmpty || needsQuotes true (cs.length = 1) (cs.headD ' ') ||
      (cs.drop 1).any (needsQuotes false false) then quotedName word
  else word

/-- The name of a file, in quotes if it needs them. A colon, which ends the name in a message, needs
    them. -/
def shownName (name : String) : String :=
  if name.toList.contains ':' then quotedName name else wordForShell name

end GoldenRun.Machine
