import GoldenRun.Text.Unseen

/-!
# Quoted texts

A text is quoted by double quotes around it. Inside, a quote and a backslash get a backslash in front;
zero, tab, line feed and carriage return are written as a backslash and a letter or digit; every other
character that is not seen by itself is written as its code point, in hexadecimal digits and braces
behind `\\u`.
-/

namespace GoldenRun.Text

/-- A code point behind `\\u`. -/
def codePoint (c : Char) : List Char :=
  ['\\', 'u', '\x7b'] ++ Nat.toDigits 16 c.toNat ++ ['\x7d']

/-- A character inside quotes. -/
def quotedChar (c : Char) : List Char :=
  if c = '"' then ['\\', '"']
  else if c = '\\' then ['\\', '\\']
  else if c.toNat = 0 then ['\\', '0']
  else if c = '\t' then ['\\', 't']
  else if c = '\n' then ['\\', 'n']
  else if c = '\r' then ['\\', 'r']
  else if isUnseen c then codePoint c
  else [c]

/-- A text in quotes. -/
def quoted (text : String) : String :=
  String.ofList ('"' :: text.toList.flatMap quotedChar ++ ['"'])

end GoldenRun.Text
