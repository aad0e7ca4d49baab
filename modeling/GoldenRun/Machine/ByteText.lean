import GoldenRun.Bytes.Basic

/-!
# Texts of single bytes

The programs of the machine work on bytes, and most of these are letters. A *byte text* is a text whose
characters all lie below U+0100, each standing for one byte. In this form bytes can be compared with
literals. `ofBytes` and `toBytes` are inverse to each other on byte texts.
-/

namespace GoldenRun.ByteText

/-- The character that stands for a byte. -/
def charOf (b : UInt8) : Char :=
  Char.ofUInt8 b

/-- The byte that a character stands for. -/
def byteOf (c : Char) : UInt8 :=
  c.toUInt8

/-- The byte text of a byte string. -/
def ofBytes (bytes : Bytes) : String :=
  String.ofList (bytes.map charOf)

/-- The byte string of a byte text. -/
def toBytes (text : String) : Bytes :=
  text.toList.map byteOf

@[simp] theorem byteOf_charOf (b : UInt8) : byteOf (charOf b) = b :=
  show b.toUInt32.toUInt8 = b from UInt8.toUInt8_toUInt32 b

@[simp] theorem toBytes_ofBytes (bytes : Bytes) : toBytes (ofBytes bytes) = bytes := by
  simp [toBytes, ofBytes, Function.comp_def]

end GoldenRun.ByteText
