import GoldenRun.Bytes.Basic

/-!
# Reading bytes as text

A byte string is read from the left in *pieces*: a piece is one well-formed UTF-8 sequence, or a
maximal subpart of an ill-formed one (the longest beginning that some well-formed sequence also has,
at least one byte). `decodePieces` lists the pieces, `none` standing for an ill-formed one.

* `decode?` is the exact reading: there is one if no piece is ill-formed.
* `lossy` is the reading for display: each ill-formed piece becomes U+FFFD.

A second byte is confined further after four leads: E0 (no overlong form), ED (no surrogate), F0 (no
overlong form) and F4 (nothing above U+10FFFF).
-/

namespace GoldenRun.Bytes

/-! ## 1. Leads and continuations -/

/-- What a first byte announces. -/
inductive Lead where
  /-- A character of its own. -/
  | single
  /-- A sequence of two bytes. -/
  | two
  /-- A sequence of three bytes whose second byte lies in `low … high`. -/
  | three (low high : UInt8)
  /-- A sequence of four bytes whose second byte lies in `low … high`. -/
  | four (low high : UInt8)
  /-- A byte that starts no sequence. -/
  | none
  deriving DecidableEq, Repr

/-- The announcement of a first byte. -/
def lead (b : UInt8) : Lead :=
  if b < 0x80 then .single
  else if b < 0xC2 then .none
  else if b < 0xE0 then .two
  else if b = 0xE0 then .three 0xA0 0xBF
  else if b = 0xED then .three 0x80 0x9F
  else if b < 0xF0 then .three 0x80 0xBF
  else if b = 0xF0 then .four 0x90 0xBF
  else if b < 0xF4 then .four 0x80 0xBF
  else if b = 0xF4 then .four 0x80 0x8F
  else .none

/-- A continuation byte. -/
def isContinuation (b : UInt8) : Bool :=
  0x80 ≤ b && b ≤ 0xBF

/-- The six payload bits of a continuation byte. -/
def payload (b : UInt8) : Nat :=
  b.toNat % 64

/-! ## 2. Pieces -/

/-- Bits of the first byte followed by the payloads of continuation bytes, as a character. -/
def assemble (bits : Nat) (continuations : Bytes) : Char :=
  Char.ofNat (continuations.foldl (fun n c => n * 64 + payload c) bits)

/-- How many bytes of `rest`, at most `wanted`, continue a sequence whose next byte must lie in
    `low … high` and whose later ones are plain continuation bytes. -/
def continued (wanted : Nat) (low high : UInt8) : Bytes → Nat
  | [] => 0
  | c :: rest =>
    match wanted with
    | 0 => 0
    | n + 1 => if low ≤ c && c ≤ high then 1 + continued n 0x80 0xBF rest else 0

/-- The piece whose first byte carries `bits` and wants `wanted` more bytes of `rest`. -/
def sequence (bits wanted : Nat) (low high : UInt8) (rest : Bytes) : Option Char × Nat :=
  let n := continued wanted low high rest
  (if n = wanted then some (assemble bits (rest.take n)) else none, n)

/-- The first piece of `b :: rest`, and how many bytes of `rest` belong to it. -/
def firstPiece (b : UInt8) (rest : Bytes) : Option Char × Nat :=
  match lead b with
  | .single => (some (Char.ofNat b.toNat), 0)
  | .none => (none, 0)
  | .two => sequence (b.toNat % 32) 1 0x80 0xBF rest
  | .three low high => sequence (b.toNat % 16) 2 low high rest
  | .four low high => sequence (b.toNat % 8) 3 low high rest

/-- The pieces of a byte string no longer than `fuel`. -/
def piecesWithin : Nat → Bytes → List (Option Char)
  | _, [] => []
  | 0, _ :: _ => []
  | fuel + 1, b :: rest =>
    (firstPiece b rest).1 :: piecesWithin fuel (rest.drop (firstPiece b rest).2)

/-- The pieces of a byte string, from the left; `none` is an ill-formed piece. -/
def decodePieces (bytes : Bytes) : List (Option Char) :=
  piecesWithin bytes.length bytes

/-- Any fuel that covers the length gives the same pieces. -/
theorem piecesWithin_eq {fuel : Nat} {bytes : Bytes} (h : bytes.length ≤ fuel) :
    piecesWithin fuel bytes = decodePieces bytes := by
  suffices ∀ n fuel (bytes : Bytes), bytes.length ≤ n → n ≤ fuel →
      piecesWithin fuel bytes = piecesWithin n bytes from
    (this bytes.length fuel bytes (Nat.le_refl _) h)
  intro n
  induction n with
  | zero =>
    intro fuel bytes hn _
    cases bytes with
    | nil => cases fuel <;> rfl
    | cons => simp at hn
  | succ n ih =>
    intro fuel bytes hn hf
    cases bytes with
    | nil => cases fuel <;> rfl
    | cons b rest =>
      obtain ⟨fuel, rfl⟩ : ∃ m, fuel = m + 1 := ⟨fuel - 1, by omega⟩
      simp only [List.length_cons] at hn
      simp only [piecesWithin]
      rw [ih fuel _ (by simp only [List.length_drop]; omega) (by omega)]

@[simp] theorem decodePieces_nil : decodePieces [] = [] := rfl

/-- Reading goes piece by piece. -/
theorem decodePieces_cons (b : UInt8) (rest : Bytes) :
    decodePieces (b :: rest) =
      (firstPiece b rest).1 :: decodePieces (rest.drop (firstPiece b rest).2) := by
  rw [decodePieces, List.length_cons, piecesWithin]
  rw [piecesWithin_eq (by simp only [List.length_drop]; omega)]

/-! ## 3. The two readings -/

/-- The text that the bytes encode, if they encode one. -/
def decode? (bytes : Bytes) : Option String :=
  ((decodePieces bytes).mapM id).map String.ofList

/-- The text for display: every ill-formed piece becomes U+FFFD. -/
def lossy (bytes : Bytes) : String :=
  String.ofList ((decodePieces bytes).map (·.getD '\uFFFD'))

/-- A pure seven-bit byte is its own piece. -/
theorem decodePieces_ascii (b : UInt8) (rest : Bytes) (h : b < 0x80) :
    decodePieces (b :: rest) = some (Char.ofNat b.toNat) :: decodePieces rest := by
  simp [decodePieces_cons, firstPiece, lead, h]

end GoldenRun.Bytes
