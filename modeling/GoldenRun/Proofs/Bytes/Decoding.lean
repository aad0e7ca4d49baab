import GoldenRun.Proofs.Bytes.Encoding
import Mathlib.Tactic.SplitIfs

/-!
# What is read was written

The exact reading accepts nothing but encodings: a well-formed piece is the encoding of the character that
it is read as. A lead confines its second byte so that no overlong form, no surrogate and nothing above
U+10FFFF passes, and these are the forms that no encoding has.

* `lead_numbers`: the numbers of the leads of each kind, and how they confine the second byte;
* `utf8EncodeChar_of_firstPiece`: a piece is an encoding;
* `eq_encoding_of_pieces`: so is a byte string without an ill-formed piece.

Main statement: `Bytes.decode?_eq_some_iff`, a byte string is read as a text exactly when it is the text's
encoding.
-/

namespace GoldenRun.Bytes

/-! ## 1. Leads and continuations -/

/-- The number of a lead lies in the range of its kind. -/
theorem lead_numbers (b : UInt8) :
    match lead b with
    | .single => b.toNat < 128
    | .two => 194 ≤ b.toNat ∧ b.toNat < 224
    | .three low high => 224 ≤ b.toNat ∧ b.toNat < 240 ∧
        128 ≤ low.toNat ∧ (b.toNat = 224 → 160 ≤ low.toNat) ∧
        high.toNat ≤ 191 ∧ (b.toNat = 237 → high.toNat ≤ 159)
    | .four low high => 240 ≤ b.toNat ∧ b.toNat < 245 ∧
        128 ≤ low.toNat ∧ (b.toNat = 240 → 144 ≤ low.toNat) ∧
        high.toNat ≤ 191 ∧ (b.toNat = 244 → high.toNat ≤ 143)
    | .none => True := by
  unfold lead
  simp only [UInt8.lt_iff_toNat_lt, ← UInt8.toNat_inj, UInt8.reduceToNat]
  split_ifs <;> simp only [UInt8.reduceToNat] <;> omega

/-- A byte is known by its number. -/
theorem ofNat_of_toNat {b : UInt8} {n : Nat} (h : n = b.toNat) : UInt8.ofNat n = b := by
  rw [h, UInt8.ofNat_toNat]

/-- A continuation byte is known by its payload. -/
theorem continuation_of_toNat {c : UInt8} {k : Nat} (h : k % 64 + 128 = c.toNat) :
    continuation k = c :=
  ofNat_of_toNat h

/-- If a byte is wanted and all that are wanted continue, there is a next byte, and it lies where the lead
    wants it. -/
theorem exists_continued {n : Nat} {low high : UInt8} {rest : Bytes}
    (h : continued (n + 1) low high rest = n + 1) :
    ∃ c tail, rest = c :: tail ∧ low.toNat ≤ c.toNat ∧ c.toNat ≤ high.toNat ∧
      continued n 0x80 0xBF tail = n := by
  cases rest with
  | nil =>
      rw [continued] at h
      omega
  | cons c tail =>
      rw [continued] at h
      split at h
      · rename_i hc
        simp only [Bool.and_eq_true, decide_eq_true_eq, UInt8.le_iff_toNat_le] at hc
        exact ⟨c, tail, rfl, hc.1, hc.2, by omega⟩
      · omega

/-- A sequence that is read as a character is complete. -/
theorem sequence_eq_some {bits wanted : Nat} {low high : UInt8} {rest : Bytes} {c : Char} {n : Nat}
    (h : sequence bits wanted low high rest = (some c, n)) :
    continued wanted low high rest = wanted ∧ c = assemble bits (rest.take wanted) ∧ n = wanted := by
  unfold sequence at h
  obtain ⟨hchar, hcount⟩ := Prod.mk.inj h
  split at hchar
  · rename_i hall
    rw [hall] at hchar hcount
    exact ⟨hall, (Option.some.inj hchar).symm, hcount.symm⟩
  · cases hchar

/-! ## 2. Pieces -/

/-- The encoding of the character with a given number, by its bits. -/
theorem utf8EncodeChar_ofNat {v : Nat} (hv : v.isValidChar) : String.utf8EncodeChar (Char.ofNat v) =
    if v ≤ 0x7F then [UInt8.ofNat v]
    else if v ≤ 0x7FF then [UInt8.ofNat (v / 64 % 32 + 192), continuation v]
    else if v ≤ 0xFFFF then
      [UInt8.ofNat (v / 4096 % 16 + 224), continuation (v / 64), continuation v]
    else
      [UInt8.ofNat (v / 262144 % 8 + 240), continuation (v / 4096), continuation (v / 64),
        continuation v] := by
  have hnumber : (Char.ofNat v).toNat = v := by
    rw [Char.ofNat, dif_pos hv]
    rfl
  rw [utf8EncodeChar_eq, hnumber]

/-- **A well-formed piece is the encoding of its character.** -/
theorem utf8EncodeChar_of_firstPiece {b : UInt8} {rest : Bytes} {c : Char} {n : Nat}
    (h : firstPiece b rest = (some c, n)) : b :: rest.take n = String.utf8EncodeChar c := by
  have hnumbers := lead_numbers b
  unfold firstPiece at h
  -- One case for each kind of lead; in each the number of the character tells its length.
  split at h
  · rename_i hlead
    rw [hlead] at hnumbers
    obtain ⟨hc, rfl⟩ := Prod.mk.inj h
    obtain rfl := Option.some.inj hc
    have hnumbers : b.toNat < 128 := hnumbers
    rw [utf8EncodeChar_ofNat (.inl (by omega)), if_pos (by omega), UInt8.ofNat_toNat, List.take_zero]
  · cases h
  · rename_i hlead
    rw [hlead] at hnumbers
    obtain ⟨hall, rfl, rfl⟩ := sequence_eq_some h
    obtain ⟨c₁, tail, rfl, hlow₁, hhigh₁, -⟩ := exists_continued hall
    simp only [UInt8.reduceToNat] at hlow₁ hhigh₁ hnumbers
    have hvalue : assemble (b.toNat % 32) ((c₁ :: tail).take 1) =
      Char.ofNat (b.toNat % 32 * 64 + c₁.toNat % 64) := rfl
    rw [hvalue, utf8EncodeChar_ofNat (.inl (by omega)), if_neg (by omega), if_pos (by omega),
      ofNat_of_toNat (b := b) (by omega), continuation_of_toNat (c := c₁) (by omega)]
    rfl
  · rename_i low high hlead
    rw [hlead] at hnumbers
    obtain ⟨hall, rfl, rfl⟩ := sequence_eq_some h
    obtain ⟨c₁, tail, rfl, hlow₁, hhigh₁, hrest⟩ := exists_continued hall
    obtain ⟨c₂, tail, rfl, hlow₂, hhigh₂, -⟩ := exists_continued hrest
    simp only [UInt8.reduceToNat] at hlow₂ hhigh₂ hnumbers
    have hvalue : assemble (b.toNat % 16) ((c₁ :: c₂ :: tail).take 2) =
      Char.ofNat ((b.toNat % 16 * 64 + c₁.toNat % 64) * 64 + c₂.toNat % 64) := rfl
    have hvalid : ((b.toNat % 16 * 64 + c₁.toNat % 64) * 64 + c₂.toNat % 64).isValidChar := by
      unfold Nat.isValidChar
      omega
    rw [hvalue, utf8EncodeChar_ofNat hvalid, if_neg (by omega), if_neg (by omega), if_pos (by omega),
      ofNat_of_toNat (b := b) (by omega), continuation_of_toNat (c := c₁) (by omega),
      continuation_of_toNat (c := c₂) (by omega)]
    rfl
  · rename_i low high hlead
    rw [hlead] at hnumbers
    obtain ⟨hall, rfl, rfl⟩ := sequence_eq_some h
    obtain ⟨c₁, tail, rfl, hlow₁, hhigh₁, hrest⟩ := exists_continued hall
    obtain ⟨c₂, tail, rfl, hlow₂, hhigh₂, hrest⟩ := exists_continued hrest
    obtain ⟨c₃, tail, rfl, hlow₃, hhigh₃, -⟩ := exists_continued hrest
    simp only [UInt8.reduceToNat] at hlow₂ hhigh₂ hlow₃ hhigh₃ hnumbers
    have hvalue : assemble (b.toNat % 8) ((c₁ :: c₂ :: c₃ :: tail).take 3) =
      Char.ofNat (((b.toNat % 8 * 64 + c₁.toNat % 64) * 64 + c₂.toNat % 64) * 64 + c₃.toNat % 64) := rfl
    have hvalid : (((b.toNat % 8 * 64 + c₁.toNat % 64) * 64 + c₂.toNat % 64) * 64 +
        c₃.toNat % 64).isValidChar := by
      unfold Nat.isValidChar
      omega
    rw [hvalue, utf8EncodeChar_ofNat hvalid, if_neg (by omega), if_neg (by omega), if_neg (by omega),
      ofNat_of_toNat (b := b) (by omega), continuation_of_toNat (c := c₁) (by omega),
      continuation_of_toNat (c := c₂) (by omega), continuation_of_toNat (c := c₃) (by omega)]
    rfl

/-- **A byte string without an ill-formed piece** is the encoding of the characters of its pieces. -/
theorem eq_encoding_of_pieces {bytes : Bytes} {cs : List Char}
    (h : decodePieces bytes = cs.map some) : bytes = cs.flatMap String.utf8EncodeChar := by
  induction cs generalizing bytes with
  | nil =>
      cases bytes with
      | nil => rfl
      | cons b rest =>
          rw [decodePieces_cons] at h
          cases h
  | cons c cs ih =>
      cases bytes with
      | nil => cases h
      | cons b rest =>
          rw [decodePieces_cons, List.map_cons] at h
          obtain ⟨hfirst, hrest⟩ := List.cons.inj h
          have hpiece : firstPiece b rest = (some c, (firstPiece b rest).2) := by rw [← hfirst]
          rw [List.flatMap_cons, ← utf8EncodeChar_of_firstPiece hpiece, ← ih hrest, List.cons_append,
            List.take_append_drop]

/-! ## 3. Texts -/

/-- Pieces all of which are well-formed are characters. -/
theorem mapM_id_eq_some {pieces : List (Option Char)} {cs : List Char} (h : pieces.mapM id = some cs) :
    pieces = cs.map some := by
  induction pieces generalizing cs with
  | nil =>
      obtain rfl : [] = cs := Option.some.inj h
      rfl
  | cons p pieces ih =>
      cases p with
      | none => simp at h
      | some c =>
          rw [List.mapM_cons] at h
          cases hrest : pieces.mapM id with
          | none => simp [hrest] at h
          | some rest =>
              obtain rfl : c :: rest = cs := by simpa [hrest] using h
              rw [ih hrest, List.map_cons]

/-- **A byte string is read as a text exactly when it is the text's encoding.** -/
theorem decode?_eq_some_iff {bytes : Bytes} {text : String} :
    decode? bytes = some text ↔ bytes = utf8 text := by
  constructor
  · intro h
    unfold decode? at h
    obtain ⟨cs, hcs, rfl⟩ := Option.map_eq_some_iff.mp h
    rw [utf8, String.toList_ofList]
    exact eq_encoding_of_pieces (mapM_id_eq_some hcs)
  · rintro rfl
    exact decode?_utf8 text

end GoldenRun.Bytes
