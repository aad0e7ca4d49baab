import GoldenRun.Bytes.Utf8

/-!
# Reading what was written

A text is read back from its encoding. The encoding of a character is one piece, of one byte to four; the
four lengths are the four kinds of leads, and the leads that confine their second byte (E0, ED, F0, F4) are
those of the characters at the ends of a length and around the surrogates.

Main statement: `Bytes.decode?_utf8`.
-/

namespace GoldenRun.Bytes

/-! ## 1. Bytes of a sequence -/

/-- Six bits behind a lead. -/
def continuation (k : Nat) : UInt8 :=
  UInt8.ofNat (k % 64 + 128)

@[simp] theorem toNat_continuation (k : Nat) : (continuation k).toNat = k % 64 + 128 :=
  UInt8.toNat_ofNat_of_lt' (show k % 64 + 128 < 256 by omega)

theorem payload_continuation (k : Nat) : payload (continuation k) = k % 64 := by
  rw [payload, toNat_continuation]
  omega

/-- BF is the last continuation byte. -/
theorem le_last (k : Nat) : k % 64 + 128 ≤ (0xBF : UInt8).toNat :=
  Nat.add_le_add_right (Nat.le_of_lt_succ (Nat.mod_lt k (by decide))) 128

theorem isContinuation_continuation (k : Nat) : isContinuation (continuation k) = true := by
  have hlow : (0x80 : UInt8) ≤ continuation k := by
    rw [UInt8.le_iff_toNat_le, toNat_continuation]
    exact Nat.le_add_left ..
  have hhigh : continuation k ≤ (0xBF : UInt8) := by
    rw [UInt8.le_iff_toNat_le, toNat_continuation]
    exact le_last k
  simp [isContinuation, hlow, hhigh]

theorem lead_two : ∀ j < 32, 2 ≤ j → lead (UInt8.ofNat (j + 192)) = .two := by
  decide

/-- The leads of three bytes; `13` is the one in front of the surrogates. -/
theorem lead_three : ∀ j < 16, lead (UInt8.ofNat (j + 224)) =
    .three (if j = 0 then 0xA0 else 0x80) (if j = 13 then 0x9F else 0xBF) := by
  decide

theorem lead_four : ∀ j < 5, lead (UInt8.ofNat (j + 240)) =
    .four (if j = 0 then 0x90 else 0x80) (if j = 4 then 0x8F else 0xBF) := by
  decide

/-! ## 2. Sequences -/

/-- Plain continuation bytes are counted as long as they are wanted. -/
theorem continued_append {cs : Bytes} (h : ∀ c ∈ cs, isContinuation c = true) (rest : Bytes) :
    continued cs.length 0x80 0xBF (cs ++ rest) = cs.length := by
  induction cs with
  | nil => cases rest <;> rfl
  | cons c cs ih =>
      have hc := h c (by simp)
      have hcs := ih fun c hc => h c (by simp [hc])
      rw [isContinuation] at hc
      rw [List.cons_append, List.length_cons, continued, if_pos hc, hcs, Nat.add_comm]

/-- A sequence is complete when its second byte lies where the lead wants it. -/
theorem sequence_continuations (low high : UInt8) {k : Nat} (hlow : low.toNat ≤ k % 64 + 128)
    (hhigh : k % 64 + 128 ≤ high.toNat) (bits : Nat) (ks : List Nat) (rest : Bytes) :
    sequence bits (ks.length + 1) low high ((k :: ks).map continuation ++ rest) =
      (some (Char.ofNat ((k :: ks).foldl (fun n k => n * 64 + k % 64) bits)), ks.length + 1) := by
  have hcontinuations : ∀ c ∈ ks.map continuation, isContinuation c = true := by
    intro c hc
    obtain ⟨k, -, rfl⟩ := List.mem_map.mp hc
    exact isContinuation_continuation k
  have hfirst : (low ≤ continuation k && continuation k ≤ high) = true := by
    simp only [UInt8.le_iff_toNat_le, toNat_continuation, Bool.and_eq_true, decide_eq_true_eq]
    exact ⟨hlow, hhigh⟩
  have hcontinued : continued (ks.length + 1) low high ((k :: ks).map continuation ++ rest) =
      ks.length + 1 := by
    have htail := continued_append hcontinuations rest
    rw [List.length_map] at htail
    rw [List.map_cons, List.cons_append, continued, if_pos hfirst, htail, Nat.add_comm]
  have htake : ((k :: ks).map continuation ++ rest).take (ks.length + 1) =
      (k :: ks).map continuation := List.take_left' (by simp)
  unfold sequence
  simp only [hcontinued, htake, if_true, assemble, List.foldl_map, payload_continuation]

/-! ## 3. Characters -/

/-- A lead and the bytes that it wants are one piece, when the second byte lies where the lead wants it. -/
theorem decodePieces_of_lead (ks : List Nat) {b low high : UInt8} {bits k : Nat}
    (hlead : ∀ bytes, firstPiece b bytes = sequence bits (ks.length + 1) low high bytes)
    (hlow : low.toNat ≤ k % 64 + 128) (hhigh : k % 64 + 128 ≤ high.toNat) (rest : Bytes) :
    decodePieces (b :: ((k :: ks).map continuation ++ rest)) =
      some (Char.ofNat ((k :: ks).foldl (fun n k => n * 64 + k % 64) bits)) :: decodePieces rest := by
  have hpiece := sequence_continuations low high hlow hhigh bits ks rest
  rw [← hlead] at hpiece
  rw [decodePieces_cons, hpiece, List.drop_left' (by simp)]

/-- A lead carries the bits below its mark. -/
theorem bits_lead {j mark size : Nat} (hj : j < size) (hmark : size ∣ mark) (hbyte : size + mark ≤ 256) :
    (UInt8.ofNat (j + mark)).toNat % size = j := by
  rw [UInt8.toNat_ofNat_of_lt' (show j + mark < 256 by omega), Nat.add_mod,
    Nat.mod_eq_zero_of_dvd hmark, Nat.add_zero, Nat.mod_mod, Nat.mod_eq_of_lt hj]

/-- Only the first lead of a length confines the second byte from below. -/
theorem low_le {j k : Nat} {low : UInt8} (h : j = 0 → low.toNat ≤ k % 64 + 128) :
    (if j = 0 then low else 0x80).toNat ≤ k % 64 + 128 := by
  split
  · exact h ‹_›
  · exact Nat.le_add_left ..

/-- Only one lead of a length confines the second byte from above. -/
theorem le_high {j confined k : Nat} {high : UInt8} (h : j = confined → k % 64 + 128 ≤ high.toNat) :
    k % 64 + 128 ≤ (if j = confined then high else 0xBF).toNat := by
  split
  · exact h ‹_›
  · exact le_last k

theorem decodePieces_two {j : Nat} (hj : j < 32) (hlow : 2 ≤ j) (k : Nat) (rest : Bytes) :
    decodePieces (UInt8.ofNat (j + 192) :: continuation k :: rest) =
      some (Char.ofNat (j * 64 + k % 64)) :: decodePieces rest := by
  have hlead : ∀ bytes, firstPiece (UInt8.ofNat (j + 192)) bytes = sequence j 1 0x80 0xBF bytes := by
    intro bytes
    rw [firstPiece, lead_two j hj hlow, bits_lead hj (by decide) (by decide)]
  exact decodePieces_of_lead [] hlead (Nat.le_add_left ..) (le_last k) rest

/-- No overlong form, and no surrogate. -/
theorem decodePieces_three {j k : Nat} (hj : j < 16) (hlow : j = 0 → 32 ≤ k % 64)
    (hhigh : j = 13 → k % 64 < 32) (l : Nat) (rest : Bytes) :
    decodePieces (UInt8.ofNat (j + 224) :: continuation k :: continuation l :: rest) =
      some (Char.ofNat ((j * 64 + k % 64) * 64 + l % 64)) :: decodePieces rest := by
  have hlead : ∀ bytes, firstPiece (UInt8.ofNat (j + 224)) bytes = sequence j 2
      (if j = 0 then 0xA0 else 0x80) (if j = 13 then 0x9F else 0xBF) bytes := by
    intro bytes
    rw [firstPiece, lead_three j hj, bits_lead hj (by decide) (by decide)]
  exact decodePieces_of_lead [l] hlead (low_le fun h => Nat.add_le_add_right (hlow h) 128)
    (le_high fun h => Nat.add_le_add_right (Nat.le_of_lt_succ (hhigh h)) 128) rest

/-- No overlong form, and nothing above U+10FFFF. -/
theorem decodePieces_four {j k : Nat} (hj : j < 5) (hlow : j = 0 → 16 ≤ k % 64)
    (hhigh : j = 4 → k % 64 < 16) (l m : Nat) (rest : Bytes) :
    decodePieces (UInt8.ofNat (j + 240) :: continuation k :: continuation l :: continuation m :: rest) =
      some (Char.ofNat (((j * 64 + k % 64) * 64 + l % 64) * 64 + m % 64)) :: decodePieces rest := by
  have hlead : ∀ bytes, firstPiece (UInt8.ofNat (j + 240)) bytes = sequence j 3
      (if j = 0 then 0x90 else 0x80) (if j = 4 then 0x8F else 0xBF) bytes := by
    intro bytes
    rw [firstPiece, lead_four j hj, bits_lead (show j < 8 by omega) (by decide) (by decide)]
  exact decodePieces_of_lead [l, m] hlead (low_le fun h => Nat.add_le_add_right (hlow h) 128)
    (le_high fun h => Nat.add_le_add_right (Nat.le_of_lt_succ (hhigh h)) 128) rest

/-- The encoding, by its bits. -/
theorem utf8EncodeChar_eq (c : Char) : String.utf8EncodeChar c =
    if c.toNat ≤ 0x7F then [UInt8.ofNat c.toNat]
    else if c.toNat ≤ 0x7FF then [UInt8.ofNat (c.toNat / 64 % 32 + 192), continuation c.toNat]
    else if c.toNat ≤ 0xFFFF then
      [UInt8.ofNat (c.toNat / 4096 % 16 + 224), continuation (c.toNat / 64), continuation c.toNat]
    else
      [UInt8.ofNat (c.toNat / 262144 % 8 + 240), continuation (c.toNat / 4096),
        continuation (c.toNat / 64), continuation c.toNat] := rfl

/-- **The encoding of a character is one piece.** -/
theorem decodePieces_utf8EncodeChar (c : Char) (rest : Bytes) :
    decodePieces (String.utf8EncodeChar c ++ rest) = some c :: decodePieces rest := by
  have hvalid : c.toNat < 0xD800 ∨ 0xDFFF < c.toNat ∧ c.toNat < 0x110000 := c.valid
  have hchar : ∀ {n : Nat}, n = c.toNat → Char.ofNat n = c := fun h => by rw [h, Char.ofNat_toNat]
  rw [utf8EncodeChar_eq]
  split
  · have hbyte : (UInt8.ofNat c.toNat).toNat = c.toNat :=
      UInt8.toNat_ofNat_of_lt' (show c.toNat < 256 by omega)
    have hsingle : UInt8.ofNat c.toNat < 0x80 := by
      rw [UInt8.lt_iff_toNat_lt, hbyte]
      simp only [UInt8.reduceToNat]
      omega
    rw [List.singleton_append, decodePieces_ascii _ _ hsingle, hchar hbyte]
  split
  · have htwo := decodePieces_two (j := c.toNat / 64 % 32) (by omega) (by omega) c.toNat rest
    rw [hchar (by omega)] at htwo
    exact htwo
  split
  · have hthree := decodePieces_three (j := c.toNat / 4096 % 16) (k := c.toNat / 64) (by omega)
      (by omega) (by omega) c.toNat rest
    rw [hchar (by omega)] at hthree
    exact hthree
  · have hfour := decodePieces_four (j := c.toNat / 262144 % 8) (k := c.toNat / 4096) (by omega)
      (by omega) (by omega) (c.toNat / 64) c.toNat rest
    rw [hchar (by omega)] at hfour
    exact hfour

/-! ## 4. Texts -/

/-- **A text is read back from its encoding.** -/
theorem decode?_utf8 (text : String) : decode? (utf8 text) = some text := by
  have hpieces : ∀ cs : List Char,
      decodePieces (cs.flatMap String.utf8EncodeChar) = cs.map some := by
    intro cs
    induction cs with
    | nil => rfl
    | cons c cs ih => rw [List.flatMap_cons, decodePieces_utf8EncodeChar, ih, List.map_cons]
  have hall : ∀ cs : List Char, (cs.map some).mapM id = some cs := by
    intro cs
    induction cs with
    | nil => rfl
    | cons c cs ih => simp [ih]
  rw [decode?, utf8, hpieces, hall, Option.map_some, String.ofList_toList]

end GoldenRun.Bytes
