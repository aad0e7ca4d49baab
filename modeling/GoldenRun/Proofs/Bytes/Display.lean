import GoldenRun.Proofs.Bytes.Decoding
import GoldenRun.Path

/-!
# Names for display

What is displayed for a byte string is not always what the byte string was, but a path is still displayed
name by name: a byte below 0x80 is a piece of its own, so no ill-formed piece reaches over a slash, and
nothing but a slash is displayed as one.

* `firstPiece_before`: a piece ends in front of a byte below 0x80;
* `pieces_induction`: induction along the pieces of a byte string; `decodePieces_append` and
  `mem_of_mem_decodePieces` go by it;
* `lossy_join`: how names that are joined by slashes are displayed.

Main statements: `Bytes.lossy_join_inj`, joined names look the same exactly if each name looks the same;
`Bytes.eq_of_map_lossy`, and names that are texts look the same only if they are the same.
-/

namespace GoldenRun

/-! ## 1. Joining and cutting -/

/-- Stretches without the separator are cut apart again. -/
theorem cut_join {α : Type} [BEq α] [LawfulBEq α] (s : α) {pieces : List (List α)} (hne : pieces ≠ [])
    (h : ∀ piece ∈ pieces, s ∉ piece) : cut (· == s) (join s pieces) = pieces := by
  induction pieces with
  | nil => exact absurd rfl hne
  | cons piece pieces ih =>
      have hpiece : cut (· == s) piece = [piece] := by
        refine cut_of_none fun x hx => beq_eq_false_iff_ne.2 ?_
        rintro rfl
        exact h piece List.mem_cons_self hx
      by_cases hlast : pieces = []
      · rw [hlast, join_singleton, hpiece]
      · rw [join_cons s piece hlast, cut_append_cons (p := (· == s)) (beq_self_eq_true s), hpiece,
          ih hlast fun p hp => h p (List.mem_cons_of_mem _ hp)]
        rfl

namespace Bytes

/-! ## 2. Pieces end in front of a seven-bit byte -/

/-- A byte that is its own piece continues nothing. -/
theorem continued_before {wanted : Nat} {low high c : UInt8} (hlow : 128 ≤ low.toNat) (hc : c < 0x80)
    (bytes rest : Bytes) :
    continued wanted low high (bytes ++ c :: rest) = continued wanted low high bytes := by
  have hstop : ∀ low high : UInt8, 128 ≤ low.toNat → (low ≤ c && c ≤ high) = false := by
    intro low high hlow
    rw [UInt8.lt_iff_toNat_lt] at hc
    have hlt : ¬ low ≤ c := by
      rw [UInt8.le_iff_toNat_le]
      simp only [UInt8.reduceToNat] at hc
      omega
    simp [hlt]
  induction bytes generalizing wanted low high with
  | nil =>
      cases wanted with
      | zero => rfl
      | succ n => rw [List.nil_append, continued, continued, hstop low high hlow, if_neg Bool.false_ne_true]
  | cons b bytes ih =>
      cases wanted with
      | zero => rfl
      | succ n => rw [List.cons_append, continued, continued, ih (by decide)]

/-- What continues a piece is there. -/
theorem continued_le (wanted : Nat) (low high : UInt8) (bytes : Bytes) :
    continued wanted low high bytes ≤ bytes.length := by
  induction bytes generalizing wanted low high with
  | nil => cases wanted <;> exact Nat.le_refl 0
  | cons b bytes ih =>
      cases wanted with
      | zero => exact Nat.zero_le _
      | succ n =>
          rw [continued]
          split
          · have hrest := ih n 0x80 0xBF
            rw [List.length_cons]
            omega
          · exact Nat.zero_le _

theorem sequence_before {low c : UInt8} (hlow : 128 ≤ low.toNat) (hc : c < 0x80) (bits wanted : Nat)
    (high : UInt8) (bytes rest : Bytes) :
    sequence bits wanted low high (bytes ++ c :: rest) = sequence bits wanted low high bytes := by
  simp only [sequence, continued_before hlow hc,
    List.take_append_of_le_length (continued_le wanted low high bytes)]

/-- **The first piece** is not touched by a seven-bit byte behind it, and ends before that. -/
theorem firstPiece_before {c : UInt8} (hc : c < 0x80) (b : UInt8) (bytes rest : Bytes) :
    firstPiece b (bytes ++ c :: rest) = firstPiece b bytes ∧ (firstPiece b bytes).2 ≤ bytes.length := by
  have hnumbers := lead_numbers b
  unfold firstPiece
  split at hnumbers
  · rename_i hlead
    rw [hlead]
    exact ⟨rfl, Nat.zero_le _⟩
  · rename_i hlead
    rw [hlead]
    exact ⟨sequence_before (by decide) hc _ _ _ _ _, continued_le _ _ _ _⟩
  · rename_i low high hlead
    rw [hlead]
    exact ⟨sequence_before hnumbers.2.2.1 hc _ _ _ _ _, continued_le _ _ _ _⟩
  · rename_i low high hlead
    rw [hlead]
    exact ⟨sequence_before hnumbers.2.2.1 hc _ _ _ _ _, continued_le _ _ _ _⟩
  · rename_i hlead
    rw [hlead]
    exact ⟨rfl, Nat.zero_le _⟩

/-- Induction along the pieces of a byte string. -/
theorem pieces_induction {motive : Bytes → Prop} (nil : motive [])
    (cons : ∀ b rest, motive (rest.drop (firstPiece b rest).2) → motive (b :: rest)) :
    ∀ bytes, motive bytes
  | [] => nil
  | b :: rest => cons b rest (pieces_induction nil cons (rest.drop (firstPiece b rest).2))
termination_by bytes => bytes.length
decreasing_by
  rw [List.length_drop, List.length_cons]
  omega

/-- **Both sides of a seven-bit byte** are read on their own. -/
theorem decodePieces_append {c : UInt8} (hc : c < 0x80) (bytes rest : Bytes) :
    decodePieces (bytes ++ c :: rest) = decodePieces bytes ++ decodePieces (c :: rest) := by
  induction bytes using pieces_induction with
  | nil => rfl
  | cons b bytes ih =>
      obtain ⟨hpiece, hle⟩ := firstPiece_before hc b bytes rest
      rw [List.cons_append, decodePieces_cons, decodePieces_cons, hpiece,
        List.drop_append_of_le_length hle, ih, List.cons_append]

/-- The encoding of a well-formed piece lies in the byte string. -/
theorem mem_of_mem_decodePieces {bytes : Bytes} {c : Char} (h : some c ∈ decodePieces bytes)
    {byte : UInt8} (hbyte : byte ∈ String.utf8EncodeChar c) : byte ∈ bytes := by
  induction bytes using pieces_induction with
  | nil => cases h
  | cons b rest ih =>
      rw [decodePieces_cons, List.mem_cons] at h
      rcases h with h | h
      · have hpiece : firstPiece b rest = (some c, (firstPiece b rest).2) := by rw [h]
        rw [← utf8EncodeChar_of_firstPiece hpiece] at hbyte
        rcases List.mem_cons.1 hbyte with rfl | hbyte
        · exact List.mem_cons_self
        · exact List.mem_cons_of_mem _ (List.mem_of_mem_take hbyte)
      · exact List.mem_cons_of_mem _ (List.mem_of_mem_drop (ih h))

/-! ## 3. Texts for display -/

/-- The byte string is the encoding of a text. -/
def IsText (bytes : Bytes) : Prop :=
  ∃ text, bytes = utf8 text

/-- A text is displayed as it is. -/
theorem lossy_utf8 (text : String) : lossy (utf8 text) = text := by
  have h := decode?_utf8 text
  unfold decode? at h
  obtain ⟨cs, hcs, htext⟩ := Option.map_eq_some_iff.1 h
  have hid : (fun piece : Option Char => piece.getD '\uFFFD') ∘ some = id := rfl
  rw [lossy, mapM_id_eq_some hcs, List.map_map, hid, List.map_id, htext]

/-- Texts are told apart by their display. -/
theorem eq_of_map_lossy {a b : List Bytes} (ha : ∀ name ∈ a, IsText name) (hb : ∀ name ∈ b, IsText name)
    (h : a.map lossy = b.map lossy) : a = b := by
  have hutf8 : ∀ names : List Bytes, (∀ name ∈ names, IsText name) →
      (names.map lossy).map utf8 = names := by
    intro names hnames
    rw [List.map_map]
    refine (List.map_congr_left fun name hname => ?_).trans (List.map_id names)
    obtain ⟨text, rfl⟩ := hnames name hname
    rw [Function.comp_apply, lossy_utf8, id_eq]
  rw [← hutf8 a ha, h, hutf8 b hb]

/-- A name without a slash is displayed without one. -/
theorem slash_not_mem_lossy {bytes : Bytes} (h : Path.slash ∉ bytes) : '/' ∉ bytes.lossy.toList := by
  intro hslash
  rw [lossy, String.toList_ofList] at hslash
  obtain ⟨piece, hpiece, hchar⟩ := List.mem_map.1 hslash
  cases piece with
  | none => exact absurd hchar (by decide)
  | some c =>
      obtain rfl : c = '/' := hchar
      exact h (mem_of_mem_decodePieces hpiece (by decide))

/-- Displayed names joined by slashes. -/
theorem lossy_join (names : List Bytes) :
    (lossy (join Path.slash names)).toList = join '/' (names.map fun name => name.lossy.toList) := by
  induction names with
  | nil => rfl
  | cons name names ih =>
      by_cases hlast : names = []
      · rw [hlast]
        rfl
      · have hslash : ∀ rest : Bytes, (lossy (name ++ Path.slash :: rest)).toList =
            name.lossy.toList ++ '/' :: rest.lossy.toList := by
          intro rest
          simp only [lossy, String.toList_ofList]
          rw [decodePieces_append (by decide), decodePieces_ascii _ _ (by decide), List.map_append,
            List.map_cons]
          rfl
        rw [join_cons _ _ hlast, hslash, ih, List.map_cons, join_cons _ _ (by simpa using hlast)]

/-- **Names are told from their display**: names joined by slashes look the same exactly if each name looks
    the same. -/
theorem lossy_join_inj {a b : List Bytes} (ha : a ≠ []) (hb : b ≠ [])
    (hslashA : ∀ name ∈ a, Path.slash ∉ name) (hslashB : ∀ name ∈ b, Path.slash ∉ name) :
    lossy (join Path.slash a) = lossy (join Path.slash b) ↔ a.map lossy = b.map lossy := by
  have hcut : ∀ {names : List Bytes}, names ≠ [] → (∀ name ∈ names, Path.slash ∉ name) →
      cut (· == '/') (lossy (join Path.slash names)).toList = names.map fun name => name.lossy.toList := by
    intro names hne hnames
    rw [lossy_join]
    refine cut_join '/' (by simpa using hne) ?_
    intro piece hpiece
    obtain ⟨name, hname, rfl⟩ := List.mem_map.1 hpiece
    exact slash_not_mem_lossy (hnames name hname)
  constructor
  · intro h
    have hpieces := congrArg (fun text : String => cut (· == '/') text.toList) h
    simp only [hcut ha hslashA, hcut hb hslashB] at hpieces
    have htexts := congrArg (List.map String.ofList) hpieces
    simpa only [List.map_map, Function.comp_def, String.ofList_toList] using htexts
  · intro h
    have hchars := congrArg (List.map String.toList) h
    rw [List.map_map, List.map_map] at hchars
    rw [← String.toList_inj, lossy_join, lossy_join]
    exact congrArg (join '/') hchars

end Bytes

end GoldenRun
