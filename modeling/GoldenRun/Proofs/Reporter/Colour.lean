import GoldenRun.Proofs.Reporter.FullSink
import GoldenRun.Proofs.Reporter.Transcript

/-!
# Colour and nothing else

A transcript in colour is the transcript without colour with *marks* in it: the sequences that begin an ink,
and the one that ends every ink. Deleting all marks from the one gives the other.

What the deletion finds is a question of its own: it works on bytes and knows nothing of strokes, so a mark
could be made of the end of one write and the beginning of the next, or hide in a text. Neither happens,
since a mark begins with the escape byte and has no other escape byte in it:

* `Bytes.pieces`: a byte string from the left, as marks and other bytes;
* `Bytes.pieces_append_mark`: no mark is missed, and none reaches over the beginning of another;
* `Bytes.pieces_append_of_unescaped`: a text without an escape byte is other bytes only, whatever is behind
  it;
* `Console.pieces_bytes`: so what is put down in colour falls into the pieces of the strokes, one after the
  other; `unmarked_bytes` and `marks_bytes` are what this says about the two kinds of pieces.

Main statement: `Console.colour_only_adds_marks`.
-/

namespace GoldenRun

open Bytes

/-! ## 1. Marks -/

/-- The byte that a mark begins with. -/
def Bytes.escape : UInt8 := 0x1B

/-- The sequences that a terminal takes for colour. -/
inductive Mark where
  | opening (ink : Ink)
  | closing
  deriving DecidableEq, Repr

namespace Mark

def text : Mark → String
  | .opening ink => ink.opening
  | .closing => Ink.closing

def bytes (m : Mark) : Bytes :=
  utf8 m.text

def all : List Mark := [.opening .green, .opening .red, .opening .bold, .closing]

theorem mem_all (m : Mark) : m ∈ all := by
  rcases m with ink | _
  · cases ink <;> decide
  · decide

/-- **Only the first byte of a mark is an escape byte.** -/
theorem bytes_eq (m : Mark) : ∃ rest, m.bytes = escape :: rest ∧ escape ∉ rest := by
  have hall : ∀ m ∈ all, m.bytes = escape :: m.bytes.tail ∧ escape ∉ m.bytes.tail := by decide
  exact ⟨m.bytes.tail, hall m (mem_all m)⟩

/-- No mark begins another. -/
theorem eq_of_prefix {m n : Mark} (h : m.bytes <+: n.bytes) : m = n := by
  have hall : ∀ m ∈ all, ∀ n ∈ all, m.bytes <+: n.bytes → m = n := by decide
  exact hall m (mem_all m) n (mem_all n) h

/-- The marks around texts in these inks: for each of them the one that begins it, and the one that ends
    it. -/
def around (inks : List Ink) : List Mark :=
  inks.flatMap fun ink => [.opening ink, .closing]

/-- The mark that a byte string begins with. -/
def beginning? (bytes : Bytes) : Option Mark :=
  all.find? (·.bytes.isPrefixOf bytes)

theorem prefix_of_beginning? {bytes : Bytes} {m : Mark} (h : beginning? bytes = some m) :
    m.bytes <+: bytes :=
  List.isPrefixOf_iff_prefix.1 (List.find?_some (p := fun m : Mark => m.bytes.isPrefixOf bytes) h)

theorem beginning?_eq_some_iff {bytes : Bytes} {m : Mark} :
    beginning? bytes = some m ↔ m.bytes <+: bytes := by
  refine ⟨prefix_of_beginning?, fun h => ?_⟩
  have hsome : (beginning? bytes).isSome := by
    rw [beginning?, List.find?_isSome]
    exact ⟨m, mem_all m, List.isPrefixOf_iff_prefix.2 h⟩
  obtain ⟨n, hn⟩ := Option.isSome_iff_exists.1 hsome
  rcases List.prefix_or_prefix_of_prefix (prefix_of_beginning? hn) h with hle | hle
  · rw [hn, eq_of_prefix hle]
  · rw [hn, eq_of_prefix hle]

/-- A mark begins with the escape byte. -/
theorem beginning?_of_ne {b : UInt8} (h : b ≠ escape) (rest : Bytes) :
    beginning? (b :: rest) = none := by
  refine Option.eq_none_iff_forall_ne_some.2 fun m hm => h ?_
  obtain ⟨tail, hbytes, -⟩ := m.bytes_eq
  have hprefix := beginning?_eq_some_iff.1 hm
  rw [hbytes, List.cons_prefix_cons] at hprefix
  exact hprefix.1.symm

/-- A mark does not reach over an escape byte behind its own. -/
theorem prefix_append_escape_iff (m : Mark) (b : UInt8) (a c : Bytes) :
    m.bytes <+: b :: (a ++ escape :: c) ↔ m.bytes <+: b :: a := by
  obtain ⟨rest, hbytes, hrest⟩ := m.bytes_eq
  have htail : rest <+: a ++ escape :: c ↔ rest <+: a := by
    constructor
    · intro h
      rcases List.prefix_or_prefix_of_prefix h (List.prefix_append a (escape :: c)) with hle | ⟨d, rfl⟩
      · exact hle
      · rw [List.prefix_append_right_inj] at h
        cases d with
        | nil => simp
        | cons x d =>
            rw [List.cons_prefix_cons] at h
            exact absurd (by simp [h.1]) hrest
    · exact fun h => h.trans (List.prefix_append _ _)
  rw [hbytes, List.cons_prefix_cons, List.cons_prefix_cons, htail]

theorem beginning?_append_escape (b : UInt8) (a c : Bytes) :
    beginning? (b :: (a ++ escape :: c)) = beginning? (b :: a) := by
  refine Option.ext fun m => ?_
  rw [beginning?_eq_some_iff, beginning?_eq_some_iff, prefix_append_escape_iff]

end Mark

/-! ## 2. Pieces -/

/-- A mark, or a byte that belongs to no mark. -/
inductive Piece where
  | mark (m : Mark)
  | byte (b : UInt8)
  deriving DecidableEq, Repr

def Piece.mark? : Piece → Option Mark
  | .mark m => some m
  | .byte _ => none

def Piece.byte? : Piece → Option UInt8
  | .mark _ => none
  | .byte b => some b

theorem filterMap_byte_map (bytes : Bytes) : (bytes.map Piece.byte).filterMap Piece.byte? = bytes := by
  simp [List.filterMap_map, Function.comp_def, Piece.byte?]

theorem filterMap_mark_map (bytes : Bytes) : (bytes.map Piece.byte).filterMap Piece.mark? = [] := by
  simp [List.filterMap_map, Function.comp_def, Piece.mark?]

namespace Bytes

/-- The pieces of a byte string behind its first `n` bytes; these are the end of a mark. -/
def piecesBehind : Nat → Bytes → List Piece
  | _, [] => []
  | n + 1, _ :: rest => piecesBehind n rest
  | 0, b :: rest =>
    match Mark.beginning? (b :: rest) with
    | some m => .mark m :: piecesBehind (m.bytes.length - 1) rest
    | none => .byte b :: piecesBehind 0 rest

/-- The pieces of a byte string, from the left. -/
def pieces (bytes : Bytes) : List Piece :=
  piecesBehind 0 bytes

/-- The byte string without all marks that are in it. -/
def unmarked (bytes : Bytes) : Bytes :=
  (pieces bytes).filterMap Piece.byte?

/-- The marks that are in a byte string, in order. -/
def marks (bytes : Bytes) : List Mark :=
  (pieces bytes).filterMap Piece.mark?

@[simp] theorem pieces_nil : pieces [] = [] := rfl

theorem piecesBehind_append (a c : Bytes) : piecesBehind a.length (a ++ c) = pieces c := by
  induction a with
  | nil => rfl
  | cons b a ih => exact ih

theorem pieces_of_ne {b : UInt8} (h : b ≠ escape) (rest : Bytes) :
    pieces (b :: rest) = .byte b :: pieces rest := by
  rw [pieces, piecesBehind, Mark.beginning?_of_ne h]
  rfl

/-- A text without an escape byte is other bytes only. -/
theorem pieces_append_of_unescaped {a : Bytes} (h : escape ∉ a) (c : Bytes) :
    pieces (a ++ c) = a.map .byte ++ pieces c := by
  induction a with
  | nil => rfl
  | cons b a ih =>
      rw [List.mem_cons, not_or] at h
      rw [List.cons_append, pieces_of_ne (Ne.symm h.1), ih h.2]
      rfl

theorem pieces_of_unescaped {a : Bytes} (h : escape ∉ a) : pieces a = a.map .byte := by
  simpa using pieces_append_of_unescaped h []

/-- The reading starts anew at every escape byte, in no mark or behind all its bytes. -/
theorem piecesBehind_append_escape (a c : Bytes) {n : Nat} (hn : n ≤ a.length) :
    piecesBehind n (a ++ escape :: c) = piecesBehind n a ++ pieces (escape :: c) := by
  induction a generalizing n with
  | nil =>
      obtain rfl := Nat.le_zero.1 hn
      rfl
  | cons b a ih =>
      cases n with
      | succ n => exact ih (Nat.le_of_succ_le_succ hn)
      | zero =>
          rw [List.cons_append, piecesBehind, piecesBehind, Mark.beginning?_append_escape]
          cases h : Mark.beginning? (b :: a) with
          | none => exact congrArg (.byte b :: ·) (ih (Nat.zero_le _))
          | some m =>
              -- The mark lies within `b :: a`, so what is still to be passed over lies within `a`.
              have hlength : m.bytes.length ≤ a.length + 1 := (Mark.prefix_of_beginning? h).length_le
              exact congrArg (.mark m :: ·) (ih (Nat.sub_le_iff_le_add.2 hlength))

theorem pieces_mark_append (m : Mark) (c : Bytes) : pieces (m.bytes ++ c) = .mark m :: pieces c := by
  obtain ⟨rest, hbytes, -⟩ := m.bytes_eq
  have hbeginning : Mark.beginning? (escape :: (rest ++ c)) = some m := by
    rw [Mark.beginning?_eq_some_iff, hbytes]
    exact List.prefix_append (escape :: rest) c
  have hlength : m.bytes.length - 1 = rest.length := by simp [hbytes]
  calc
    pieces (m.bytes ++ c) = .mark m :: piecesBehind (m.bytes.length - 1) (rest ++ c) := by
      rw [hbytes, List.cons_append, pieces, piecesBehind, hbeginning, ← hbytes]
    _ = .mark m :: pieces c := by rw [hlength, piecesBehind_append]

/-- **Every mark is found**, wherever it stands and whatever is around it. -/
theorem pieces_append_mark (a : Bytes) (m : Mark) (c : Bytes) :
    pieces (a ++ (m.bytes ++ c)) = pieces a ++ .mark m :: pieces c := by
  obtain ⟨rest, hbytes, -⟩ := m.bytes_eq
  rw [← pieces_mark_append, hbytes]
  exact piecesBehind_append_escape a (rest ++ c) (Nat.zero_le _)

/-- What is left is not read again: here it looks like a mark that was not there. -/
example : marks (utf8 "\x1b[3\x1b[0m1m") = [.closing] ∧
    unmarked (utf8 "\x1b[3\x1b[0m1m") = (Mark.opening .red).bytes := by decide

end Bytes

/-! ## 3. Strokes -/

/-- The text has no escape character in it. -/
def Unescaped (text : String) : Prop :=
  '\x1b' ∉ text.toList

instance (text : String) : Decidable (Unescaped text) :=
  inferInstanceAs (Decidable (¬ _))

theorem Unescaped.append {a b : String} (ha : Unescaped a) (hb : Unescaped b) : Unescaped (a ++ b) :=
  not_mem_toList_append ha hb

theorem unescaped_toString (n : Nat) : Unescaped (toString n) :=
  not_mem_toList_toString (by decide) n

theorem Unescaped.escape_not_mem_utf8 {text : String} (h : Unescaped text) : escape ∉ utf8 text :=
  not_mem_utf8 (c := '\x1b') (by decide) h

namespace Stroke

def text : Stroke → String
  | .plain text => text
  | .painted _ text => text
  | .flush => ""

def ink? : Stroke → Option Ink
  | .plain _ => none
  | .painted ink _ => some ink
  | .flush => none

/-- What a stroke is made of in colour. -/
def pieces : Stroke → List Piece
  | .plain text => (utf8 text).map .byte
  | .painted ink text => .mark (.opening ink) :: ((utf8 text).map .byte ++ [.mark .closing])
  | .flush => []

/-- Without the marks a stroke is its text. -/
theorem filterMap_byte_pieces (s : Stroke) : s.pieces.filterMap Piece.byte? = utf8 s.text := by
  cases s with
  | plain text => exact filterMap_byte_map _
  | painted ink text =>
      rw [pieces, List.filterMap_cons_none rfl, List.filterMap_append, filterMap_byte_map]
      exact List.append_nil _
  | flush => exact utf8_empty.symm

/-- The marks of a stroke are the two of its ink, if it has one. -/
theorem filterMap_mark_pieces (s : Stroke) :
    s.pieces.filterMap Piece.mark? = Mark.around s.ink?.toList := by
  cases s with
  | plain text => exact filterMap_mark_map _
  | painted ink text =>
      have hmark : (Piece.mark (.opening ink)).mark? = some (.opening ink) := rfl
      rw [pieces, List.filterMap_cons_some hmark, List.filterMap_append, filterMap_mark_map]
      rfl
  | flush => rfl

end Stroke

namespace Console

variable {console : Console} {strokes : List Stroke}

/-- **What is put down in colour** falls into the pieces of the strokes, one stroke after the other. -/
theorem pieces_bytes (hcolor : console.color = true) (h : ∀ s ∈ strokes, Unescaped s.text) :
    pieces (console.bytes strokes) = strokes.flatMap Stroke.pieces := by
  induction strokes with
  | nil => rfl
  | cons s strokes ih =>
      obtain ⟨hs, hrest⟩ := List.forall_mem_cons.1 h
      rw [List.flatMap_cons, ← ih hrest]
      cases s with
      | plain text => exact pieces_append_of_unescaped hs.escape_not_mem_utf8 _
      | painted ink text =>
          -- The first mark is at the beginning; the second is found behind the text, whatever that is.
          have hinked : utf8 (console.inked ink text) =
              (Mark.opening ink).bytes ++ (utf8 text ++ Mark.closing.bytes) := by
            rw [inked, if_pos hcolor, utf8_append, utf8_append, List.append_assoc]
            rfl
          have htext : pieces (utf8 text) = (utf8 text).map .byte :=
            pieces_of_unescaped hs.escape_not_mem_utf8
          rw [bytes_painted, hinked, List.append_assoc, List.append_assoc, pieces_mark_append,
            pieces_append_mark, htext, Stroke.pieces, List.cons_append, List.append_assoc]
          rfl
      | flush => rfl

/-- Without the marks, what is put down in colour is the texts of the strokes. -/
theorem unmarked_bytes (hcolor : console.color = true) (h : ∀ s ∈ strokes, Unescaped s.text) :
    unmarked (console.bytes strokes) = strokes.flatMap (utf8 ·.text) := by
  rw [unmarked, pieces_bytes hcolor h, List.filterMap_flatMap]
  simp only [Stroke.filterMap_byte_pieces]

/-- The marks in what is put down in colour are those of the strokes' inks. -/
theorem marks_bytes (hcolor : console.color = true) (h : ∀ s ∈ strokes, Unescaped s.text) :
    marks (console.bytes strokes) = Mark.around (strokes.filterMap Stroke.ink?) := by
  rw [marks, pieces_bytes hcolor h, List.filterMap_flatMap]
  simp only [Stroke.filterMap_mark_pieces]
  rw [Mark.around, List.filterMap_eq_flatMap_toList, List.flatMap_assoc]
  rfl

/-- What is put down without colour is the texts of the strokes. -/
theorem bytes_of_colourless (hcolor : console.color = false) (strokes : List Stroke) :
    console.bytes strokes = strokes.flatMap (utf8 ·.text) := by
  induction strokes with
  | nil => rfl
  | cons s strokes ih =>
      rw [List.flatMap_cons, ← ih]
      cases s with
      | plain text => rfl
      | painted ink text => rw [bytes_painted, inked, if_neg (by simp [hcolor])]; rfl
      | flush => simp [Stroke.text]

end Console

/-! ## 4. Callbacks -/

/-- The texts that the transcript quotes when it is told of a callback: ids, and the wording of a failed
    build. -/
def Callback.quoted : Callback → List String
  | .buildStart _ => []
  | .buildComplete (.ok _) => []
  | .buildComplete (.error e) => [e.message]
  | .runStart _ => []
  | .testStart test => [test.id]
  | .testComplete test _ _ => [test.id]
  | .runComplete report => report.failedTests

/-- The inks in which the transcript tells of a callback. -/
def Callback.inks : Callback → List Ink
  | .buildStart _ => [.bold]
  | .buildComplete (.ok _) => []
  | .buildComplete (.error _) => [.red]
  | .runStart _ => [.bold]
  | .testStart _ => []
  | .testComplete _ .passed _ => [.green]
  | .testComplete _ .failed _ => [.red]
  | .runComplete report => [.bold, if report.failedTests = [] then .green else .red]

namespace Console

theorem unescaped_banner {title : String} (h : Unescaped title) :
    ∀ s ∈ banner title, Unescaped s.text := by
  simp only [banner, List.forall_mem_cons]
  exact ⟨(Unescaped.append (by decide) h).append (by decide), by decide, List.forall_mem_nil _⟩

theorem unescaped_verdictStroke (verdict : Verdict) : Unescaped (verdictStroke verdict).text := by
  cases verdict <;> decide

theorem unescaped_timing (verbose : Bool) (elapsed : Duration) : Unescaped (timing verbose elapsed) := by
  unfold timing
  split
  · exact (Unescaped.append (by decide) (unescaped_toString _)).append (by decide)
  · decide

theorem unescaped_summary (report : Report) : Unescaped (summary report).text :=
  (((Unescaped.append (by decide) (unescaped_toString _)).append (by decide)).append
    (unescaped_toString _)).append (by decide)

theorem unescaped_failures {ids : List String} (h : ∀ id ∈ ids, Unescaped id) :
    ∀ s ∈ failures ids, Unescaped s.text := by
  unfold failures
  split
  · exact List.forall_mem_nil _
  · simp only [List.forall_mem_cons, List.forall_mem_map]
    exact ⟨by decide, fun id hid => (Unescaped.append (by decide) (h id hid)).append (by decide)⟩

/-- **The transcript's own words have no escape character in them**, so only what it quotes can have one. -/
theorem unescaped_strokes (verbose : Bool) {c : Callback} (h : ∀ text ∈ c.quoted, Unescaped text) :
    ∀ s ∈ strokes verbose c, Unescaped s.text := by
  have hempty : Unescaped "" := by decide
  cases c with
  | buildStart =>
      simp only [strokes, List.forall_mem_append, List.forall_mem_cons]
      exact ⟨unescaped_banner (by decide), hempty, List.forall_mem_nil _⟩
  | buildComplete result =>
      cases result with
      | ok => exact List.forall_mem_nil _
      | error e =>
          have he : Unescaped e.message := h _ List.mem_cons_self
          simp only [strokes, List.forall_mem_cons]
          exact ⟨Unescaped.append (by decide) he, by decide, List.forall_mem_nil _⟩
  | runStart =>
      simp only [strokes, List.forall_mem_cons]
      exact ⟨by decide, unescaped_banner (by decide)⟩
  | testStart test =>
      have hid : Unescaped test.id := h _ List.mem_cons_self
      simp only [strokes, List.forall_mem_cons]
      exact ⟨(Unescaped.append (by decide) hid).append (by decide), hempty, List.forall_mem_nil _⟩
  | testComplete test verdict elapsed =>
      have hid : Unescaped test.id := h _ List.mem_cons_self
      simp only [strokes, List.forall_mem_cons]
      exact ⟨(Unescaped.append (by decide) hid).append (by decide), unescaped_verdictStroke verdict,
        (unescaped_timing verbose elapsed).append (by decide), List.forall_mem_nil _⟩
  | runComplete report =>
      simp only [strokes, List.cons_append, List.forall_mem_append, List.forall_mem_cons]
      exact ⟨by decide,
        ⟨⟨unescaped_banner (by decide), unescaped_summary report, by decide, List.forall_mem_nil _⟩,
          unescaped_failures h⟩,
        hempty, List.forall_mem_nil _⟩

theorem filterMap_ink_failures (ids : List String) : (failures ids).filterMap Stroke.ink? = [] := by
  unfold failures
  split
  · rfl
  · rw [List.filterMap_cons_none rfl, List.filterMap_map]
    exact List.filterMap_eq_nil_iff.2 fun _ _ => rfl

theorem filterMap_ink_strokes (verbose : Bool) (c : Callback) :
    (strokes verbose c).filterMap Stroke.ink? = c.inks := by
  cases c with
  | buildStart => rfl
  | buildComplete result => cases result <;> rfl
  | runStart => rfl
  | testStart => rfl
  | testComplete test verdict elapsed => cases verdict <;> rfl
  | runComplete report =>
      rw [strokes, List.filterMap_append, List.filterMap_append, filterMap_ink_failures, Callback.inks]
      simp only [summary, Report.allPassed_iff_failedTests]
      rfl

/-! ## 5. Callback after callback -/

variable (console : Console)

/-- What is put down about these callbacks, one after the other. -/
def put (cs : List Callback) : Bytes :=
  console.bytes (cs.flatMap (strokes console.verbose))

theorem bytes_flatten (parts : List (List Stroke)) :
    console.bytes parts.flatten = (parts.map console.bytes).flatten := by
  induction parts with
  | nil => rfl
  | cons part parts ih => rw [List.flatten_cons, bytes_append, ih]; rfl

/-- A callback writes what is put down about it, whatever the entries are. -/
theorem portions_transcript (entries : List ResultEntry) (cs : List Callback) :
    (Form.transcript console).portions entries cs = cs.map fun c => console.put [c] := by
  induction cs generalizing entries with
  | nil => rfl
  | cons c cs ih =>
      rw [Form.portions, Form.portion_eq, ih, List.map_cons, put, List.flatMap_singleton]
      rfl

/-- A sink without bounds holds what was put down, one callback after the other. -/
theorem held_transcript (refusesFlush : Bool) (entries : List ResultEntry) (cs : List Callback) :
    ((Form.transcript console).reporter.after (entries, { refusesFlush }) (cs.map .callback)).2.held =
      console.put cs := by
  have hboundless : ({ refusesFlush } : Sink) = .filling none refusesFlush [] := rfl
  rw [hboundless, Form.held_after_filling, portions_transcript, put, List.flatMap, bytes_flatten]
  simp [put, Sink.filling, Function.comp_def]

section Colour

variable (verbose : Bool) {cs : List Callback} (h : ∀ c ∈ cs, ∀ text ∈ c.quoted, Unescaped text)

include h

theorem unescaped_flatMap_strokes : ∀ s ∈ cs.flatMap (strokes verbose), Unescaped s.text := by
  intro s hs
  obtain ⟨c, hc, hs⟩ := List.mem_flatMap.1 hs
  exact unescaped_strokes verbose (h c hc) s hs

/-- **Without its marks the coloured transcript is the plain one.** -/
theorem unmarked_put : unmarked (put ⟨true, verbose⟩ cs) = put ⟨false, verbose⟩ cs :=
  (unmarked_bytes rfl (unescaped_flatMap_strokes verbose h)).trans (bytes_of_colourless rfl _).symm

/-- **The marks of the coloured transcript** are those around the inks of the callbacks. -/
theorem marks_put : marks (put ⟨true, verbose⟩ cs) = Mark.around (cs.flatMap Callback.inks) := by
  rw [put, marks_bytes rfl (unescaped_flatMap_strokes verbose h), List.filterMap_flatMap]
  simp only [filterMap_ink_strokes]

/-- There is no mark in the plain transcript, nor the beginning of one. -/
theorem escape_not_mem_put : escape ∉ put ⟨false, verbose⟩ cs := by
  rw [put, bytes_of_colourless rfl, List.mem_flatMap]
  rintro ⟨s, hs, hmem⟩
  exact (unescaped_flatMap_strokes verbose h s hs).escape_not_mem_utf8 hmem

end Colour

/-- **Colour changes nothing but colour.** With and without times, and in whatever order a transcript is told
    callbacks: let no id and no wording of a failed build have an escape character in it. Then for each
    callback, and for all that the sink holds behind the first `i` of them,

    * deleting all marks from what is written in colour gives what is written without;
    * the marks in what is written in colour are, for each ink of the callbacks in order, the one that begins
      it and the one that ends it. So they alternate, from a beginning to an end;
    * what is written without colour has no byte in it that a mark could begin with. -/
theorem colour_only_adds_marks (verbose refusesFlush : Bool) (entries : List ResultEntry)
    (callbacks : List Callback) (h : ∀ c ∈ callbacks, ∀ text ∈ c.quoted, Unescaped text) :
    let coloured : Form := .transcript { color := true, verbose }
    let plain : Form := .transcript { color := false, verbose }
    let heldAfter := fun (form : Form) (i : Nat) =>
      (form.reporter.after (entries, { refusesFlush }) ((callbacks.take i).map .callback)).2.held
    (coloured.portions entries callbacks).map unmarked = plain.portions entries callbacks ∧
    (coloured.portions entries callbacks).map marks = callbacks.map (Mark.around ·.inks) ∧
    ∀ i,
      unmarked (heldAfter coloured i) = heldAfter plain i ∧
      marks (heldAfter coloured i) = Mark.around ((callbacks.take i).flatMap Callback.inks) ∧
      escape ∉ heldAfter plain i := by
  intro coloured plain heldAfter
  have hone : ∀ c ∈ callbacks, ∀ d ∈ [c], ∀ text ∈ d.quoted, Unescaped text := by
    intro c hc d hd
    rw [List.mem_singleton.1 hd]
    exact h c hc
  have htake : ∀ i, ∀ c ∈ callbacks.take i, ∀ text ∈ c.quoted, Unescaped text :=
    fun i c hc => h c (List.mem_of_mem_take hc)
  refine ⟨?_, ?_, fun i => ?_⟩
  · rw [portions_transcript, portions_transcript, List.map_map]
    exact List.map_congr_left fun c hc => unmarked_put verbose (hone c hc)
  · rw [portions_transcript, List.map_map]
    refine List.map_congr_left fun c hc => (marks_put verbose (hone c hc)).trans ?_
    rw [List.flatMap_singleton]
  · simp only [heldAfter, coloured, plain, held_transcript]
    exact ⟨unmarked_put verbose (htake i), marks_put verbose (htake i),
      escape_not_mem_put verbose (htake i)⟩

/-- Callbacks that no run makes: the end of a case whose id looks like the rest of a mark, a report before any
    run, a build at the end. -/
def disordered : List Callback :=
  [.testComplete ⟨[], "[31m"⟩ .failed ⟨0, 7000000⟩,
    .runComplete { total := 3, failed := 2, failedTests := ["[0m", "\n"] }, .runStart 0,
    .testStart ⟨[], ""⟩, .testComplete ⟨[], "m"⟩ .passed .zero, .buildStart ⟨[], [], .inherit⟩,
    .buildComplete (.error (.spawn "[32" (.kind .notFound))), .runComplete .empty]

theorem colour_only_adds_marks_disordered :
    let held := fun (color : Bool) =>
      ((Form.transcript { color, verbose := true }).reporter.after ([], { refusesFlush := true })
        (disordered.map .callback)).2.held
    (∀ c ∈ disordered, ∀ text ∈ c.quoted, Unescaped text) ∧
    unmarked (held true) = held false ∧
    marks (held true) =
      Mark.around [.red, .bold, .red, .bold, .green, .bold, .red, .bold, .green] := by
  intro held
  have hquoted : ∀ c ∈ disordered, ∀ text ∈ c.quoted, Unescaped text := by decide
  obtain ⟨hunmarked, hmarks, -⟩ :=
    (colour_only_adds_marks true true [] disordered hquoted).2.2 disordered.length
  simp only [List.take_length] at hunmarked hmarks
  exact ⟨hquoted, hunmarked, hmarks⟩

end Console

end GoldenRun
