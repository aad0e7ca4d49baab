import GoldenRun.Proofs.CommandLine.Configuration

/-!
# Texts of commands

A command is written as its words with blanks between them. Which blanks these are, and how many, does not
matter, nor do blanks at the two ends; so the words that are written are the words that are read.

* `Text.IsWord`, `Text.IsGap`: what is not cut, and what stands between two words;
* `Text.spread`: words with a gap in front of each but the first;
* `Text.withoutBlanks`: what all words of a text hold together.

Main statement: `command_of_spread_words`, reading a command undoes writing it, and what is read can be
written with single spaces and is read again.
-/

namespace GoldenRun

namespace Text

/-- A text that is not cut: not empty, and without a blank. -/
def IsWord (word : String) : Prop :=
  word ≠ "" ∧ ∀ c ∈ word.toList, isBlank c = false

/-- What parts two words: blanks, at least one. -/
def IsGap (gap : String) : Prop :=
  gap ≠ "" ∧ isBlankOnly gap = true

-- the second part by a walk over the text, not over all characters that there are
instance (word : String) : Decidable (IsWord word) :=
  @instDecidableAnd _ _ _ (List.decidableBAll _ _)

instance (gap : String) : Decidable (IsGap gap) :=
  inferInstanceAs (Decidable (_ ∧ _))

/-- A first word, and then further words, each behind its gap. -/
def spread (first : String) : List (String × String) → String
  | [] => first
  | (gap, word) :: rest => first ++ (gap ++ spread word rest)

/-- A text with its blanks left out. -/
def withoutBlanks (text : String) : String :=
  String.ofList (text.toList.filter (!isBlank ·))

/-! ## 1. Words of characters -/

section Characters

variable {gap xs ys : List Char}

/-- The words on the two sides of a blank are found on their own. -/
theorem wordsOf_append_cons {c : Char} (h : isBlank c = true) (xs ys : List Char) :
    wordsOf (xs ++ c :: ys) = wordsOf xs ++ wordsOf ys := by
  unfold wordsOf
  rw [cut_append_cons h, List.filter_append]

/-- Blanks in front hold no word. -/
theorem wordsOf_blanks_append (hgap : gap.all isBlank = true) (ys : List Char) :
    wordsOf (gap ++ ys) = wordsOf ys := by
  induction gap with
  | nil => rfl
  | cons c gap ih =>
      rw [List.all_cons, Bool.and_eq_true] at hgap
      rw [List.cons_append, ← List.nil_append (c :: (gap ++ ys)), wordsOf_append_cons hgap.1,
        ih hgap.2]
      rfl

/-- **The words on the two sides of a gap**, however wide it is, are found on their own. -/
theorem wordsOf_append_gap (hne : gap ≠ []) (hgap : gap.all isBlank = true) (xs ys : List Char) :
    wordsOf (xs ++ (gap ++ ys)) = wordsOf xs ++ wordsOf ys := by
  obtain ⟨c, gap, rfl⟩ := List.exists_cons_of_ne_nil hne
  rw [List.all_cons, Bool.and_eq_true] at hgap
  rw [List.cons_append, wordsOf_append_cons hgap.1, wordsOf_blanks_append hgap.2]

/-- What is not empty and has no blank in it is one word. -/
theorem wordsOf_of_none (hne : xs ≠ []) (hxs : ∀ c ∈ xs, isBlank c = false) : wordsOf xs = [xs] := by
  rw [wordsOf, cut_of_none hxs, List.filter_cons_of_pos (by simpa using hne), List.filter_nil]

/-- Every word is one. -/
theorem of_mem_wordsOf {word : List Char} (h : word ∈ wordsOf xs) :
    word ≠ [] ∧ ∀ c ∈ word, isBlank c = false := by
  obtain ⟨hcut, hne⟩ := List.mem_filter.1 h
  exact ⟨by simpa using hne, fun c hc => not_mem_cut hcut hc⟩

/-- **The words together** are everything that is not blank. -/
theorem flatten_wordsOf (xs : List Char) : (wordsOf xs).flatten = xs.filter (!isBlank ·) := by
  have hcut : ∀ pieces : List (List Char), (pieces.filter (!·.isEmpty)).flatten = pieces.flatten := by
    intro pieces
    induction pieces with
    | nil => rfl
    | cons piece pieces ih => cases piece <;> simp [ih]
  rw [wordsOf, hcut]
  induction xs with
  | nil => rfl
  | cons c xs ih =>
      cases hc : isBlank c with
      | true => simp [cut_cons_of_pos hc, hc, ih]
      | false =>
          obtain ⟨piece, pieces, hrest, hall⟩ := cut_cons_of_neg hc xs
          rw [hrest] at ih
          rw [hall, List.filter_cons_of_pos (by simp [hc]), ← ih]
          rfl

end Characters

/-! ## 2. Words of texts -/

section Texts

variable {a b gap word text : String}

theorem IsGap.toList_ne_nil (h : IsGap gap) : gap.toList ≠ [] := by
  simpa using h.1

theorem words_append_gap (hgap : IsGap gap) (a b : String) :
    words (a ++ (gap ++ b)) = words a ++ words b := by
  simp only [words, String.toList_append, wordsOf_append_gap hgap.toList_ne_nil hgap.2,
    List.map_append]

/-- Blanks at the two ends of a text do not matter. -/
theorem words_between_blanks (ha : isBlankOnly a = true) (hb : isBlankOnly b = true) (text : String) :
    words (a ++ text ++ b) = words text := by
  have hfront : wordsOf (a.toList ++ (text.toList ++ b.toList)) = wordsOf (text.toList ++ b.toList) :=
    wordsOf_blanks_append ha _
  have hback : wordsOf (text.toList ++ b.toList) = wordsOf text.toList := by
    by_cases hempty : b.toList = []
    · rw [hempty, List.append_nil]
    · have hgap := wordsOf_append_gap hempty hb text.toList []
      rw [List.append_nil] at hgap
      exact hgap.trans (List.append_nil _)
  simp only [words, String.toList_append, List.append_assoc, hfront, hback]

theorem words_of_isWord (h : IsWord word) : words word = [word] := by
  have hone := wordsOf_of_none (by simpa using h.1) h.2
  rw [words, hone, List.map_singleton, String.ofList_toList]

theorem isWord_of_mem_words (h : word ∈ words text) : IsWord word := by
  obtain ⟨chars, hchars, rfl⟩ := List.mem_map.1 h
  obtain ⟨hne, hnone⟩ := of_mem_wordsOf hchars
  refine ⟨by simpa using hne, ?_⟩
  rw [String.toList_ofList]
  exact hnone

/-- **Words that are spread over a text** are its words. -/
theorem words_spread {first : String} {rest : List (String × String)} (hfirst : IsWord first)
    (hrest : ∀ r ∈ rest, IsGap r.1 ∧ IsWord r.2) :
    words (spread first rest) = first :: rest.map Prod.snd := by
  induction rest generalizing first with
  | nil => exact words_of_isWord hfirst
  | cons r rest ih =>
      obtain ⟨gap, word⟩ := r
      obtain ⟨⟨hgap, hword⟩, hrest⟩ := List.forall_mem_cons.1 hrest
      rw [spread, words_append_gap hgap, words_of_isWord hfirst, ih hword hrest]
      rfl

/-- The words of a text together are the text without its blanks. -/
theorem join_words (text : String) : String.join (words text) = withoutBlanks text := by
  rw [← String.toList_inj, String.toList_join, words, withoutBlanks, String.toList_ofList,
    ← flatten_wordsOf, List.flatMap_map]
  simp

theorem isGap_space : IsGap " " := by decide

/-- Words with single spaces between them are spread. -/
theorem intercalate_eq_spread (first : String) (rest : List String) :
    " ".intercalate (first :: rest) = spread first (rest.map fun word => (" ", word)) := by
  induction rest generalizing first with
  | nil => simp [spread]
  | cons word rest ih =>
      rw [String.intercalate_cons_cons, ih, List.map_cons, spread, String.append_assoc]

end Texts

end Text

/-! ## 3. Commands -/

namespace CommandLine

open Text

/-- **Reading a command undoes writing it.** Words that are written with any gaps between them, and any
    blanks at the two ends, are the program and its arguments. And whatever text is read as a command: its
    words are the program and the arguments, they are the text without its blanks, and with single spaces
    between them they are read as the same command. -/
theorem command_of_spread_words (name : String) :
    (∀ (lead first : String) (rest : List (String × String)) (trail : String),
      isBlankOnly lead = true → IsWord first → (∀ r ∈ rest, IsGap r.1 ∧ IsWord r.2) →
        isBlankOnly trail = true →
          readCommand name (lead ++ spread first rest ++ trail) =
            .ok { program := utf8 first, args := rest.map fun r => utf8 r.2 }) ∧
    (∀ (text : String) (command : Command), readCommand name text = .ok command →
      ∃ first rest, command = { program := utf8 first, args := rest.map utf8 } ∧
        (∀ word ∈ first :: rest, IsWord word) ∧
        String.join (first :: rest) = withoutBlanks text ∧
        readCommand name (" ".intercalate (first :: rest)) = .ok command) := by
  constructor
  · intro lead first rest trail hlead hfirst hrest htrail
    refine readCommand_eq_ok_iff.2 ⟨first, rest.map Prod.snd, ?_, ?_⟩
    · rw [words_between_blanks hlead htrail, words_spread hfirst hrest]
    · rw [List.map_map]
      rfl
  · intro text command h
    obtain ⟨first, rest, hwords, hcommand⟩ := readCommand_eq_ok_iff.1 h
    have hall : ∀ word ∈ first :: rest, IsWord word := fun word hword =>
      isWord_of_mem_words (hwords ▸ hword)
    obtain ⟨hfirst, hrest⟩ := List.forall_mem_cons.1 hall
    refine ⟨first, rest, hcommand, hall, hwords ▸ join_words text, ?_⟩
    refine readCommand_eq_ok_iff.2 ⟨first, rest, ?_, hcommand⟩
    rw [intercalate_eq_spread, words_spread hfirst, List.map_map]
    · exact congrArg (first :: ·) (List.map_id rest)
    · intro r hr
      obtain ⟨word, hword, rfl⟩ := List.mem_map.1 hr
      exact ⟨isGap_space, hrest word hword⟩

theorem command_of_spread_words_mixed :
    isBlankOnly "\u00A0\t" = true ∧ IsWord "cmp" ∧ IsGap "\u3000\u2003" ∧ IsWord "-s" ∧
      isBlankOnly "\u0085" = true ∧
      readCommand "--diff-program" "\u00A0\tcmp\u3000\u2003-s\u0085" =
        .ok { program := utf8 "cmp", args := [utf8 "-s"] } ∧
      ∃ first rest, (⟨utf8 "cmp", [utf8 "-s"]⟩ : Command) = ⟨utf8 first, rest.map utf8⟩ ∧
        String.join (first :: rest) = "cmp-s" ∧
        readCommand "--diff-program" (" ".intercalate (first :: rest)) =
          .ok ⟨utf8 first, rest.map utf8⟩ := by
  have hlead : isBlankOnly "\u00A0\t" = true := by decide +kernel
  have hfirst : IsWord "cmp" := by decide +kernel
  have hgap : IsGap "\u3000\u2003" := by decide +kernel
  have hword : IsWord "-s" := by decide +kernel
  have htrail : isBlankOnly "\u0085" = true := by decide +kernel
  have hrest : ∀ r ∈ [("\u3000\u2003", "-s")], IsGap r.1 ∧ IsWord r.2 :=
    List.forall_mem_singleton.2 ⟨hgap, hword⟩
  obtain ⟨hwritten, hread⟩ := command_of_spread_words "--diff-program"
  have hcommand := hwritten "\u00A0\t" "cmp" [("\u3000\u2003", "-s")] "\u0085" hlead hfirst hrest htrail
  obtain ⟨first, rest, heq, -, hjoined, hagain⟩ := hread _ _ hcommand
  refine ⟨hlead, hfirst, hgap, hword, htrail, hcommand, first, rest, heq, ?_, heq ▸ hagain⟩
  rw [hjoined]
  decide

end CommandLine

end GoldenRun
