import GoldenRun.Json
import GoldenRun.Proofs.Json.Decoding
import Mathlib.Data.List.Forall2

/-!
# Both layouts are JSON

A document says the same in both of its layouts, and what it says can be read back.

* `Json.datum`: what a document says;
* `quote_quoted`, `toString_number`: strings and numbers, written as documents have them;
* `sequence_of_texts`: the items of a container, with commas and blanks between them.

Main statements: `decode?_compact`, `decode?_pretty`.
-/

namespace GoldenRun.Json

/-! ## 1. What a document says -/

mutual

/-- What a document says. -/
def datum : Json → Datum
  | num n => .natural n
  | str text => .text text
  | arr elements => .list (elementData elements)
  | obj members => .record (memberData members)

/-- What the elements of a list say. -/
def elementData : List Json → List Datum
  | [] => []
  | e :: es => e.datum :: elementData es

/-- What the members of a record say. -/
def memberData : List (String × Json) → List (String × Datum)
  | [] => []
  | (key, value) :: ms => (key, value.datum) :: memberData ms

end

theorem elementData_eq (es : List Json) : elementData es = es.map datum := by
  induction es with
  | nil => rfl
  | cons e es ih => rw [elementData, ih, List.map_cons]

theorem memberData_eq (ms : List (String × Json)) :
    memberData ms = ms.map fun m => (m.1, m.2.datum) := by
  induction ms with
  | nil => rfl
  | cons m ms ih => rw [memberData, ih, List.map_cons]

/-! ## 2. Strings -/

theorem hexValue?_hexDigit : ∀ n < 16, hexValue? (hexDigit n) = some n := by
  decide

/-- A character is written behind a backslash, as a number below U+0020, or as it is. -/
theorem escapeChar_cases (c : Char) :
    (∃ e, escapeChar c = ['\\', e] ∧ short? e = some c) ∨
    (c.toNat < 0x20 ∧ escapeChar c =
      ['\\', 'u', '0', '0', hexDigit (c.toNat / 16), hexDigit (c.toNat % 16)]) ∨
    (escapeChar c = [c] ∧ IsPlain c) := by
  have hshort : ∀ {n : Nat} {e : Char}, c.toNat = n → short? e = some (Char.ofNat n) →
      short? e = some c := by
    intro n e hn he
    rw [he, ← hn, Char.ofNat_toNat]
  unfold escapeChar
  split
  · rename_i hc
    exact .inl ⟨'"', rfl, by rw [hc]; rfl⟩
  split
  · rename_i hc
    exact .inl ⟨'\\', rfl, by rw [hc]; rfl⟩
  split
  · rename_i hc
    exact .inl ⟨'b', rfl, hshort hc rfl⟩
  split
  · rename_i hc
    exact .inl ⟨'t', rfl, hshort hc rfl⟩
  split
  · rename_i hc
    exact .inl ⟨'n', rfl, hshort hc rfl⟩
  split
  · rename_i hc
    exact .inl ⟨'f', rfl, hshort hc rfl⟩
  split
  · rename_i hc
    exact .inl ⟨'r', rfl, hshort hc rfl⟩
  split
  · rename_i hc
    exact .inr (.inl ⟨hc, rfl⟩)
  · rename_i hquote hbackslash _ _ _ _ _ hcontrol
    exact .inr (.inr ⟨rfl, hquote, hbackslash, Nat.not_lt.mp hcontrol⟩)

/-- The number of a control character, in four digits. -/
theorem unit?_control {n : Nat} (h : n < 0x20) :
    unit? '0' '0' (hexDigit (n / 16)) (hexDigit (n % 16)) = some n := by
  have hzero : hexValue? '0' = some 0 := rfl
  rw [unit?, hzero, hexValue?_hexDigit _ (by omega), hexValue?_hexDigit _ (by omega)]
  simp only [Option.some.injEq]
  omega

/-- A character is read from its written form. -/
theorem escapeChar_characters {s cs r : List Char} (h : Characters s cs r) (c : Char) :
    Characters (escapeChar c ++ s) (c :: cs) r := by
  rcases escapeChar_cases c with ⟨e, he, hc⟩ | ⟨hc, he⟩ | ⟨he, hc⟩
  · rw [he]
    exact .escape (.short hc) h
  · have hunit := Escape.unit (unit?_control hc) (r := s) (fun hhigh => by have := hhigh.1; omega)
      (fun hlow => by have := hlow.1; omega)
    rw [Char.ofNat_toNat] at hunit
    rw [he]
    exact .escape hunit h
  · rw [he]
    exact .plain hc h

theorem quote_quoted (text : String) (r : List Char) : Quoted ((quote text).toList ++ r) text r := by
  have hcharacters : ∀ cs : List Char, Characters (cs.flatMap escapeChar ++ '"' :: r) cs r := by
    intro cs
    induction cs with
    | nil => exact .close
    | cons c cs ih =>
        rw [List.flatMap_cons, List.append_assoc]
        exact escapeChar_characters ih c
  have hquoted := Quoted.mk (hcharacters text.toList)
  rw [String.ofList_toList] at hquoted
  rw [quote, String.toList_ofList, quoteChars, List.cons_append, List.cons_append, List.append_assoc]
  exact hquoted

/-! ## 3. Numbers -/

/-- No digits of a positive number begin with zero. -/
theorem head?_toDigits {n : Nat} (h : n ≠ 0) : (Nat.toDigits 10 n).head? ≠ some '0' := by
  induction n using Nat.strongRecOn with
  | ind n ih =>
      by_cases hlt : n < 10
      · rw [Nat.toDigits_of_lt_base hlt, List.head?_cons]
        have hdigit : ∀ n < 10, n ≠ 0 → some n.digitChar ≠ some '0' := by decide
        exact hdigit n hlt h
      · have hle := Nat.not_lt.mp hlt
        rw [Nat.toDigits_of_base_le (by decide) hle, List.head?_append_of_ne_nil _ Nat.toDigits_ne_nil]
        exact ih (n / 10) (by omega) (by omega)

theorem toString_number (n : Nat) : Number (toString n).toList ⟨n, 0⟩ := by
  have hdigits : Digits (Nat.toDigits 10 n) :=
    ⟨Nat.toDigits_ne_nil, fun _ hc => Nat.isDigit_of_mem_toDigits (by decide) (by decide) hc⟩
  have hwhole : Whole (Nat.toDigits 10 n) := by
    by_cases h : n = 0
    · exact .inl (by rw [h]; rfl)
    · exact .inr ⟨hdigits, head?_toDigits h⟩
  have hnumber := Number.positive (.mk hwhole .absent .absent)
  have hvalue : digitsValue (Nat.toDigits 10 n) = n :=
    Nat.ofDigitChars_toDigits (by decide) (by decide)
  rw [List.append_nil, List.append_nil, hvalue] at hnumber
  have hrepr : (toString n).toList = Nat.toDigits 10 n := Nat.toList_repr
  rw [hrepr]
  exact hnumber

/-! ## 4. Containers -/

/-- A string of blanks. -/
def Blank (gap : String) : Prop :=
  ∀ c ∈ gap.toList, isBlank c = true

theorem Blank.blanks {gap : String} (h : Blank gap) (r : List Char) : Blanks (gap.toList ++ r) r :=
  ⟨gap.toList, rfl, h⟩

/-- Each of the texts is read as the item beside it, whatever stands behind. -/
abbrev Texts {α : Type} (Item : List Char → α → List Char → Prop) (texts : List String)
    (items : List α) : Prop :=
  List.Forall₂ (fun text item => ∀ r, Item (text.toList ++ r) item r) texts items

/-- A member is read as it is written, blanks behind the colon or not. -/
theorem member_of_text {gap : String} (hgap : Blank gap) (key : String) {text : String} {d : Datum}
    (h : ∀ r, Value (text.toList ++ r) d r) (r : List Char) :
    Member ((quote key ++ (":" ++ gap) ++ text).toList ++ r) (key, d) r := by
  simp only [String.toList_append, List.append_assoc]
  exact .mk (quote_quoted key _) ⟨[], rfl, by simp⟩ (hgap.blanks _) (h r)

/-- A container as both layouts write it. -/
def enclosed (opening closing gap finish : String) (texts : List String) : String :=
  if texts.isEmpty then opening ++ closing
  else opening ++ (gap ++ ("," ++ gap).intercalate texts ++ finish) ++ closing

theorem compact_eq_enclosed (opening closing : String) (texts : List String) :
    opening ++ ",".intercalate texts ++ closing = enclosed opening closing "" "" texts := by
  cases texts with
  | nil => simp [enclosed]
  | cons text texts => simp [enclosed]

theorem block_eq_enclosed (opening closing : String) (depth : Nat) (texts : List String) :
    block opening closing depth texts =
      enclosed opening closing (newline (depth + 1)) (newline depth) texts := by
  unfold block enclosed
  simp only [String.append_assoc]

section Containers

variable {α : Type} {Item : List Char → α → List Char → Prop}
  {Items : List Char → List α → List Char → Prop} {closing : Char}

/-- **The items of a container**, with commas between them, blanks in front of each and in front of the
    closing character. -/
theorem sequence_of_texts
    (last : ∀ {s a b r item}, Blanks s a → Item a item b → Blanks b (closing :: r) → Items s [item] r)
    (more : ∀ {s a b c r item items}, Blanks s a → Item a item b → Blanks b (',' :: c) →
      Items c items r → Items s (item :: items) r)
    {gap finish : String} (hgap : Blank gap) (hfinish : Blank finish) {texts : List String}
    {items : List α} (h : Texts Item texts items) (hne : texts ≠ []) (r : List Char) :
    Items ((gap ++ ("," ++ gap).intercalate texts ++ finish).toList ++ closing :: r) items r := by
  induction h with
  | nil => exact absurd rfl hne
  | cons hitem hrest ih =>
      cases hrest with
      | nil =>
          simp only [String.intercalate_singleton, String.toList_append, List.append_assoc]
          exact last (hgap.blanks _) (hitem _) (hfinish.blanks _)
      | cons _ _ =>
          have hcomma : ∀ s : List Char, Blanks (',' :: s) (',' :: s) := fun s => ⟨[], rfl, by simp⟩
          have htail := ih (by simp)
          simp only [String.intercalate_cons_cons, String.toList_append, List.append_assoc] at htail ⊢
          exact more (hgap.blanks _) (hitem _) (hcomma _) htail

/-- **A container as both layouts write it**: without items it is closed at once. -/
theorem container_of_texts {first : Char} (whole : List α → Datum)
    (empty : ∀ {s r}, Blanks s (closing :: r) → Value (first :: s) (whole []) r)
    (full : ∀ {s items r}, Items s items r → Value (first :: s) (whole items) r)
    (last : ∀ {s a b r item}, Blanks s a → Item a item b → Blanks b (closing :: r) → Items s [item] r)
    (more : ∀ {s a b c r item items}, Blanks s a → Item a item b → Blanks b (',' :: c) →
      Items c items r → Items s (item :: items) r)
    {left right : String} (hleft : left.toList = [first]) (hright : right.toList = [closing])
    {gap finish : String} (hgap : Blank gap) (hfinish : Blank finish) {texts : List String}
    {items : List α} (h : Texts Item texts items) (r : List Char) :
    Value ((enclosed left right gap finish texts).toList ++ r) (whole items) r := by
  unfold enclosed
  by_cases hne : texts = []
  · subst hne
    cases h
    have hempty := empty (s := closing :: r) ⟨[], rfl, by simp⟩
    simpa [hleft, hright] using hempty
  · rw [if_neg (by simpa using hne), String.toList_append, String.toList_append]
    have hfull := full (sequence_of_texts last more hgap hfinish h hne r)
    simpa [hleft, hright] using hfull

end Containers

theorem list_of_texts {gap finish : String} (hgap : Blank gap) (hfinish : Blank finish)
    {texts : List String} {ds : List Datum} (h : Texts Value texts ds) (r : List Char) :
    Value ((enclosed "[" "]" gap finish texts).toList ++ r) (.list ds) r :=
  container_of_texts .list .emptyList .list .last .more rfl rfl hgap hfinish h r

theorem record_of_texts {gap finish : String} (hgap : Blank gap) (hfinish : Blank finish)
    {texts : List String} {ms : List (String × Datum)} (h : Texts Member texts ms) (r : List Char) :
    Value ((enclosed "\x7b" "\x7d" gap finish texts).toList ++ r) (.record ms) r :=
  container_of_texts .record .emptyRecord .record .last .more rfl rfl hgap hfinish h r

/-! ## 5. The two layouts -/

theorem blank_empty : Blank "" := by
  simp [Blank]

theorem blank_space : Blank " " := by
  simp [Blank, isBlank]

theorem blank_newline (depth : Nat) : Blank (newline depth) := by
  intro c hc
  have hlist : (newline depth).toList = '\n' :: List.replicate (2 * depth) ' ' := by
    simp [newline]
  rw [hlist, List.mem_cons] at hc
  rcases hc with rfl | hc
  · rfl
  · rw [List.eq_of_mem_replicate hc]
    rfl

mutual

/-- A document without blanks is read as what it says. -/
theorem compact_value : (j : Json) → ∀ r, Value ((compact j).toList ++ r) j.datum r
  | num n, _ => .number (toString_number n)
  | str text, r => .text (quote_quoted text r)
  | arr elements, r => by
      rw [compact, compact_eq_enclosed]
      exact list_of_texts blank_empty blank_empty (compactElements_values elements) r
  | obj members, r => by
      rw [compact, compact_eq_enclosed]
      exact record_of_texts blank_empty blank_empty (compactMembers_members members) r

theorem compactElements_values : (es : List Json) →
    Texts Value (compactElements es) (elementData es)
  | [] => .nil
  | e :: es => .cons (compact_value e) (compactElements_values es)

theorem compactMembers_members : (ms : List (String × Json)) →
    Texts Member (compactMembers ms) (memberData ms)
  | [] => .nil
  | (key, value) :: ms =>
      .cons (member_of_text blank_empty key (compact_value value)) (compactMembers_members ms)

end

mutual

/-- A document over several lines is read as what it says. -/
theorem prettyAt_value : (j : Json) → ∀ depth r, Value ((prettyAt depth j).toList ++ r) j.datum r
  | num n, _, _ => .number (toString_number n)
  | str text, _, r => .text (quote_quoted text r)
  | arr elements, depth, r => by
      rw [prettyAt, block_eq_enclosed]
      exact list_of_texts (blank_newline _) (blank_newline _)
        (prettyElements_values elements (depth + 1)) r
  | obj members, depth, r => by
      rw [prettyAt, block_eq_enclosed]
      exact record_of_texts (blank_newline _) (blank_newline _)
        (prettyMembers_members members (depth + 1)) r

theorem prettyElements_values : (es : List Json) → ∀ depth,
    Texts Value (prettyElements depth es) (elementData es)
  | [], _ => .nil
  | e :: es, depth => .cons (prettyAt_value e depth) (prettyElements_values es depth)

theorem prettyMembers_members : (ms : List (String × Json)) → ∀ depth,
    Texts Member (prettyMembers depth ms) (memberData ms)
  | [], _ => .nil
  | (key, value) :: ms, depth =>
      .cons (member_of_text blank_space key (prettyAt_value value depth))
        (prettyMembers_members ms depth)

end

theorem document_of_value {text : String} {d : Datum} (h : ∀ r, Value (text.toList ++ r) d r) :
    Document text d := by
  have hvalue := h []
  rw [List.append_nil] at hvalue
  exact .mk ⟨[], rfl, by simp⟩ hvalue ⟨[], rfl, by simp⟩

/-- **A document without blanks** is JSON and is decoded to what it says. -/
theorem decode?_compact (j : Json) : decode? j.compact = some j.datum :=
  decode?_eq_some_iff.mpr (document_of_value (compact_value j))

/-- **A document over several lines** is JSON and is decoded to what it says. -/
theorem decode?_pretty (j : Json) : decode? j.pretty = some j.datum :=
  decode?_eq_some_iff.mpr (document_of_value (prettyAt_value j 0))

end GoldenRun.Json
