import GoldenRun.CommandLine.Occurrence
import GoldenRun.Proofs.CommandLine.Values

/-!
# The grammar of command lines

A command line is a *sentence*: occurrences of options, one written behind the other, and at the end a `--`
if one likes. Nothing in the grammar looks ahead or remembers, so it says nothing of how a command line
is read.

* `Occurrence.Written`: the tokens of an occurrence; a value of its own token begins with `-` only if it is
  `-` or belongs to `--sut-arg`;
* `Sentence`: the arguments that occurrences make;
* `Occurrence.Sound`: the value of an occurrence is one of its setting;
* `Unrepeated`: no option occurs twice, `--sut-arg` apart.

Main statements: `scan_of_sentence` and `sentence_of_scan`, the scan finds the occurrences of a sentence and
explains nothing else.
-/

namespace GoldenRun.CommandLine

/-! ## 1. Sentences -/

/-- The option that an occurrence is one of. -/
def Occurrence.request : Occurrence → Request
  | .attached s _ | .detached s _ | .bare s => .setting s
  | .switch w => .switch w
  | .help => .help
  | .version => .version

/-- How an occurrence is written. -/
inductive Occurrence.Written : Occurrence → List Bytes → Prop where
  /-- `--NAME=VALUE`. -/
  | attached (s : Setting) (value : Bytes) :
      Written (.attached s value) [utf8 ("--" ++ s.long) ++ utf8 "=" ++ value]
  /-- `--NAME VALUE`. -/
  | detached (s : Setting) (value : Bytes)
      (h : s = .sutArg ∨ value = utf8 "-" ∨ ¬ utf8 "-" <+: value) :
      Written (.detached s value) [utf8 ("--" ++ s.long), value]
  /-- `--NAME`. -/
  | switch (w : Switch) : Written (.switch w) [utf8 ("--" ++ w.long)]
  /-- The one switch with a short name. -/
  | verbose : Written (.switch .verbose) [utf8 "-v"]

/-- The arguments that occurrences make. -/
inductive Sentence : List Occurrence → List Bytes → Prop where
  | nil : Sentence [] []
  /-- `--` may stand at the end. -/
  | closed : Sentence [] [utf8 "--"]
  | cons {o : Occurrence} {tokens : List Bytes} {os : List Occurrence} {arguments : List Bytes}
      (written : o.Written tokens) (rest : Sentence os arguments) :
      Sentence (o :: os) (tokens ++ arguments)

/-- A byte string is a value of the setting. -/
def Setting.Admits (setting : Setting) (value : Bytes) : Prop :=
  ∃ meaning, setting.Means value meaning

/-- An occurrence of an option that can be chosen, with a value of its setting. -/
def Occurrence.Sound : Occurrence → Prop
  | .attached s value | .detached s value => s.Admits value
  | .switch _ => True
  | .bare _ | .help | .version => False

/-- No option occurs twice, `--sut-arg` apart. -/
def Unrepeated (os : List Occurrence) : Prop :=
  ∀ r, r ≠ .setting .sutArg → (os.map Occurrence.request).count r ≤ 1

theorem Unrepeated.tail {o : Occurrence} {os : List Occurrence} (h : Unrepeated (o :: os)) :
    Unrepeated os := by
  intro r hr
  have hle : (os.map Occurrence.request).count r ≤ ((o :: os).map Occurrence.request).count r :=
    List.count_le_count_cons
  exact Nat.le_trans hle (h r hr)

/-! ## 2. Tokens -/

/-- The byte `=`. -/
def equals : UInt8 := 0x3D

theorem utf8_dashes (name : String) : utf8 ("--" ++ name) = hyphen :: hyphen :: utf8 name := by
  have hdashes : utf8 "--" = [hyphen, hyphen] := by decide
  rw [utf8_append, hdashes]
  rfl

/-- No name is empty or has a `=` in it. -/
theorem Request.long_plain (r : Request) : utf8 r.long ≠ [] ∧ equals ∉ utf8 r.long := by
  cases r with
  | setting s => cases s <;> decide
  | switch w => cases w <;> decide
  | help => decide
  | version => decide

theorem ne_equals_of_not_mem {name : Bytes} (h : equals ∉ name) : ∀ b ∈ name, (b != 0x3D) = true := by
  intro b hb
  rw [bne_iff_ne]
  rintro rfl
  exact h hb

theorem Token.ofArgument_long {name : Bytes} (hne : name ≠ []) (h : equals ∉ name) :
    Token.ofArgument (hyphen :: hyphen :: name) = .long name none := by
  have hall : name.takeWhile (· != 0x3D) = name := by
    have happend : (name ++ []).takeWhile (· != 0x3D) = name ++ [] :=
      List.takeWhile_append_of_pos (ne_equals_of_not_mem h)
    rwa [List.append_nil] at happend
  refine (Token.ofArgument.eq_3 name hne).trans ?_
  rw [hall, List.drop_length]

/-- A token with a value is cut at its first `=`. -/
theorem Token.ofArgument_attached {name : Bytes} (h : equals ∉ name) (value : Bytes) :
    Token.ofArgument (hyphen :: hyphen :: (name ++ equals :: value)) = .long name (some value) := by
  have hstop : (equals :: value).takeWhile (· != 0x3D) = [] :=
    List.takeWhile_cons_of_neg (by decide)
  have hcut : (name ++ equals :: value).takeWhile (· != 0x3D) = name := by
    rw [List.takeWhile_append_of_pos (ne_equals_of_not_mem h), hstop, List.append_nil]
  refine (Token.ofArgument.eq_3 _ (by simp)).trans ?_
  rw [hcut, List.drop_left]

/-- What is behind the longest beginning without `=` is nothing, or begins with `=`. -/
theorem dropWhile_ne_equals (rest : Bytes) :
    rest.dropWhile (· != 0x3D) = [] ∨ ∃ value, rest.dropWhile (· != 0x3D) = equals :: value := by
  cases h : rest.dropWhile (· != 0x3D) with
  | nil => exact .inl rfl
  | cons b value =>
      have hne : rest.dropWhile (· != 0x3D) ≠ [] := by simp [h]
      have hhead := List.head_dropWhile_not (· != 0x3D) hne
      simp only [h, List.head_cons, bne_eq_false_iff_eq] at hhead
      exact .inr ⟨value, by rw [hhead]; rfl⟩

theorem drop_length_takeWhile (rest : Bytes) :
    rest.drop (rest.takeWhile (· != 0x3D)).length = rest.dropWhile (· != 0x3D) := by
  have happend : rest.takeWhile (· != 0x3D) ++ rest.dropWhile (· != 0x3D) = rest :=
    List.takeWhile_append_dropWhile
  exact (congrArg (List.drop _) happend.symm).trans List.drop_left

/-- **The form of a token tells the token.** -/
theorem Token.argument_eq (argument : Bytes) :
    match Token.ofArgument argument with
    | .endOfOptions => argument = [hyphen, hyphen]
    | .long name none => argument = hyphen :: hyphen :: name
    | .long name (some value) => argument = hyphen :: hyphen :: (name ++ equals :: value)
    | .short letters => letters ≠ [] ∧ argument = hyphen :: letters
    | .word w => argument = w := by
  have happend := fun rest : Bytes =>
    (List.takeWhile_append_dropWhile : rest.takeWhile (· != 0x3D) ++ rest.dropWhile (· != 0x3D) = rest)
  fun_cases Token.ofArgument argument with
  | case1 => rfl
  | case2 => rfl
  | case3 rest _ name hdrop =>
      have hname : name = rest := by
        have hcut := happend rest
        rw [← drop_length_takeWhile, hdrop, List.append_nil] at hcut
        exact hcut
      rw [hname]
      rfl
  | case4 rest _ name b value hdrop =>
      have hrest : rest = name ++ b :: value := by
        have hcut := happend rest
        rw [← drop_length_takeWhile, hdrop] at hcut
        exact hcut.symm
      have hb : b = equals := by
        rw [drop_length_takeWhile] at hdrop
        rcases dropWhile_ne_equals rest with hnil | ⟨v, hv⟩
        · rw [hnil] at hdrop
          cases hdrop
        · rw [hv] at hdrop
          exact (List.cons.inj hdrop).1.symm
      rw [hrest, hb]
      rfl
  | case5 letters hne => exact ⟨hne, rfl⟩
  | case6 => rfl

theorem Request.ofLong?_long (r : Request) : Request.ofLong? (utf8 r.long) = some r := by
  cases r with
  | setting s => cases s <;> decide
  | switch w => cases w <;> decide
  | help => decide
  | version => decide

theorem Request.long_of_ofLong? {name : Bytes} {r : Request} (h : Request.ofLong? name = some r) :
    utf8 r.long = name := by
  have hfound := List.find?_some h
  exact beq_iff_eq.mp hfound

/-- The tokens of a name, and of a name with a value. -/
theorem Token.ofArgument_name (r : Request) :
    Token.ofArgument (utf8 ("--" ++ r.long)) = .long (utf8 r.long) none := by
  rw [utf8_dashes]
  exact Token.ofArgument_long r.long_plain.1 r.long_plain.2

theorem Token.ofArgument_name_value (r : Request) (value : Bytes) :
    Token.ofArgument (utf8 ("--" ++ r.long) ++ utf8 "=" ++ value) = .long (utf8 r.long) (some value) := by
  have hequals : utf8 "=" = [equals] := by decide
  rw [utf8_dashes, hequals, List.append_assoc, List.singleton_append]
  exact Token.ofArgument_attached r.long_plain.2 value

/-! ## 3. The scan of a sentence -/

/-- A token that looks for no value in the next one. -/
theorem scan_cons_of_closed {argument : Bytes} (h : (Token.ofArgument argument).opens? = none)
    (rest : List Bytes) :
    scan (argument :: rest) = scanToken (.ofArgument argument) (scan rest) (scanTrailing rest) := by
  cases rest with
  | nil => rfl
  | cons next rest => rw [scan, h]

/-- A token that opens a setting takes the next one or not. -/
theorem scan_cons_of_opens {argument : Bytes} {s : Setting}
    (h : (Token.ofArgument argument).opens? = some s) (next : Bytes) (rest : List Bytes) :
    scan (argument :: next :: rest) =
      if s.takes next then (scan rest).cons (.detached s next)
      else (scan (next :: rest)).cons (.bare s) := by
  rw [scan, h]

/-- A setting takes what a sentence may give it, and nothing else. -/
theorem Setting.takes_iff (s : Setting) (value : Bytes) :
    s.takes value = true ↔ s = .sutArg ∨ value = utf8 "-" ∨ ¬ utf8 "-" <+: value := by
  have hhyphen : utf8 "-" = [0x2D] := by decide
  rw [hhyphen, Setting.takes]
  cases value with
  | nil => simp
  | cons b rest =>
      rw [List.cons_prefix_cons]
      simp only [List.nil_prefix, and_true, Bool.or_eq_true, beq_iff_eq, bne_iff_ne, List.head?_cons, ne_eq,
        Option.some.injEq, List.length_cons, List.cons.injEq, Nat.add_eq_right, List.length_eq_zero_iff]
      grind

/-- **A sentence is scanned as its occurrences.** -/
theorem scan_of_sentence {os : List Occurrence} {arguments : List Bytes} (h : Sentence os arguments) :
    scan arguments = ⟨os, none⟩ := by
  induction h with
  | nil => rfl
  | closed => rfl
  | @cons o tokens os arguments written _ ih =>
      cases written with
      | attached s value =>
          have htoken : Token.ofArgument (utf8 ("--" ++ s.long) ++ utf8 "=" ++ value) =
              .long (utf8 (Request.setting s).long) (some value) :=
            Token.ofArgument_name_value (.setting s) value
          have hopens : (Token.ofArgument (utf8 ("--" ++ s.long) ++ utf8 "=" ++ value)).opens? = none := by
            rw [htoken]
            rfl
          rw [List.singleton_append, scan_cons_of_closed hopens, htoken, ih]
          simp only [scanToken, Request.ofLong?_long]
          rfl
      | detached s value h =>
          have htoken : Token.ofArgument (utf8 ("--" ++ s.long)) =
            .long (utf8 (Request.setting s).long) none := Token.ofArgument_name (.setting s)
          have hopens : (Token.ofArgument (utf8 ("--" ++ s.long))).opens? = some s := by
            rw [htoken, Token.opens?, Request.ofLong?_long]
          rw [List.cons_append, List.singleton_append, scan_cons_of_opens hopens,
            if_pos ((s.takes_iff value).mpr h), ih]
          rfl
      | switch w =>
          have htoken : Token.ofArgument (utf8 ("--" ++ w.long)) =
            .long (utf8 (Request.switch w).long) none := Token.ofArgument_name (.switch w)
          have hopens : (Token.ofArgument (utf8 ("--" ++ w.long))).opens? = none := by
            rw [htoken, Token.opens?, Request.ofLong?_long]
          rw [List.singleton_append, scan_cons_of_closed hopens, htoken, ih]
          simp only [scanToken, Request.ofLong?_long]
          rfl
      | verbose =>
          rw [List.singleton_append, scan_cons_of_closed rfl, ih]
          rfl

/-! ## 4. The sentence of a scan -/

theorem Scan.eq_of_cons {o : Occurrence} {scan : Scan} {os : List Occurrence}
    (h : scan.cons o = ⟨os, none⟩) : ∃ rest, os = o :: rest ∧ scan = ⟨rest, none⟩ := by
  obtain ⟨occurrences, stop?⟩ := scan
  obtain ⟨hos, hstop⟩ := Scan.mk.inj h
  exact ⟨occurrences, hos.symm, congrArg (Scan.mk occurrences) hstop⟩

/-- A stop is no end. -/
theorem Scan.stop_ne (refusal : Refusal) (os : List Occurrence) : Scan.stop refusal ≠ ⟨os, none⟩ := by
  intro h
  cases (Scan.mk.inj h).2

/-- A row of letters without a request is a row of `v`. -/
theorem letters_verbose {letters : Bytes} {pieces : List (Option Char)} {rest : Scan}
    {os : List Occurrence} (h : scanLetters letters pieces rest = ⟨os, none⟩)
    (sound : ∀ o ∈ os, o.Sound) :
    ∃ n later, pieces = List.replicate n (some 'v') ∧ rest = ⟨later, none⟩ ∧
      os = List.replicate n (.switch .verbose) ++ later := by
  induction pieces generalizing letters os with
  | nil => exact ⟨0, os, rfl, h, rfl⟩
  | cons p pieces ih =>
      cases p with
      | none => exact absurd h (Scan.stop_ne _ _)
      | some c =>
          rw [scanLetters] at h
          split at h
          · rename_i w hw
            obtain ⟨os, rfl, hrest⟩ := Scan.eq_of_cons h
            obtain ⟨n, later, rfl, hlater, rfl⟩ := ih hrest fun o ho => sound o (List.mem_cons_of_mem _ ho)
            have hc : c = 'v' ∧ w = .verbose := by
              unfold Request.ofShort? at hw
              split at hw
              · obtain rfl := Request.switch.inj (Option.some.inj hw)
                exact ⟨rfl, rfl⟩
              all_goals cases hw
            obtain ⟨rfl, rfl⟩ := hc
            exact ⟨n + 1, later, rfl, hlater, rfl⟩
          · obtain ⟨os, rfl, -⟩ := Scan.eq_of_cons h
            exact (sound _ List.mem_cons_self).elim
          · obtain ⟨os, rfl, -⟩ := Scan.eq_of_cons h
            exact (sound _ List.mem_cons_self).elim
          · exact absurd h (Scan.stop_ne _ _)
          · exact absurd h (Scan.stop_ne _ _)

/-- The one row of letters in a sentence: `-vv` would be the same switch twice. -/
theorem letters_eq {letters : Bytes} {rest : Scan} {os : List Occurrence} (hne : letters ≠ [])
    (h : scanLetters letters letters.decodePieces rest = ⟨os, none⟩) (sound : ∀ o ∈ os, o.Sound)
    (once : Unrepeated os) :
    ∃ later, hyphen :: letters = utf8 "-v" ∧ rest = ⟨later, none⟩ ∧ os = .switch .verbose :: later := by
  obtain ⟨n, later, hpieces, hrest, rfl⟩ := letters_verbose h sound
  have hcount : n ≤ 1 := by
    have hverbose := once (.switch .verbose) (by decide)
    rw [List.map_append, List.map_replicate, List.count_append, Occurrence.request,
      List.count_replicate_self] at hverbose
    omega
  have hpos : n ≠ 0 := by
    rintro rfl
    obtain ⟨b, letters, rfl⟩ := List.exists_cons_of_ne_nil hne
    rw [Bytes.decodePieces_cons] at hpieces
    cases hpieces
  obtain rfl : n = 1 := by omega
  have hletters : letters = ['v'].flatMap String.utf8EncodeChar := Bytes.eq_encoding_of_pieces hpieces
  refine ⟨later, ?_, hrest, rfl⟩
  rw [hletters]
  decide

/-- A token that looks for no value in the next one, in front of a sentence. -/
theorem sentence_of_closed {argument : Bytes} {rest : List Bytes} {os : List Occurrence}
    (hopens : (Token.ofArgument argument).opens? = none)
    (h : scanToken (.ofArgument argument) (scan rest) (scanTrailing rest) = ⟨os, none⟩)
    (sound : ∀ o ∈ os, o.Sound) (once : Unrepeated os)
    (ih : ∀ later, scan rest = ⟨later, none⟩ → (∀ o ∈ later, o.Sound) → Unrepeated later →
      Sentence later rest) :
    Sentence os (argument :: rest) := by
  have hform := Token.argument_eq argument
  -- An occurrence that the token is, in front of what the rest says.
  have hcons : ∀ {o : Occurrence}, o.Written [argument] → (scan rest).cons o = ⟨os, none⟩ →
      Sentence os (argument :: rest) := by
    intro o hwritten hscan
    obtain ⟨later, rfl, hlater⟩ := Scan.eq_of_cons hscan
    exact .cons hwritten (ih later hlater (fun o ho => sound o (List.mem_cons_of_mem _ ho)) once.tail)
  cases htoken : Token.ofArgument argument with
  | endOfOptions =>
      rw [htoken] at hform h
      cases rest with
      | nil =>
          obtain ⟨rfl, -⟩ := Scan.mk.inj h
          have hdashes : argument = utf8 "--" := hform
          rw [hdashes]
          exact .closed
      | cons next rest => exact absurd h (Scan.stop_ne _ _)
  | word w =>
      rw [htoken] at h
      exact absurd h (Scan.stop_ne _ _)
  | short letters =>
      rw [htoken] at hform h
      obtain ⟨later, hletters, hlater, rfl⟩ := letters_eq hform.1 h sound once
      rw [hform.2, hletters]
      exact .cons .verbose (ih later hlater (fun o ho => sound o (List.mem_cons_of_mem _ ho)) once.tail)
  | long name value? =>
      rw [htoken] at hform h hopens
      cases hrequest : Request.ofLong? name with
      | none =>
          simp only [scanToken, hrequest] at h
          exact absurd h (Scan.stop_ne _ _)
      | some r =>
          have hname := Request.long_of_ofLong? hrequest
          cases value? with
          | none =>
              have hargument : argument = utf8 ("--" ++ r.long) := by rw [utf8_dashes, hname]; exact hform
              cases r with
              | setting s => simp only [Token.opens?, hrequest] at hopens; cases hopens
              | switch w =>
                  simp only [scanToken, hrequest] at h
                  exact hcons (hargument ▸ .switch w) h
              | help =>
                  simp only [scanToken, hrequest] at h
                  obtain ⟨later, rfl, -⟩ := Scan.eq_of_cons h
                  exact (sound _ List.mem_cons_self).elim
              | version =>
                  simp only [scanToken, hrequest] at h
                  obtain ⟨later, rfl, -⟩ := Scan.eq_of_cons h
                  exact (sound _ List.mem_cons_self).elim
          | some value =>
              cases r with
              | setting s =>
                  simp only [scanToken, hrequest] at h
                  have hequals : utf8 "=" = [equals] := by decide
                  have hargument : argument = utf8 ("--" ++ s.long) ++ utf8 "=" ++ value := by
                    rw [utf8_dashes, hequals, List.append_assoc, List.singleton_append]
                    exact hform.trans (by rw [← hname]; rfl)
                  exact hcons (hargument ▸ .attached s value) h
              | switch w | help | version =>
                  simp only [scanToken, hrequest] at h
                  exact absurd h (Scan.stop_ne _ _)

/-- A token that opens a setting is the setting's name. -/
theorem Token.eq_of_opens {t : Token} {s : Setting} (h : t.opens? = some s) :
    t = .long (utf8 s.long) none := by
  cases t with
  | endOfOptions | short | word => cases h
  | long name value? =>
      cases value? with
      | some value => cases h
      | none =>
          rw [Token.opens?] at h
          split at h
          · rename_i hrequest
            obtain rfl := Option.some.inj h
            rw [← Request.long_of_ofLong? hrequest]
            rfl
          · cases h

/-- **The scan explains nothing but sentences**, if what it finds is sound and not repeated. -/
theorem sentence_of_scan {arguments : List Bytes} {os : List Occurrence}
    (h : scan arguments = ⟨os, none⟩) (sound : ∀ o ∈ os, o.Sound) (once : Unrepeated os) :
    Sentence os arguments := by
  induction arguments using scan.induct generalizing os with
  | case1 =>
      obtain ⟨rfl, -⟩ := Scan.mk.inj h
      exact .nil
  | case2 argument =>
      cases hopens : (Token.ofArgument argument).opens? with
      | none =>
          refine sentence_of_closed hopens h sound once fun later hlater _ _ => ?_
          obtain ⟨rfl, -⟩ := Scan.mk.inj hlater
          exact .nil
      | some s =>
          have hrequest : Request.ofLong? (utf8 s.long) = some (.setting s) :=
            Request.ofLong?_long (.setting s)
          have hbare : scan [argument] = Scan.done.cons (.bare s) := by
            rw [scan, Token.eq_of_opens hopens]
            simp only [scanToken, hrequest]
          obtain ⟨later, rfl, -⟩ := Scan.eq_of_cons (hbare.symm.trans h)
          exact (sound _ List.mem_cons_self).elim
  | case3 argument next rest s hopens htakes ih =>
      rw [scan_cons_of_opens hopens, if_pos htakes] at h
      obtain ⟨later, rfl, hlater⟩ := Scan.eq_of_cons h
      have hform := Token.argument_eq argument
      rw [Token.eq_of_opens hopens] at hform
      have hargument : argument = utf8 ("--" ++ s.long) := by rw [utf8_dashes]; exact hform
      rw [hargument]
      exact .cons (.detached s next ((s.takes_iff next).mp htakes))
        (ih hlater (fun o ho => sound o (List.mem_cons_of_mem _ ho)) once.tail)
  | case4 argument next rest s hopens htakes ih =>
      rw [scan_cons_of_opens hopens, if_neg htakes] at h
      obtain ⟨later, rfl, -⟩ := Scan.eq_of_cons h
      exact (sound _ List.mem_cons_self).elim
  | case5 argument next rest hopens ih =>
      rw [scan_cons_of_closed hopens] at h
      exact sentence_of_closed hopens h sound once fun later hlater hsound honce =>
        ih hlater hsound honce

end GoldenRun.CommandLine
