import GoldenRun.Proofs.Bytes.Lines
import GoldenRun.Proofs.Reporter.Document
import GoldenRun.Reporter.Form

/-!
# What the transcript says

The transcript of a run is written in whole lines, and the id of a case stands behind words or a tab, never
at the beginning of a line. So as long as no id has a line feed in it, nothing an id contains can be taken
for a line about something else, and the transcript is read back line by line.

* `Console.linesAbout`: the lines about a callback; `bytes_strokes`, these are what is put down;
* `Console.transcript`: what a whole run leaves; `lines_transcript`, its lines;
* `caseLines_append_inj`: the lines about a case tell its id and its verdict; `told_of_lines`, so do those
  of all cases, one after the other;
* `headline_not_mem_openingLines`, `failuresHeading_not_mem`: where the result begins, and where the list of
  the cases that failed.

Main statement: `Console.transcript_unambiguous`.
-/

namespace GoldenRun

open Bytes

namespace Console

variable (console : Console)

/-! ## 1. Lines -/

/-- A text in an ink, as this console puts it down. -/
def inked (ink : Ink) (text : String) : String :=
  if console.color then ink.opening ++ text ++ Ink.closing else text

/-- The line of a headline. -/
def headline (title : String) : String :=
  console.inked .bold ("############ " ++ title ++ " ############")

/-- The word for a verdict. -/
def verdictText : Verdict → String
  | .passed => console.inked .green "completed successfully"
  | .failed => console.inked .red "failed"

/-- The counts of a run. -/
def summaryLine (total failed : Nat) : String :=
  console.inked (if failed = 0 then .green else .red)
    ("Total " ++ toString total ++ " tests. " ++ toString failed ++ " tests failed")

/-- The line in front of the failed cases. -/
def failuresHeading : String := "The following test failed:"

/-- The lines about the cases that failed; there are none if none failed. -/
def failureLines (failed : List String) : List String :=
  if failed = [] then [] else "" :: failuresHeading :: failed.map ("\t" ++ ·)

/-- The line at the beginning of a case. -/
def startLine (id : String) : String := "#### Running test " ++ id

/-- The line at the end of a case. -/
def endLine (id : String) (verdict : Verdict) (elapsed : Duration) : String :=
  "# Test " ++ id ++ " " ++ (console.verdictText verdict ++ timing console.verbose elapsed)

/-- The lines about a callback. -/
def linesAbout : Callback → List String
  | .buildStart _ => [console.headline "Start building"]
  | .buildComplete (.ok _) => []
  | .buildComplete (.error e) => [console.inked .red ("Build could not run: " ++ e.message)]
  | .runStart _ => ["", "", console.headline "Running Functional Tests"]
  | .testStart test => ["", startLine test.id]
  | .testComplete test verdict elapsed => [console.endLine test.id verdict elapsed]
  | .runComplete report =>
    ["", "", console.headline "Test Result", console.summaryLine report.total report.failed] ++
      failureLines report.failedTests

/-! ## 2. What is put down -/

/-- The bytes of strokes that this console puts down. -/
def bytes (strokes : List Stroke) : Bytes :=
  written (strokes.map (Stroke.emission console.color))

@[simp] theorem bytes_nil : console.bytes [] = [] := rfl

@[simp] theorem bytes_plain (text : String) (rest : List Stroke) :
    console.bytes (.plain text :: rest) = utf8 text ++ console.bytes rest := rfl

@[simp] theorem bytes_painted (ink : Ink) (text : String) (rest : List Stroke) :
    console.bytes (.painted ink text :: rest) =
      utf8 (console.inked ink text) ++ console.bytes rest := rfl

@[simp] theorem bytes_flush (rest : List Stroke) :
    console.bytes (.flush :: rest) = console.bytes rest := rfl

@[simp] theorem bytes_append (a b : List Stroke) :
    console.bytes (a ++ b) = console.bytes a ++ console.bytes b := by
  rw [bytes, List.map_append, written_append]
  rfl

theorem bytes_banner (title : String) :
    console.bytes (banner title) = lined [console.headline title] := by
  simp [banner, headline, lined, utf8_lineFeed]

theorem bytes_summary (report : Report) (rest : List Stroke) :
    console.bytes (summary report :: .plain "\n" :: rest) =
      lined [console.summaryLine report.total report.failed] ++ console.bytes rest := by
  simp [summary, summaryLine, Report.allPassed_iff, lined, utf8_lineFeed]

theorem bytes_failures (failed : List String) :
    console.bytes (failures failed) = lined (failureLines failed) := by
  have hheading : utf8 "\nThe following test failed:\n" = lined ["", failuresHeading] := by decide
  have hids : ∀ ids : List String,
      console.bytes (ids.map fun id => .plain ("\t" ++ id ++ "\n")) = lined (ids.map ("\t" ++ ·)) := by
    intro ids
    induction ids with
    | nil => rfl
    | cons id ids ih => rw [List.map_cons, bytes_plain, ih, List.map_cons, lined_cons]
  unfold failures failureLines
  cases failed with
  | nil => rfl
  | cons id ids =>
      rw [List.isEmpty_cons, if_neg Bool.false_ne_true, if_neg (List.cons_ne_nil id ids), bytes_plain,
        hheading, hids]
      exact (lined_append _ _).symm

theorem utf8_startLine (id : String) : utf8 (startLine id) = utf8 "#### Running test " ++ utf8 id :=
  utf8_append _ _

theorem bytes_testStart (test : TestCase) :
    console.bytes (strokes console.verbose (.testStart test)) =
      lined (console.linesAbout (.testStart test)) := by
  have hstart : utf8 "\n#### Running test " = lined [""] ++ utf8 "#### Running test " := by decide
  calc
    _ = utf8 "\n#### Running test " ++ utf8 test.id ++ utf8 "\n" := by
        rw [strokes, bytes_plain, bytes_flush, bytes_nil, List.append_nil, utf8_append, utf8_append]
    _ = lined [""] ++ utf8 "#### Running test " ++ utf8 test.id ++ utf8 "\n" :=
        congrArg (· ++ utf8 test.id ++ utf8 "\n") hstart
    _ = lined ["", startLine test.id] := by
        simp only [lined, List.flatMap_cons, List.flatMap_nil, utf8_startLine, utf8_lineFeed,
          List.append_assoc, List.append_nil]

/-- **Every callback writes whole lines.** -/
theorem bytes_strokes (c : Callback) :
    console.bytes (strokes console.verbose c) = lined (console.linesAbout c) := by
  have hblank : utf8 "\n\n" = lined ["", ""] := by decide
  cases c with
  | buildStart build =>
      rw [strokes, bytes_append, bytes_banner, bytes_flush, bytes_nil, List.append_nil]
      rfl
  | buildComplete result =>
      cases result with
      | ok outcome => rfl
      | error e => simp [strokes, linesAbout, lined, utf8_lineFeed]
  | runStart count =>
      rw [strokes, bytes_plain, bytes_banner, hblank, ← lined_append]
      rfl
  | testStart test => exact console.bytes_testStart test
  | testComplete test verdict elapsed =>
      cases verdict <;>
        simp [strokes, linesAbout, endLine, verdictStroke, verdictText, lined, utf8_append, utf8_lineFeed]
  | runComplete report =>
      simp only [strokes, bytes_plain, bytes_append, bytes_banner, bytes_summary, bytes_failures,
        List.cons_append, bytes_flush, bytes_nil, List.append_nil, hblank, linesAbout, ← lined_append,
        List.append_assoc, List.nil_append]

/-! ## 3. The transcript of a run -/

/-- What the console is told about a run with these results. -/
def course (count : Nat) (results : List TimedResult) : List Callback :=
  .runStart count ::
    (results.flatMap (fun r => [.testStart r.1, .testComplete r.1 r.2.1 r.2.2]) ++
      [.runComplete (.ofTimed results)])

/-- The bytes that a run leaves in a place without bounds. -/
def transcript (count : Nat) (results : List TimedResult) : Bytes :=
  ((Form.transcript console).reporter.after ([], .boundless [])
    ((course count results).map .callback)).2.held

/-- The lines about a case. -/
def caseLines (r : TimedResult) : List String :=
  ["", startLine r.1.id, console.endLine r.1.id r.2.1 r.2.2]

/-- The lines in front of the result. -/
def openingLines (results : List TimedResult) : List String :=
  ["", "", console.headline "Running Functional Tests"] ++ results.flatMap console.caseLines ++ ["", ""]

/-- The ids of the cases that failed. -/
def failedIds (results : List TimedResult) : List String :=
  (results.filter (·.2.1 = .failed)).map (·.1.id)

/-- The lines of the result. -/
def resultLines (results : List TimedResult) : List String :=
  [console.headline "Test Result", console.summaryLine results.length (failedIds results).length] ++
    failureLines (failedIds results)

/-- What is said about callbacks is their lines, one callback after the other. -/
theorem written_said (cs : List Callback) (entries : List ResultEntry) :
    written ((Form.transcript console).scribe.said cs entries).1 = lined (cs.flatMap console.linesAbout) := by
  induction cs with
  | nil => rfl
  | cons c cs ih =>
      have hstep : written ((Form.transcript console).scribe c entries).1 = lined (console.linesAbout c) :=
        console.bytes_strokes c
      rw [Scribe.said, written_append, hstep, List.flatMap_cons, lined_append]
      exact congrArg (lined (console.linesAbout c) ++ ·) ih

theorem linesAbout_course (count : Nat) (results : List TimedResult) :
    (course count results).flatMap console.linesAbout =
      console.openingLines results ++ console.resultLines results := by
  have hcase : ∀ r : TimedResult,
      [Callback.testStart r.1, .testComplete r.1 r.2.1 r.2.2].flatMap console.linesAbout =
        console.caseLines r := fun _ => rfl
  obtain ⟨htotal, hfailed⟩ := Report.ofTimed_counts results
  have hreport : console.linesAbout (.runComplete (.ofTimed results)) =
      ["", ""] ++ console.resultLines results := by
    rw [linesAbout, Report.failed_eq_length, htotal, hfailed, resultLines, failedIds]
    rfl
  rw [course, List.flatMap_cons, List.flatMap_append, List.flatMap_assoc, List.flatMap_singleton, hreport,
    openingLines]
  simp only [hcase, linesAbout, List.append_assoc]

/-- **The transcript of a run** is these lines. -/
theorem transcript_eq (count : Nat) (results : List TimedResult) :
    console.transcript count results =
      lined (console.openingLines results ++ console.resultLines results) := by
  have hafter := ((Form.transcript console).scribe.after_boundless (course count results) [] []).2
  rw [transcript, Form.reporter, hafter]
  exact (console.written_said _ _).trans (congrArg lined (console.linesAbout_course count results))

/-! ## 4. Every line is one line -/

theorem oneLine_inked (ink : Ink) {text : String} (h : OneLine text) : OneLine (console.inked ink text) := by
  have hopening : OneLine ink.opening := by cases ink <;> decide
  unfold inked
  split
  · exact (hopening.append h).append (by decide)
  · exact h

theorem oneLine_headline {title : String} (h : OneLine title) : OneLine (console.headline title) :=
  console.oneLine_inked .bold ((OneLine.append (by decide) h).append (by decide))

theorem oneLine_summaryLine (total failed : Nat) : OneLine (console.summaryLine total failed) := by
  have htotal : OneLine ("Total " ++ toString total) := OneLine.append (by decide) (oneLine_toString total)
  have hfailed : OneLine (toString failed ++ " tests failed") :=
    (oneLine_toString failed).append (by decide)
  refine console.oneLine_inked _ ?_
  rw [String.append_assoc]
  exact (htotal.append (by decide)).append hfailed

theorem oneLine_endLine {id : String} (h : OneLine id) (verdict : Verdict) (elapsed : Duration) :
    OneLine (console.endLine id verdict elapsed) := by
  have hverdict : OneLine (console.verdictText verdict) := by
    cases verdict with
    | passed => exact console.oneLine_inked .green (by decide)
    | failed => exact console.oneLine_inked .red (by decide)
  have htiming : OneLine (timing console.verbose elapsed) := by
    unfold timing
    split
    · exact (OneLine.append (by decide) (oneLine_toString _)).append (by decide)
    · decide
  have hid : OneLine ("# Test " ++ id ++ " ") := (OneLine.append (by decide) h).append (by decide)
  exact hid.append (hverdict.append htiming)

theorem oneLine_openingLines {results : List TimedResult} (h : ∀ r ∈ results, OneLine r.1.id) :
    ∀ line ∈ console.openingLines results, OneLine line := by
  have hcases : ∀ line ∈ results.flatMap console.caseLines, OneLine line := by
    intro line hline
    obtain ⟨r, hr, hline⟩ := List.mem_flatMap.1 hline
    have hstart : OneLine (startLine r.1.id) := OneLine.append (by decide) (h r hr)
    have hlines : ∀ line ∈ console.caseLines r, OneLine line := by
      simp only [caseLines, List.forall_mem_cons]
      exact ⟨by decide, hstart, console.oneLine_endLine (h r hr) _ _, nofun⟩
    exact hlines line hline
  simp only [openingLines, List.forall_mem_append, List.forall_mem_cons]
  exact ⟨⟨⟨by decide, by decide, console.oneLine_headline (by decide), nofun⟩, hcases⟩,
    by decide, by decide, nofun⟩

theorem oneLine_resultLines {results : List TimedResult} (h : ∀ r ∈ results, OneLine r.1.id) :
    ∀ line ∈ console.resultLines results, OneLine line := by
  have hids : ∀ id ∈ failedIds results, OneLine ("\t" ++ id) := by
    intro id hid
    obtain ⟨r, hr, rfl⟩ := List.mem_map.1 hid
    exact OneLine.append (by decide) (h r (List.mem_of_mem_filter hr))
  have hfailures : ∀ line ∈ failureLines (failedIds results), OneLine line := by
    unfold failureLines
    split
    · exact nofun
    · simp only [List.forall_mem_cons, List.forall_mem_map]
      exact ⟨by decide, by decide, hids⟩
  simp only [resultLines, List.forall_mem_append, List.forall_mem_cons]
  exact ⟨⟨console.oneLine_headline (by decide), console.oneLine_summaryLine _ _, nofun⟩, hfailures⟩

theorem oneLine_run {results : List TimedResult} (h : ∀ r ∈ results, OneLine r.1.id) :
    ∀ line ∈ console.openingLines results ++ console.resultLines results, OneLine line :=
  List.forall_mem_append.2 ⟨console.oneLine_openingLines h, console.oneLine_resultLines h⟩

/-- **The lines of a transcript** are those that were written. -/
theorem lines_transcript (count : Nat) {results : List TimedResult} (h : ∀ r ∈ results, OneLine r.1.id) :
    lines (console.transcript count results) =
      (console.openingLines results ++ console.resultLines results).map utf8 ++ [[]] := by
  rw [transcript_eq]
  exact lines_lined (console.oneLine_run h)

/-! ## 5. Reading back -/

/-- What a transcript is to tell about a case. -/
def told (r : TimedResult) : String × Verdict :=
  (r.1.id, r.2.1)

/-- The words of different verdicts differ before they end. -/
theorem verdictText_append_inj {v w : Verdict} {a b : String}
    (h : console.verdictText v ++ a = console.verdictText w ++ b) : v = w := by
  have hchars := congrArg String.toList h
  cases v <;> cases w <;> first | rfl | skip
  all_goals
    cases hcolor : console.color <;>
      simp [verdictText, inked, hcolor, Ink.opening, String.toList_append] at hchars

/-- **Different cases have different lines**, whatever stands behind them. -/
theorem caseLines_append_inj {r s : TimedResult} {a b : List String}
    (h : console.caseLines r ++ a = console.caseLines s ++ b) : told r = told s ∧ a = b := by
  simp only [caseLines, List.cons_append, List.nil_append, List.cons.injEq] at h
  obtain ⟨-, hstart, hend, hrest⟩ := h
  have hid : r.1.id = s.1.id := (String.append_right_inj "#### Running test ").1 hstart
  rw [hid] at hend
  have hverdict := console.verdictText_append_inj ((String.append_right_inj _).1 hend)
  exact ⟨Prod.ext hid hverdict, hrest⟩

/-- The lines about a case do not begin like the lines of the result. -/
theorem caseLines_append_ne (r : TimedResult) (a b : List String) :
    console.caseLines r ++ a ≠ ["", ""] ++ b := by
  intro h
  simp only [caseLines, List.cons_append, List.nil_append, List.cons.injEq] at h
  have hchars : ("#### Running test " ++ r.1.id).toList = [] := congrArg String.toList h.2.1
  simp [String.toList_append] at hchars

/-- Case after case is read back, up to the two empty lines in front of the result. -/
theorem told_of_lines {results others : List TimedResult} {a b : List String}
    (h : results.flatMap console.caseLines ++ (["", ""] ++ a) =
      others.flatMap console.caseLines ++ (["", ""] ++ b)) :
    results.map told = others.map told := by
  induction results generalizing others with
  | nil =>
      cases others with
      | nil => rfl
      | cons s others =>
          rw [List.flatMap_cons, List.append_assoc] at h
          exact absurd h.symm (console.caseLines_append_ne s _ _)
  | cons r results ih =>
      rw [List.flatMap_cons, List.append_assoc] at h
      cases others with
      | nil => exact absurd h (console.caseLines_append_ne r _ _)
      | cons s others =>
          rw [List.flatMap_cons, List.append_assoc] at h
          obtain ⟨htold, hrest⟩ := console.caseLines_append_inj h
          rw [List.map_cons, List.map_cons, htold, ih hrest]

/-- Transcripts of different runs differ. -/
theorem told_of_transcript {count other : Nat} {results others : List TimedResult}
    (h : ∀ r ∈ results, OneLine r.1.id) (hothers : ∀ r ∈ others, OneLine r.1.id)
    (heq : console.transcript count results = console.transcript other others) :
    results.map told = others.map told := by
  rw [transcript_eq, transcript_eq] at heq
  have hlines := lined_injective (console.oneLine_run h) (console.oneLine_run hothers) heq
  simp only [openingLines, List.append_assoc] at hlines
  exact console.told_of_lines (List.append_cancel_left hlines)

/-! ## 6. The result among the lines -/

/-- Without times, the lines about a case are the same however long it took. -/
theorem caseLines_quiet (h : console.verbose = false) (test : TestCase) (verdict : Verdict)
    (a b : Duration) : console.caseLines (test, verdict, a) = console.caseLines (test, verdict, b) := by
  simp only [caseLines, endLine, timing, h, Bool.false_eq_true, if_false]

/-- The lines in front of the result are told by how they begin. -/
theorem beginning_of_mem_openingLines {results : List TimedResult} {line : String}
    (h : line ∈ console.openingLines results) :
    line = "" ∨ line = console.headline "Running Functional Tests" ∨
      (∃ rest, line = "#### Running test " ++ rest) ∨ ∃ rest, line = "# Test " ++ rest := by
  have hcase : ∀ r : TimedResult, line ∈ console.caseLines r →
      line = "" ∨ (∃ rest, line = "#### Running test " ++ rest) ∨ ∃ rest, line = "# Test " ++ rest := by
    intro r hr
    simp only [caseLines, List.mem_cons, List.not_mem_nil, or_false] at hr
    rcases hr with hr | hr | hr
    · exact .inl hr
    · exact .inr (.inl ⟨r.1.id, hr⟩)
    · exact .inr (.inr ⟨r.1.id ++ " " ++ (console.verdictText r.2.1 ++ timing console.verbose r.2.2), by
        rw [hr, endLine, String.append_assoc, String.append_assoc, String.append_assoc]⟩)
  simp only [openingLines, List.mem_append, List.mem_cons, List.not_mem_nil, or_false, or_self,
    List.mem_flatMap] at h
  rcases h with (h | ⟨r, -, h⟩) | h
  · rcases h with h | h | h
    · exact .inl h
    · exact .inl h
    · exact .inr (.inl h)
  · exact (hcase r h).imp_right .inr
  · exact .inl h

theorem headline_inj {a b : String} (h : console.headline a = console.headline b) : a = b := by
  have hinked : "############ " ++ a ++ " ############" = "############ " ++ b ++ " ############" := by
    unfold headline inked at h
    split at h
    · exact (String.append_right_inj _).1 ((String.append_left_inj _).1 h)
    · exact h
  exact (String.append_right_inj _).1 ((String.append_left_inj _).1 hinked)

/-- A headline begins with five marks, or with the sequence of its ink. -/
theorem headline_ne (title : String) {text : String}
    (hmarks : ∀ rest, text.toList ≠ "#####".toList ++ rest)
    (hink : ∀ rest, text.toList ≠ '\x1b' :: rest) : console.headline title ≠ text := by
  rintro rfl
  cases hcolor : console.color with
  | true =>
      refine hink ("[1m".toList ++ ("############ " ++ title ++ " ############").toList ++
        Ink.closing.toList) ?_
      rw [headline, inked, if_pos hcolor, String.toList_append, String.toList_append]
      rfl
  | false =>
      refine hmarks ("####### ".toList ++ title.toList ++ " ############".toList) ?_
      rw [headline, inked, if_neg (by simp [hcolor]), String.toList_append, String.toList_append]
      rfl

/-- No line in front of the result is its headline, whatever the ids are. -/
theorem headline_not_mem_openingLines (results : List TimedResult) :
    console.headline "Test Result" ∉ console.openingLines results := by
  intro h
  rcases console.beginning_of_mem_openingLines h with h | h | ⟨rest, h⟩ | ⟨rest, h⟩
  · exact console.headline_ne _ (by simp) (by simp) h
  · exact absurd (console.headline_inj h) (by decide)
  · exact console.headline_ne _ (by simp [String.toList_append]) (by simp [String.toList_append]) h
  · exact console.headline_ne _ (by simp [String.toList_append]) (by simp [String.toList_append]) h

/-- No line in front of the failed cases is their heading. -/
theorem failuresHeading_not_mem (results : List TimedResult) (total failed : Nat) :
    failuresHeading ∉ console.openingLines results ++
      [console.headline "Test Result", console.summaryLine total failed] := by
  have hheadline : ∀ title, console.headline title ≠ failuresHeading := fun title =>
    console.headline_ne title (by simp [failuresHeading]) (by simp [failuresHeading])
  have hsummary : console.summaryLine total failed ≠ failuresHeading := by
    intro h
    have hchars := congrArg String.toList h
    unfold summaryLine inked at hchars
    split at hchars
    · generalize (if failed = 0 then Ink.green else Ink.red) = ink at hchars
      cases ink <;> simp [failuresHeading, Ink.opening, String.toList_append] at hchars
    · simp [failuresHeading, String.toList_append] at hchars
  intro h
  rcases List.mem_append.1 h with h | h
  · rcases console.beginning_of_mem_openingLines h with h | h | ⟨rest, h⟩ | ⟨rest, h⟩
    · exact absurd h (by decide)
    · exact hheadline _ h.symm
    · have hchars := congrArg String.toList h
      simp [failuresHeading, String.toList_append] at hchars
    · have hchars := congrArg String.toList h
      simp [failuresHeading, String.toList_append] at hchars
  · rcases List.mem_cons.1 h with h | h
    · exact hheadline _ h.symm
    · exact hsummary (List.mem_singleton.1 h).symm

/-- The heading of the failed cases is among the lines of the result exactly if a case failed. -/
theorem failuresHeading_mem_iff (results : List TimedResult) :
    failuresHeading ∈ console.openingLines results ++ console.resultLines results ↔
      ∃ r ∈ results, r.2.1 = .failed := by
  have hfailed : failedIds results ≠ [] ↔ ∃ r ∈ results, r.2.1 = .failed := by
    simp [failedIds]
  rw [← hfailed]
  constructor
  · rintro h hnone
    refine console.failuresHeading_not_mem results results.length (failedIds results).length ?_
    rwa [resultLines, failureLines, if_pos hnone, List.append_nil] at h
  · intro hsome
    rw [resultLines, failureLines, if_neg hsome]
    simp

/-- **The transcript is unambiguous**, with or without colour and times. Let no id have a line feed in it.

    * Runs that leave the same transcript had the same cases in the same order, by their ids, with the same
      verdicts.
    * Behind the first line that is the result's headline stands how many cases there were and how many of
      them failed. Nothing else follows if none failed; otherwise there follow an empty line, a heading that
      no line before it equals, and the ids of the failed cases in order, each behind one tab. -/
theorem transcript_unambiguous :
    (∀ count other results others,
      (∀ r ∈ results, OneLine r.1.id) → (∀ r ∈ others, OneLine r.1.id) →
      console.transcript count results = console.transcript other others →
      results.map (fun r => (r.1.id, r.2.1)) = others.map fun r => (r.1.id, r.2.1)) ∧
    ∀ count results, (∀ r ∈ results, OneLine r.1.id) →
      let failed := (results.filter (·.2.1 = .failed)).map (·.1.id)
      let summary := [console.headline "Test Result", console.summaryLine results.length failed.length]
      let failures := if failed = [] then [] else "" :: failuresHeading :: failed.map ("\t" ++ ·)
      ∃ front,
        lines (console.transcript count results) = (front ++ summary ++ failures).map utf8 ++ [[]] ∧
        console.headline "Test Result" ∉ front ∧
        failuresHeading ∉ front ++ summary ∧
        (failuresHeading ∈ front ++ summary ++ failures ↔ ∃ r ∈ results, r.2.1 = .failed) := by
  constructor
  · intro count other results others h hothers heq
    exact console.told_of_transcript h hothers heq
  · intro count results h failed summary failures
    have hlines := console.lines_transcript count h
    have hmem := console.failuresHeading_mem_iff results
    refine ⟨console.openingLines results, ?_, console.headline_not_mem_openingLines results,
      console.failuresHeading_not_mem results _ _, ?_⟩
    · rw [hlines, List.append_assoc]
      rfl
    · rw [List.append_assoc]
      exact hmem

/-- Results whose ids look like other parts of a transcript. -/
def disguised : List TimedResult :=
  [(⟨[], "a failed"⟩, .passed, ⟨0, 7000000⟩), (⟨[], ""⟩, .failed, .zero),
    (⟨[], "\x1b[32m (7ms)"⟩, .failed, .zero), (⟨[], "The following test failed:"⟩, .passed, .zero)]

/-- The same verdicts, but each case took longer. -/
def disguisedSlow : List TimedResult :=
  disguised.map fun r => (r.1, r.2.1, ⟨90, 0⟩)

theorem transcript_unambiguous_disguised :
    let console : Console := { color := true }
    (∀ r ∈ disguised, OneLine r.1.id) ∧
    console.transcript 4 disguised = console.transcript 4 disguisedSlow ∧
    disguised.map (fun r => (r.1.id, r.2.1)) = disguisedSlow.map (fun r => (r.1.id, r.2.1)) ∧
    ∃ front,
      lines (console.transcript 4 disguised) =
        (front ++ [console.headline "Test Result", console.summaryLine 4 2] ++
          ["", failuresHeading, "\t", "\t\x1b[32m (7ms)"]).map utf8 ++ [[]] ∧
      console.headline "Test Result" ∉ front := by
  intro console
  have hids : ∀ r ∈ disguised, OneLine r.1.id := by decide
  have hids' : ∀ r ∈ disguisedSlow, OneLine r.1.id := List.forall_mem_map.2 hids
  have hcase : ∀ r : TimedResult, console.caseLines (r.1, r.2.1, ⟨90, 0⟩) = console.caseLines r :=
    fun r => console.caseLines_quiet rfl r.1 r.2.1 _ _
  have hopening : console.openingLines disguisedSlow = console.openingLines disguised := by
    simp only [openingLines, disguisedSlow, List.flatMap_map, hcase]
  have hsame : console.transcript 4 disguised = console.transcript 4 disguisedSlow := by
    rw [transcript_eq, transcript_eq, hopening]
    rfl
  obtain ⟨hinjective, hresult⟩ := transcript_unambiguous console
  obtain ⟨front, hlines, hfront, -⟩ := hresult 4 disguised hids
  exact ⟨hids, hsame, hinjective 4 4 disguised disguisedSlow hids hids' hsame, front, hlines, hfront⟩

end Console

end GoldenRun
