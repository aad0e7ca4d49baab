import GoldenRun.Reporter.Document
import GoldenRun.Proofs.Bytes.Encoding
import GoldenRun.Proofs.Json.Layout
import GoldenRun.Proofs.Run.Refusal
import Mathlib.Algebra.Group.Nat.Defs

/-!
# What the document says

The document that is written at the end of a run is read back, and says what the run was.

* `Scribe.reporter_boundless`, `Scribe.after_boundless`: into a place without bounds a scribe writes all
  that it says, and is never refused;
* `Document.written_course`: what the document's scribe says about a whole run;
* `Document.datum_ofRun`: what the document says, as data.

Main statement: `Document.decodes_to_run`.
-/

namespace GoldenRun

/-! ## 1. Places without bounds -/

theorem written_append (a b : List Emission) : written (a ++ b) = written a ++ written b :=
  List.flatMap_append

/-- A place without bounds, with the bytes it holds already. -/
def Sink.boundless (held : Bytes) : Sink :=
  { held }

theorem Sink.takeAll_boundless (held : Bytes) (es : List Emission) :
    (boundless held).takeAll es = (none, boundless (held ++ written es)) := by
  induction es generalizing held with
  | nil => rw [written_nil, List.append_nil, takeAll]
  | cons e es ih =>
      cases e with
      | write bytes =>
          rw [takeAll, take_write_of_unbounded rfl, written_cons, ← List.append_assoc]
          exact ih (held ++ bytes)
      | flush => exact ih held

namespace Scribe

variable {α : Type} (scribe : Scribe α)

/-- All that a scribe says about callbacks, and its state behind them. -/
def said : List Callback → α → List Emission × α
  | [], state => ([], state)
  | c :: cs, state =>
    let rest := said cs (scribe c state).2
    ((scribe c state).1 ++ rest.1, rest.2)

/-- One callback. -/
theorem reporter_boundless (c : Callback) (state : α) (held : Bytes) :
    scribe.reporter c (state, .boundless held) =
      (none, (scribe c state).2, .boundless (held ++ written (scribe c state).1)) := by
  simp only [reporter, Sink.takeAll_boundless]

/-- **Callback after callback**: none is refused, and the place holds all that was said. -/
theorem after_boundless (cs : List Callback) (state : α) (held : Bytes) :
    scribe.reporter.refusals (state, .boundless held) (cs.map .callback) = [] ∧
    scribe.reporter.after (state, .boundless held) (cs.map .callback) =
      ((scribe.said cs state).2, .boundless (held ++ written (scribe.said cs state).1)) := by
  induction cs generalizing state held with
  | nil => exact ⟨rfl, by rw [said, written_nil, List.append_nil]; rfl⟩
  | cons c cs ih =>
      obtain ⟨hrefusals, hafter⟩ := ih (scribe c state).2 (held ++ written (scribe c state).1)
      rw [List.map_cons, Reporter.refusals, Reporter.after_callback, reporter_boundless, hrefusals,
        hafter, said, written_append, List.append_assoc]
      exact ⟨rfl, rfl⟩

end Scribe

/-! ## 2. The words about a run -/

/-- A case, its verdict and how long it took. -/
abbrev TimedResult := TestCase × Verdict × Duration

namespace Report

/-- The report of results; it leaves out the times. -/
def ofTimed (results : List TimedResult) : Report :=
  ofResults (results.map fun r => (r.1, r.2.1))

/-- Every case is counted once, and those that failed are named in order. -/
theorem ofTimed_counts (results : List TimedResult) :
    (ofTimed results).total = results.length ∧
    (ofTimed results).failedTests = (results.filter (·.2.1 = .failed)).map (·.1.id) := by
  have hfold : ∀ (results : List TimedResult) (report : Report),
      let all := (results.map fun r => (r.1, r.2.1)).foldl (fun report r => report.record r.1 r.2) report
      all.total = report.total + results.length ∧
      all.failedTests = report.failedTests ++ (results.filter (·.2.1 = .failed)).map (·.1.id) := by
    intro results
    induction results with
    | nil => intro report; exact ⟨rfl, (List.append_nil _).symm⟩
    | cons r results ih =>
        intro report
        obtain ⟨htotal, hfailed⟩ := ih (report.record r.1 r.2.1)
        rw [total_record] at htotal
        simp only [List.map_cons, List.foldl_cons, List.length_cons]
        refine ⟨by omega, ?_⟩
        rw [hfailed]
        cases h : r.2.1 <;> simp [record, h]
  obtain ⟨htotal, hfailed⟩ := hfold results empty
  exact ⟨htotal.trans (Nat.zero_add _), hfailed⟩

end Report

namespace Document

/-- What a reporter is told about a run with these results. -/
def course (count : Nat) (results : List TimedResult) : List Callback :=
  .runStart count :: ((results.map fun r => .testComplete r.1 r.2.1 r.2.2) ++
    [.runComplete (.ofTimed results)])

/-- The entries of results. -/
def entriesOf (results : List TimedResult) : List ResultEntry :=
  results.map fun r => .ofCase r.1 r.2.1 r.2.2

/-- Results are kept in order, and nothing is said about them yet. -/
theorem said_results (results : List TimedResult) (cs : List Callback) (entries : List ResultEntry) :
    scribe.said ((results.map fun r => .testComplete r.1 r.2.1 r.2.2) ++ cs) entries =
      scribe.said cs (entries ++ entriesOf results) := by
  induction results generalizing entries with
  | nil => rw [entriesOf, List.map_nil, List.map_nil, List.nil_append, List.append_nil]
  | cons r results ih =>
      rw [List.map_cons, List.cons_append, Scribe.said, entriesOf, List.map_cons, List.append_cons]
      exact ih (entries ++ [.ofCase r.1 r.2.1 r.2.2])

/-- **What is said about a run** is one document, whatever run there was before. -/
theorem written_course (count : Nat) (results : List TimedResult) (earlier : List ResultEntry) :
    written (scribe.said (course count results) earlier).1 =
      utf8 (ofRun (.ofTimed results) (entriesOf results)).pretty ++ [0x0A] := by
  have hlineFeed : utf8 "\n" = [0x0A] := by decide
  have hstart : scribe (.runStart count) earlier = ([], []) := rfl
  have hcomplete : ∀ report entries, (scribe.said [.runComplete report] entries).1 =
      [.write (utf8 ((ofRun report entries).pretty ++ "\n")), .flush] := fun _ _ => rfl
  rw [course, Scribe.said, hstart, List.nil_append, said_results, List.nil_append, hcomplete]
  rw [written_cons, written_cons, written_nil, Emission.bytes, Emission.bytes, List.append_nil,
    List.append_nil, utf8_append, hlineFeed]

/-! ## 3. The data of a document -/

/-- What every document about a report says first. -/
def reportData (report : Report) : List (String × Json.Datum) :=
  [("total", .natural report.total), ("failed", .natural report.failed),
    ("failed_tests", .list (report.failedTests.map .text))]

/-- What a document says about a case: a time that is too long is told as the longest. -/
def resultDatum (r : TimedResult) : Json.Datum :=
  .record [("test", .text r.1.id), ("result", .text (if r.2.1 = .passed then "passed" else "failed")),
    ("duration_ms", .natural (min (r.2.2.secs * 1000 + r.2.2.nanos / 1000000) (2 ^ 64 - 1)))]

theorem memberData_members (report : Report) :
    Json.memberData report.members = reportData report := by
  simp [Report.members, reportData, Json.memberData_eq, Json.datum, Json.elementData_eq,
    Json.Datum.natural]

theorem datum_toJson (report : Report) : report.toJson.datum = .record (reportData report) := by
  rw [Report.toJson, Json.datum, memberData_members]

theorem datum_ofCase (r : TimedResult) :
    (ResultEntry.ofCase r.1 r.2.1 r.2.2).toJson.datum = resultDatum r := by
  have hword : r.2.1.word = if r.2.1 = .passed then "passed" else "failed" := by
    cases r.2.1 <;> rfl
  have hlongest : ResultEntry.maxMillis = 2 ^ 64 - 1 := rfl
  simp only [ResultEntry.toJson, ResultEntry.ofCase, Json.datum, Json.memberData, resultDatum, hword,
    hlongest, Duration.millis, Json.Datum.natural]

theorem datum_ofRun (results : List TimedResult) :
    (ofRun (.ofTimed results) (entriesOf results)).datum =
      .record (reportData (.ofTimed results) ++ [("results", .list (results.map resultDatum))]) := by
  have hresults : (entriesOf results).map (fun e => e.toJson.datum) = results.map resultDatum := by
    rw [entriesOf, List.map_map]
    exact List.map_congr_left fun r _ => datum_ofCase r
  rw [ofRun, Json.datum, Json.memberData_eq, List.map_append, ← Json.memberData_eq, memberData_members]
  simp only [List.map_cons, List.map_nil, Json.datum, Json.elementData_eq, List.map_map,
    Function.comp_def, hresults]

/-- **The document decodes to the run it describes.** When a reporter that writes into a place without
    bounds was told about a run, whatever it was told and held before,

    * it refused nothing, and has written the encoding of one JSON text and a line feed;
    * the text says the counts of the report, the ids of the failed cases, and case after case its id, its
      verdict and its time in milliseconds;
    * the report alone, without blanks, says the same about itself.

    And the report is that of the run: every case is counted, and those that failed are named in order. -/
theorem decodes_to_run (count : Nat) (results : List TimedResult) (earlier : List ResultEntry)
    (held : Bytes) :
    let report := Report.ofTimed results
    let steps := (course count results).map .callback
    let run := Json.Datum.record (reportData report ++ [("results", .list (results.map resultDatum))])
    scribe.reporter.refusals (earlier, .boundless held) steps = [] ∧
    (∃ text, (scribe.reporter.after (earlier, .boundless held) steps).2 =
        .boundless (held ++ (utf8 text ++ [0x0A])) ∧
      Bytes.decode? (utf8 text) = some text ∧
      Json.Document text run ∧
      Json.decode? text = some run) ∧
    Json.decode? report.toJson.compact = some (.record (reportData report)) ∧
    report.total = results.length ∧
    report.failedTests = (results.filter (·.2.1 = .failed)).map (·.1.id) := by
  intro report steps run
  obtain ⟨hrefusals, hafter⟩ := scribe.after_boundless (course count results) earlier held
  rw [written_course] at hafter
  have hdecoded : Json.decode? (ofRun report (entriesOf results)).pretty = some run := by
    rw [Json.decode?_pretty, datum_ofRun]
  have hcompact : Json.decode? report.toJson.compact = some (.record (reportData report)) := by
    rw [Json.decode?_compact, datum_toJson]
  exact ⟨hrefusals,
    ⟨_, congrArg Prod.snd hafter, Bytes.decode?_utf8 _, Json.decode?_eq_some_iff.mp hdecoded, hdecoded⟩,
    hcompact, Report.ofTimed_counts results⟩

end Document

end GoldenRun
