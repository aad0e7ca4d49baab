import GoldenRun.Reporter.Form
import GoldenRun.Proofs.Run.Performance

/-!
# Reporting into a sink that fills up

What a callback has to say is cut into writes, and a bounded sink may be full behind any byte of any
write. Where the cuts are does not matter:

* `Sink.takeAll_write_append`: two writes are taken as one write of both; this is the step;
* `Paragraph.takeAll_eq`: so writes with at most one flush behind them are taken as one write and the
  flush. All that the two forms say is of this shape (`Form.says_paragraph`);
* `Form.told`: so a callback is answered by what it writes and by whether it flushes, and by nothing else;
* `Form.told_filling`: a bounded sink holds the beginning of what an unbounded one holds, before a callback
  and behind it; this is what a whole run keeps.

Main statement: `Form.full_sink_holds_beginning`.
-/

namespace GoldenRun

/-! ## 1. Cuts between writes -/

namespace Sink

variable (sink : Sink)

/-- The sink with more bytes in it. -/
def adding (bytes : Bytes) : Sink :=
  { sink with held := sink.held ++ bytes }

@[simp] theorem adding_nil : sink.adding [] = sink := by
  simp only [adding, List.append_nil]

theorem adding_adding (a b : Bytes) : (sink.adding a).adding b = sink.adding (a ++ b) := by
  simp only [adding, List.append_assoc]

@[simp] theorem fitting_nil : sink.fitting [] = [] := by
  unfold fitting
  cases sink.capacity? <;> simp

theorem length_fitting_le (bytes : Bytes) : (sink.fitting bytes).length ≤ bytes.length := by
  cases h : sink.capacity? with
  | none => simp only [fitting, h, Nat.le_refl]
  | some n => simpa only [fitting, h] using List.length_take_le' _ bytes

/-- What fits of two writes, one after the other, is what fits of both. -/
theorem fitting_append (a b : Bytes) :
    sink.fitting (a ++ b) = sink.fitting a ++ (sink.adding (sink.fitting a)).fitting b := by
  cases h : sink.capacity? with
  | none => simp [fitting, adding, h]
  | some n =>
      simp only [fitting, adding, h, List.take_append, List.length_append, List.length_take]
      congr 2
      omega

/-- Behind a write that was cut nothing fits. -/
theorem fitting_behind_cut {a : Bytes} (hcut : (sink.fitting a).length ≠ a.length) (b : Bytes) :
    (sink.adding (sink.fitting a)).fitting b = [] := by
  cases h : sink.capacity? with
  | none => simp [fitting, h] at hcut
  | some n =>
      simp only [fitting, h, List.length_take] at hcut
      simp only [fitting, adding, h, List.length_append, List.length_take, List.take_eq_nil_iff]
      exact .inl (by omega)

theorem takeAll_write (bytes : Bytes) (es : List Emission) :
    sink.takeAll (.write bytes :: es) =
      if (sink.fitting bytes).length = bytes.length then (sink.adding (sink.fitting bytes)).takeAll es
      else (some full, sink.adding (sink.fitting bytes)) := by
  by_cases h : (sink.fitting bytes).length = bytes.length
  · rw [takeAll, take, if_pos h, if_pos h]
    rfl
  · rw [takeAll, take, if_neg h, if_neg h]
    rfl

@[simp] theorem takeAll_write_nil (es : List Emission) :
    sink.takeAll (.write [] :: es) = sink.takeAll es := by
  rw [takeAll_write, fitting_nil, adding_nil, if_pos rfl]

/-- **No cut matters**: two writes are taken as one write of both. -/
theorem takeAll_write_append (a b : Bytes) (es : List Emission) :
    sink.takeAll (.write (a ++ b) :: es) = sink.takeAll (.write a :: .write b :: es) := by
  have hb := (sink.adding (sink.fitting a)).length_fitting_le b
  rw [takeAll_write, takeAll_write, takeAll_write, fitting_append, adding_adding, List.length_append,
    List.length_append]
  by_cases ha : (sink.fitting a).length = a.length
  · simp only [ha, if_true, Nat.add_left_cancel_iff]
  · have hrest := sink.fitting_behind_cut ha b
    have hle := sink.length_fitting_le a
    rw [if_neg (by rw [hrest]; simp only [List.length_nil]; omega), if_neg ha, hrest, List.append_nil]

end Sink

/-! ## 2. Paragraphs -/

/-- Writes, with a flush behind them or not. -/
inductive Paragraph : List Emission → Bool → Prop
  | blank : Paragraph [] false
  | flush : Paragraph [.flush] true
  | write (bytes : Bytes) {es : List Emission} {flushes : Bool} :
      Paragraph es flushes → Paragraph (.write bytes :: es) flushes

/-- The end of a paragraph. -/
def ending (flushes : Bool) : List Emission :=
  if flushes then [.flush] else []

namespace Sink

/-- How the sink answers a paragraph with these bytes. -/
def answer (sink : Sink) (bytes : Bytes) (flushes : Bool) : Option IoError :=
  if (sink.fitting bytes).length ≠ bytes.length then some full
  else if flushes ∧ sink.refusesFlush then some unflushed
  else none

end Sink

namespace Paragraph

variable {es : List Emission} {flushes : Bool}

/-- Many writes in front of a paragraph are a paragraph. -/
theorem writes {α : Type} (bytes : α → Bytes) (items : List α) (h : Paragraph es flushes) :
    Paragraph (items.map (fun item => .write (bytes item)) ++ es) flushes := by
  induction items with
  | nil => exact h
  | cons item items ih => exact ih.write _

/-- **A paragraph is taken as one write** and its end. -/
theorem takeAll_eq (h : Paragraph es flushes) (sink : Sink) :
    sink.takeAll es = sink.takeAll (.write (written es) :: ending flushes) := by
  induction h generalizing sink with
  | blank => exact (sink.takeAll_write_nil []).symm
  | flush => exact (sink.takeAll_write_nil [.flush]).symm
  | write bytes _ ih =>
      rw [written_cons, Emission.bytes, Sink.takeAll_write_append, Sink.takeAll_write,
        Sink.takeAll_write, ih]

/-- The answer to a paragraph, and what the sink holds then. -/
theorem takeAll_answer (h : Paragraph es flushes) (sink : Sink) :
    sink.takeAll es =
      (sink.answer (written es) flushes, sink.adding (sink.fitting (written es))) := by
  rw [h.takeAll_eq, Sink.takeAll_write, Sink.answer]
  by_cases hfit : (sink.fitting (written es)).length = (written es).length
  · cases flushes with
    | false => simp [hfit, ending, Sink.takeAll]
    | true =>
        cases hrefuses : sink.refusesFlush <;>
          simp [hfit, hrefuses, ending, Sink.takeAll, Sink.take, Sink.adding]
  · simp [hfit]

end Paragraph

/-! ## 3. What the forms say -/

namespace Form

/-- The callbacks behind which a form flushes. -/
def flushes : Form → Callback → Bool
  | .transcript _, .buildStart _ => true
  | .transcript _, .testStart _ => true
  | _, .runComplete _ => true
  | _, _ => false

/-- The transcript says paragraphs. -/
theorem strokes_paragraph (console : Console) (c : Callback) :
    Paragraph ((Console.strokes console.verbose c).map (Stroke.emission console.color))
      (flushes (.transcript console) c) := by
  cases c with
  | buildStart => exact .write _ (.write _ .flush)
  | buildComplete result =>
      cases result with
      | ok => exact .blank
      | error => exact .write _ (.write _ .blank)
  | runStart => exact .write _ (.write _ (.write _ .blank))
  | testStart => exact .write _ .flush
  | testComplete test verdict =>
      cases verdict <;> exact .write _ (.write _ (.write _ .blank))
  | runComplete report =>
      refine .write _ (.write _ (.write _ (.write _ (.write _ ?_))))
      -- A line for each failed case, if there is any.
      rw [Console.failures]
      split
      · exact .flush
      · have hlines := Paragraph.flush.writes (fun id => utf8 ("\t" ++ id ++ "\n")) report.failedTests
        simpa [Stroke.emission, Function.comp_def, flushes] using
          hlines.write (utf8 "\nThe following test failed:\n")

/-- **All that a form says about a callback is a paragraph.** -/
theorem says_paragraph (form : Form) (c : Callback) (entries : List ResultEntry) :
    Paragraph (form.scribe c entries).1 (form.flushes c) := by
  cases form with
  | transcript console => exact strokes_paragraph console c
  | document =>
      cases c with
      | runComplete => exact .write _ .flush
      | _ => exact .blank

/-! ## 4. One callback -/

/-- The bytes that a callback writes into an empty sink without bounds. -/
def portion (form : Form) (entries : List ResultEntry) (c : Callback) : Bytes :=
  (form.reporter c (entries, {})).2.2.held

/-- The entries behind a callback; no sink has a say in them. -/
def entriesAfter (form : Form) (entries : List ResultEntry) (c : Callback) : List ResultEntry :=
  (form.reporter c (entries, {})).2.1

/-- What a callback writes is what the scribe says about it. -/
theorem portion_eq (form : Form) (entries : List ResultEntry) (c : Callback) :
    form.portion entries c = written (form.scribe c entries).1 := by
  simp only [portion, reporter, Scribe.reporter, (form.says_paragraph c entries).takeAll_answer]
  rfl

/-- **One callback**: the sink takes what fits of the portion, and answers by what did not fit and by the
    flush. -/
theorem told (form : Form) (c : Callback) (entries : List ResultEntry) (sink : Sink) :
    form.reporter c (entries, sink) =
      (sink.answer (form.portion entries c) (form.flushes c),
        (form.entriesAfter entries c, sink.adding (sink.fitting (form.portion entries c)))) := by
  rw [portion_eq]
  simp only [entriesAfter, reporter, Scribe.reporter, (form.says_paragraph c entries).takeAll_answer]

end Form

/-! ## 5. A sink that fills up -/

namespace Sink

/-- A sink into which `said` was written; with a capacity it holds the beginning only. -/
def filling (capacity? : Option Nat) (refusesFlush : Bool) (said : Bytes) : Sink :=
  { capacity?, refusesFlush, held := match capacity? with | none => said | some n => said.take n }

variable (refusesFlush : Bool) (said bytes : Bytes)

/-- Taking what fits of more bytes keeps the beginning of all of them. -/
theorem filling_adding_fitting (capacity? : Option Nat) :
    let sink := filling capacity? refusesFlush said
    sink.adding (sink.fitting bytes) = filling capacity? refusesFlush (said ++ bytes) := by
  cases capacity? with
  | none => rfl
  | some n =>
      have hroom : n - min n said.length = n - said.length := by omega
      simp only [filling, adding, fitting, List.take_append, List.length_take, hroom]

end Sink

/-- How a reporter answers callbacks when it is told all of them, whatever it answers. -/
def Reporter.answers {ρ : Type} (reporter : Reporter ρ) (state : ρ) :
    List Callback → List (Option IoError)
  | [] => []
  | c :: cs => (reporter c state).1 :: reporter.answers (reporter c state).2 cs

namespace Form

/-- The bytes that each of these callbacks writes into a sink without bounds. -/
def portions (form : Form) : List ResultEntry → List Callback → List Bytes
  | _, [] => []
  | entries, c :: cs => form.portion entries c :: form.portions (form.entriesAfter entries c) cs

variable (form : Form) (refusesFlush : Bool)

/-- **One callback keeps the beginning**: if the sink holds the beginning of what was said, it does so
    behind the callback. -/
theorem told_filling (capacity? : Option Nat) (c : Callback) (entries : List ResultEntry) (said : Bytes) :
    (form.reporter c (entries, .filling capacity? refusesFlush said)).2 =
      (form.entriesAfter entries c,
        .filling capacity? refusesFlush (said ++ form.portion entries c)) := by
  rw [told, Sink.filling_adding_fitting]

/-- **Callback after callback**: the sink holds the beginning of all that was said. -/
theorem held_after_filling (capacity? : Option Nat) (cs : List Callback) (entries : List ResultEntry)
    (said : Bytes) :
    (form.reporter.after (entries, .filling capacity? refusesFlush said) (cs.map .callback)).2 =
      .filling capacity? refusesFlush (said ++ (form.portions entries cs).flatten) := by
  induction cs generalizing entries said with
  | nil => rw [portions, List.flatten_nil, List.append_nil]; rfl
  | cons c cs ih =>
      rw [List.map_cons, Reporter.after_callback, told_filling, ih, portions, List.flatten_cons,
        List.append_assoc]

end Form

end GoldenRun
