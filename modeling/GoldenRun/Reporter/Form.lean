import GoldenRun.Reporter.Console
import GoldenRun.Reporter.Document

/-!
# The two forms of a report

A run is told as a console transcript or as one document. `Form.scribe` gives both the same type of
state, so that a form can be chosen at run time: the transcript leaves the entries alone.
-/

namespace GoldenRun

/-- How a run is told. -/
inductive Form where
  | transcript (console : Console)
  | document
  deriving DecidableEq, Repr

/-- The scribe of a form. -/
def Form.scribe : Form → Scribe (List ResultEntry)
  | .transcript console => fun callback entries => ((console.scribe callback ()).1, entries)
  | .document => Document.scribe

/-- The reporter of a form; at first there are no entries. -/
def Form.reporter (form : Form) : Reporter (List ResultEntry × Sink) :=
  form.scribe.reporter

end GoldenRun
