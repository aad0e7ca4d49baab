import GoldenRun.Reporter.Sink

/-!
# The report as one document

The scribe of this file says nothing until the run is over; then it writes one JSON document, a line
feed, and flushes. The document is the report with one more member: the results of all cases, in the
order in which they were completed. The list of results starts anew with every run.
-/

namespace GoldenRun

/-- What the document says about one case. -/
structure ResultEntry where
  test : String
  verdict : Verdict
  millis : Nat
  deriving DecidableEq, Repr

namespace ResultEntry

/-- The longest time that is told, in milliseconds. -/
def maxMillis : Nat := UInt64.size - 1

/-- The entry of a case that took the given time. -/
def ofCase (test : TestCase) (verdict : Verdict) (elapsed : Duration) : ResultEntry :=
  ⟨test.id, verdict, min elapsed.millis maxMillis⟩

/-- The entry as a document. -/
def toJson (entry : ResultEntry) : Json :=
  .obj [("test", .str entry.test), ("result", .str entry.verdict.word),
    ("duration_ms", .num entry.millis)]

end ResultEntry

namespace Document

/-- The document about a run. -/
def ofRun (report : Report) (entries : List ResultEntry) : Json :=
  .obj (report.members ++ [("results", .arr (entries.map ResultEntry.toJson))])

/-- The entries of a run that is going on, after a callback. -/
def entriesAfter (entries : List ResultEntry) : Callback → List ResultEntry
  | .runStart _ => []
  | .testComplete test verdict elapsed => entries ++ [.ofCase test verdict elapsed]
  | _ => entries

/-- What is said about a callback. -/
def emissions (entries : List ResultEntry) : Callback → List Emission
  | .runComplete report => [.write (utf8 ((ofRun report entries).pretty ++ "\n")), .flush]
  | _ => []

/-- The document's scribe; it remembers the entries of the run that is going on. -/
def scribe : Scribe (List ResultEntry) := fun callback entries =>
  (emissions entries callback, entriesAfter entries callback)

end Document

end GoldenRun
