import GoldenRun.Path

/-!
# Test cases

A case is an input file. Three paths and a name belong to it:

* the *input*, kept as the bytes it was found under;
* the *actual* output, which the system under test writes: the input with `.peticodiac` behind it;
* the *expected* output, the golden file: the actual output with `.expected` behind it;
* the *id*, by which reports name the case: the path below the tests directory, decoded for display.
-/

namespace GoldenRun

/-- The end of a file name that makes a file a test input. -/
def inputSuffix : Bytes := utf8 ".smt2"

/-- What the actual output adds to the name of its input. -/
def actualSuffix : Bytes := utf8 ".peticodiac"

/-- What the golden file adds to the name of the actual output. -/
def expectedSuffix : Bytes := utf8 ".expected"

/-- One test. -/
structure TestCase where
  /-- The path of the input file. -/
  input : Bytes
  /-- The name of the case in reports. -/
  id : String
  deriving DecidableEq, Repr

namespace TestCase

/-- The name of the file at `path` among the tests below `root`; a path that does not lie below `root`
    is its own name. -/
def idBelow (root path : Bytes) : String :=
  ((Path.stripPrefix? root path).getD path).lossy

/-- The case of the input file at `path`, among the tests below `root`. -/
def below (root path : Bytes) : TestCase :=
  ⟨path, idBelow root path⟩

/-- Where the system under test leaves its output. -/
def actual (test : TestCase) : Bytes :=
  Path.appendSuffix test.input actualSuffix

/-- Where the golden file is. -/
def expected (test : TestCase) : Bytes :=
  Path.appendSuffix test.actual expectedSuffix

/-- Cases are equal when their ids are the same text and their inputs the same path. -/
def same (a b : TestCase) : Bool :=
  Path.same a.input b.input && a.id == b.id

@[simp] theorem below_input (root path : Bytes) : (below root path).input = path := rfl

@[simp] theorem below_id (root path : Bytes) : (below root path).id = idBelow root path := rfl

end TestCase

/-- A file name that makes a file a test input. -/
def isInputName (name : Bytes) : Bool :=
  Path.endsWith name inputSuffix

/-- The outcome of one test. -/
inductive Verdict where
  | passed
  | failed
  deriving DecidableEq, Repr

/-- The word for a verdict in documents. -/
def Verdict.word : Verdict → String
  | .passed => "passed"
  | .failed => "failed"

end GoldenRun
