import GoldenRun.Proofs.CommandLine.Soundness
import Mathlib.Data.List.Forall2

/-!
# The sources of choices

Every choice has a source of its own: its option, else its variable, else its default. This file says what
each source makes of its choice, one setting and one switch at a time.

* `spoken`: the byte strings that speak for a setting; `Setting.Told`: what they make of it;
* `Switch.Turned`: the same for a switch;
* `settingOf?_eq_ok_iff` and its companions: one choice is read as its source says.

Main statement: `ofOccurrences_eq_ok_iff`, choices are made of occurrences exactly if each is what its
source makes of it.
-/

namespace GoldenRun.CommandLine

/-! ## 1. Sources -/

/-- What speaks for a setting: its values on the command line if there are any, else its variable if it
    has one that is set. -/
def spoken (os : List Occurrence) (environment : Environment) (s : Setting) : List Bytes :=
  match valuesOf s os with
  | [] => (s.envName?.bind environment).toList
  | values => values

/-- What a setting is if nothing speaks for it. The tests directory then stands in for the output
    directory, and there is no limit of time. -/
def Setting.defaults : (s : Setting) → List s.Value
  | .testsDir => [utf8 "tests"]
  | .buildCommand => ["./buildRelease"]
  | .sutProgram => ["java"]
  | .sutArg => ["-jar", "jSMTLIB.jar"]
  | .solver => ["peticodiac"]
  | .solverExec => [utf8 "yices"]
  | .outputKind => ["peticodiac"]
  | .outputDir => []
  | .diffProgram => ["diff"]
  | .timeout => []
  | .format => [.console]

/-- What the sources make of a setting: what they mean, one value for each, or the default if there is
    none. -/
def Setting.Told (s : Setting) (sources : List Bytes) (values : List s.Value) : Prop :=
  if sources = [] then values = s.defaults else List.Forall₂ s.Means sources values

/-- What the command line and the environment make of a switch. -/
def Switch.Turned (w : Switch) (os : List Occurrence) (environment : Environment) (on : Bool) : Prop :=
  if .switch w ∈ os then on = true
  else
    match w.envName?.bind environment with
    | some value => Says value on
    | none => on = false

namespace Choices

/-- The values of a setting that were chosen; at most one, the arguments of the program under test
    apart. -/
def values (choices : Choices) : (s : Setting) → List s.Value
  | .testsDir => [choices.testsDir]
  | .buildCommand => [choices.buildCommand]
  | .sutProgram => [choices.sutProgram]
  | .sutArg => choices.sutArgs
  | .solver => [choices.solver]
  | .solverExec => [choices.solverExec]
  | .outputKind => [choices.outputKind]
  | .outputDir => choices.outputDir.toList
  | .diffProgram => [choices.diffProgram]
  | .timeout => choices.timeout.toList
  | .format => [choices.format]

/-- Whether a switch was turned on. -/
def isOn (choices : Choices) : Switch → Bool
  | .skipBuild => choices.skipBuild
  | .exitZero => choices.exitZero
  | .noColor => choices.noColor
  | .verbose => choices.verbose

end Choices

/-! ## 2. One choice -/

theorem bind_eq_ok_iff {ε α β : Type} {x : Except ε α} {f : α → Except ε β} {b : β} :
    x >>= f = .ok b ↔ ∃ a, x = .ok a ∧ f a = .ok b := by
  cases x with
  | error e => exact ⟨fun h => (by cases h), fun ⟨_, h, _⟩ => (by cases h)⟩
  | ok a =>
      constructor
      · intro h
        exact ⟨a, rfl, h⟩
      · rintro ⟨a, ha, h⟩
        obtain rfl := Except.ok.inj ha
        exact h

section Reading

variable {os : List Occurrence} {environment : Environment}

/-- **One source at most** speaks for a setting that is not repeated, and its value is read. -/
theorem settingOf?_cases (once : Unrepeated os) {s : Setting} (hs : s ≠ .sutArg) :
    (spoken os environment s = [] ∧ settingOf? os environment s = .ok none) ∨
    ∃ value, spoken os environment s = [value] ∧
      settingOf? os environment s = (s.read value).map some := by
  have hone := once.length_valuesOf_le hs
  unfold spoken settingOf?
  cases hvalues : valuesOf s os with
  | nil =>
      cases s.envName?.bind environment with
      | none => exact .inl ⟨rfl, rfl⟩
      | some value => exact .inr ⟨value, rfl, rfl⟩
  | cons value rest =>
      rw [hvalues, List.length_cons] at hone
      obtain rfl := List.eq_nil_of_length_eq_zero (show rest.length = 0 by omega)
      exact .inr ⟨value, rfl, rfl⟩

/-- A single value is told as what it means. -/
theorem Setting.told_singleton_iff {s : Setting} {value : Bytes} {values : List s.Value} :
    s.Told [value] values ↔ ∃ meaning, s.read value = .ok meaning ∧ values = [meaning] := by
  rw [Setting.Told, if_neg (List.cons_ne_nil _ _)]
  constructor
  · intro h
    cases h with
    | cons hmeaning hrest =>
        cases hrest with
        | nil => exact ⟨_, Setting.read_eq_ok_iff.mpr hmeaning, rfl⟩
  · rintro ⟨meaning, hread, rfl⟩
    exact .cons (Setting.read_eq_ok_iff.mp hread) .nil

theorem map_some_eq_ok_iff {ε α : Type} {x : Except ε α} {a? : Option α} :
    x.map some = .ok a? ↔ ∃ a, x = .ok a ∧ a? = some a := by
  cases x with
  | error e => exact ⟨fun h => (by cases h), fun ⟨_, h, _⟩ => (by cases h)⟩
  | ok a =>
      constructor
      · intro h
        exact ⟨a, rfl, (Except.ok.inj h).symm⟩
      · rintro ⟨b, hb, rfl⟩
        obtain rfl := Except.ok.inj hb
        rfl

theorem settingOf?_eq_ok_iff (once : Unrepeated os) {s : Setting} (hs : s ≠ .sutArg)
    (hdefaults : s.defaults = []) {value? : Option s.Value} :
    settingOf? os environment s = .ok value? ↔ s.Told (spoken os environment s) value?.toList := by
  rcases settingOf?_cases once hs with ⟨hspoken, hread⟩ | ⟨value, hspoken, hread⟩
  · rw [hspoken, hread, Setting.Told, if_pos rfl, hdefaults, Option.toList_eq_nil_iff, Except.ok.injEq]
    exact eq_comm
  · rw [hspoken, hread, Setting.told_singleton_iff, map_some_eq_ok_iff]
    refine exists_congr fun meaning => and_congr_right fun _ => ?_
    rw [Option.toList_eq_singleton_iff]

theorem settingOf_eq_ok_iff (once : Unrepeated os) {s : Setting} (hs : s ≠ .sutArg)
    {default value : s.Value} (hdefaults : s.defaults = [default]) :
    settingOf os environment s default = .ok value ↔ s.Told (spoken os environment s) [value] := by
  unfold settingOf
  rcases settingOf?_cases once hs with ⟨hspoken, hread⟩ | ⟨v, hspoken, hread⟩
  · rw [hspoken, hread, Setting.Told, if_pos rfl, hdefaults, List.cons.injEq]
    refine ⟨fun h => ⟨(Except.ok.inj h).symm, rfl⟩, fun h => ?_⟩
    rw [h.1]
    rfl
  · rw [hspoken, hread, Setting.told_singleton_iff]
    cases s.read v with
    | error refusal => exact ⟨fun h => (by cases h), fun ⟨_, h, _⟩ => (by cases h)⟩
    | ok meaning =>
        constructor
        · intro h
          obtain rfl := Except.ok.inj h
          exact ⟨meaning, rfl, rfl⟩
        · rintro ⟨m, hm, hvalue⟩
          obtain rfl := Except.ok.inj hm
          rw [(List.cons.inj hvalue).1]
          rfl

/-- Several values are read one by one. -/
theorem mapM_read_eq_ok_iff {s : Setting} {sources : List Bytes} {values : List s.Value} :
    sources.mapM s.read = .ok values ↔ List.Forall₂ s.Means sources values := by
  induction sources generalizing values with
  | nil =>
      constructor
      · intro h
        obtain rfl : [] = values := Except.ok.inj h
        exact .nil
      · rintro ⟨⟩
        rfl
  | cons source sources ih =>
      rw [List.mapM_cons, bind_eq_ok_iff]
      constructor
      · rintro ⟨meaning, hmeaning, h⟩
        obtain ⟨meanings, hmeanings, h⟩ := bind_eq_ok_iff.mp h
        obtain rfl := Except.ok.inj h
        exact .cons (Setting.read_eq_ok_iff.mp hmeaning) (ih.mp hmeanings)
      · intro h
        cases h with
        | cons hmeaning hmeanings =>
            exact ⟨_, Setting.read_eq_ok_iff.mpr hmeaning,
              bind_eq_ok_iff.mpr ⟨_, ih.mpr hmeanings, rfl⟩⟩

theorem settingsOf_eq_ok_iff {values : List String} :
    settingsOf os .sutArg ["-jar", "jSMTLIB.jar"] = .ok values ↔
      Setting.sutArg.Told (spoken os environment .sutArg) values := by
  unfold settingsOf spoken Setting.Told
  cases valuesOf .sutArg os with
  | nil =>
      constructor
      · intro h
        exact (Except.ok.inj h).symm
      · rintro rfl
        rfl
  | cons value rest => exact mapM_read_eq_ok_iff

theorem switchOf_eq_ok_iff {w : Switch} {on : Bool} :
    switchOf os environment w = .ok on ↔ w.Turned os environment on := by
  unfold switchOf Switch.Turned
  by_cases hon : .switch w ∈ os
  · rw [if_pos (List.contains_iff_mem.mpr hon), if_pos hon, Except.ok.injEq]
    exact eq_comm
  · rw [if_neg (fun h => hon (List.contains_iff_mem.mp h)), if_neg hon]
    cases w.envName?.bind environment with
    | none =>
        simp only [Except.ok.injEq]
        exact eq_comm
    | some value => exact Switch.read_eq_ok_iff

/-! ## 3. All choices -/

/-- Every choice is read by itself. -/
theorem ofOccurrences_eq_ok {choices : Choices} :
    Choices.ofOccurrences os environment = .ok choices ↔
      settingOf os environment .testsDir (utf8 "tests") = .ok choices.testsDir ∧
      settingOf os environment .buildCommand "./buildRelease" = .ok choices.buildCommand ∧
      switchOf os environment .skipBuild = .ok choices.skipBuild ∧
      settingOf os environment .sutProgram "java" = .ok choices.sutProgram ∧
      settingsOf os .sutArg ["-jar", "jSMTLIB.jar"] = .ok choices.sutArgs ∧
      settingOf os environment .solver "peticodiac" = .ok choices.solver ∧
      settingOf os environment .solverExec (utf8 "yices") = .ok choices.solverExec ∧
      settingOf os environment .outputKind "peticodiac" = .ok choices.outputKind ∧
      settingOf? os environment .outputDir = .ok choices.outputDir ∧
      settingOf os environment .diffProgram "diff" = .ok choices.diffProgram ∧
      settingOf? os environment .timeout = .ok choices.timeout ∧
      settingOf os environment .format .console = .ok choices.format ∧
      switchOf os environment .exitZero = .ok choices.exitZero ∧
      switchOf os environment .noColor = .ok choices.noColor ∧
      switchOf os environment .verbose = .ok choices.verbose := by
  simp only [Choices.ofOccurrences, bind_eq_ok_iff]
  constructor
  · rintro ⟨_, h₁, _, h₂, _, h₃, _, h₄, _, h₅, _, h₆, _, h₇, _, h₈, _, h₉, _, h₁₀, _, h₁₁, _, h₁₂, _,
      h₁₃, _, h₁₄, _, h₁₅, hchoices⟩
    obtain rfl := Except.ok.inj hchoices
    exact ⟨h₁, h₂, h₃, h₄, h₅, h₆, h₇, h₈, h₉, h₁₀, h₁₁, h₁₂, h₁₃, h₁₄, h₁₅⟩
  · rintro ⟨h₁, h₂, h₃, h₄, h₅, h₆, h₇, h₈, h₉, h₁₀, h₁₁, h₁₂, h₁₃, h₁₄, h₁₅⟩
    exact ⟨_, h₁, _, h₂, _, h₃, _, h₄, _, h₅, _, h₆, _, h₇, _, h₈, _, h₉, _, h₁₀, _, h₁₁, _, h₁₂, _,
      h₁₃, _, h₁₄, _, h₁₅, rfl⟩

/-- **Choices are made of occurrences** exactly if each is what its source makes of it. -/
theorem ofOccurrences_eq_ok_iff (once : Unrepeated os) {choices : Choices} :
    Choices.ofOccurrences os environment = .ok choices ↔
      (∀ s : Setting, s.Told (spoken os environment s) (choices.values s)) ∧
      ∀ w : Switch, w.Turned os environment (choices.isOn w) := by
  have hone : ∀ {s : Setting} {default value : s.Value}, s ≠ .sutArg → s.defaults = [default] →
      (settingOf os environment s default = .ok value ↔ s.Told (spoken os environment s) [value]) :=
    fun hs hdefaults => settingOf_eq_ok_iff once hs hdefaults
  have hmaybe : ∀ {s : Setting} {value? : Option s.Value}, s ≠ .sutArg → s.defaults = [] →
      (settingOf? os environment s = .ok value? ↔ s.Told (spoken os environment s) value?.toList) :=
    fun hs hdefaults => settingOf?_eq_ok_iff once hs hdefaults
  rw [ofOccurrences_eq_ok]
  constructor
  · rintro ⟨h₁, h₂, h₃, h₄, h₅, h₆, h₇, h₈, h₉, h₁₀, h₁₁, h₁₂, h₁₃, h₁₄, h₁₅⟩
    refine ⟨fun s => ?_, fun w => ?_⟩
    · cases s with
      | testsDir => exact (hone (by decide) rfl).mp h₁
      | buildCommand => exact (hone (by decide) rfl).mp h₂
      | sutProgram => exact (hone (by decide) rfl).mp h₄
      | sutArg => exact settingsOf_eq_ok_iff.mp h₅
      | solver => exact (hone (by decide) rfl).mp h₆
      | solverExec => exact (hone (by decide) rfl).mp h₇
      | outputKind => exact (hone (by decide) rfl).mp h₈
      | outputDir => exact (hmaybe (by decide) rfl).mp h₉
      | diffProgram => exact (hone (by decide) rfl).mp h₁₀
      | timeout => exact (hmaybe (by decide) rfl).mp h₁₁
      | format => exact (hone (by decide) rfl).mp h₁₂
    · cases w with
      | skipBuild => exact switchOf_eq_ok_iff.mp h₃
      | exitZero => exact switchOf_eq_ok_iff.mp h₁₃
      | noColor => exact switchOf_eq_ok_iff.mp h₁₄
      | verbose => exact switchOf_eq_ok_iff.mp h₁₅
  · rintro ⟨hs, hw⟩
    exact ⟨(hone (by decide) rfl).mpr (hs .testsDir), (hone (by decide) rfl).mpr (hs .buildCommand),
      switchOf_eq_ok_iff.mpr (hw .skipBuild), (hone (by decide) rfl).mpr (hs .sutProgram),
      settingsOf_eq_ok_iff.mpr (hs .sutArg), (hone (by decide) rfl).mpr (hs .solver),
      (hone (by decide) rfl).mpr (hs .solverExec), (hone (by decide) rfl).mpr (hs .outputKind),
      (hmaybe (by decide) rfl).mpr (hs .outputDir), (hone (by decide) rfl).mpr (hs .diffProgram),
      (hmaybe (by decide) rfl).mpr (hs .timeout), (hone (by decide) rfl).mpr (hs .format),
      switchOf_eq_ok_iff.mpr (hw .exitZero), switchOf_eq_ok_iff.mpr (hw .noColor),
      switchOf_eq_ok_iff.mpr (hw .verbose)⟩

end Reading

/-! ## 4. What a source determines -/

/-- What speaks for a setting says what it is, and nothing else does. -/
theorem Setting.Told.unique {s : Setting} {sources : List Bytes} {a b : List s.Value}
    (ha : s.Told sources a) (hb : s.Told sources b) : a = b := by
  unfold Setting.Told at ha hb
  split at ha
  · rename_i hnone
    rw [if_pos hnone] at hb
    rw [ha, hb]
  · rename_i hsome
    rw [if_neg hsome, ← mapM_read_eq_ok_iff] at hb
    rw [← mapM_read_eq_ok_iff] at ha
    exact Except.ok.inj (ha.symm.trans hb)

/-- No word says both. -/
theorem says_iff_eq {value : Bytes} {a b : Bool} (ha : Says value a) : Says value b ↔ a = b := by
  constructor
  · intro hb
    have hread : ∀ {answer}, Says value answer → Switch.read .verbose value = .ok answer :=
      Switch.read_eq_ok_iff.mpr
    exact Except.ok.inj ((hread ha).symm.trans (hread hb))
  · rintro rfl
    exact ha

namespace Switch.Turned

variable {w : Switch} {os others : List Occurrence} {environment environment' : Environment} {on : Bool}

/-- **A switch is on** if it stands on the command line or its variable says so. -/
theorem on_iff (h : w.Turned os environment on) :
    on = true ↔ .switch w ∈ os ∨ ∃ value, w.envName?.bind environment = some value ∧ Says value true := by
  unfold Turned at h
  split at h
  · rename_i hon
    exact ⟨fun _ => .inl hon, fun _ => h⟩
  · rename_i hoff
    split at h
    · rename_i value hvalue
      rw [hvalue]
      constructor
      · rintro rfl
        exact .inr ⟨value, rfl, h⟩
      · rintro (hon | ⟨v, hv, hsays⟩)
        · exact absurd hon hoff
        · obtain rfl := Option.some.inj hv
          exact (says_iff_eq h).mp hsays
    · rename_i hnone
      rw [hnone, h]
      constructor
      · intro hfalse
        cases hfalse
      · rintro (hon | ⟨v, hv, -⟩)
        · exact absurd hon hoff
        · cases hv

/-- Only its own option and, without it, its own variable turn a switch. -/
theorem congr (h : w.Turned os environment on) (hmem : .switch w ∈ others ↔ .switch w ∈ os)
    (hvariable : .switch w ∉ os → w.envName?.bind environment' = w.envName?.bind environment) :
    w.Turned others environment' on := by
  unfold Turned at h ⊢
  by_cases hon : .switch w ∈ os
  · rw [if_pos hon] at h
    rwa [if_pos (hmem.mpr hon)]
  · rw [if_neg hon] at h
    rwa [if_neg (fun hother => hon (hmem.mp hother)), hvariable hon]

end Switch.Turned

end GoldenRun.CommandLine
