import GoldenRun.Proofs.CommandLine.Sources
import Mathlib.Data.List.Perm.Basic

/-!
# What a command line means

The choices that a command line makes are those of its sources, so that neither the order of the options
nor their spelling can matter, nor a variable whose option is there.

* `EnvironmentAdmits`: what the variables that are read must hold;
* `Rearranged`: the same options in another order and spelling.

Main statements: `accepted_iff_sentence`, the command lines that are accepted;
`choices_mean_what_is_said`, what they mean, and what does not matter.
-/

namespace GoldenRun.CommandLine

/-! ## 1. What is accepted -/

/-- Every variable that is read, its option being absent, holds a value of its option. -/
def EnvironmentAdmits (os : List Occurrence) (environment : Environment) : Prop :=
  (∀ (s : Setting) (name : String) (value : Bytes), valuesOf s os = [] → s.envName? = some name →
    environment name = some value → s.Admits value) ∧
  (∀ (w : Switch) (name : String) (value : Bytes), .switch w ∉ os → w.envName? = some name →
    environment name = some value → ∃ answer, Says value answer)

/-- What speaks for a setting is a value of it. -/
theorem admits_of_mem_spoken {os : List Occurrence} {environment : Environment}
    (sound : ∀ o ∈ os, o.Sound) (henvironment : EnvironmentAdmits os environment) {s : Setting}
    {value : Bytes} (h : value ∈ spoken os environment s) : s.Admits value := by
  unfold spoken at h
  split at h
  · rename_i hnil
    obtain ⟨name, hname, hvalue⟩ := Option.bind_eq_some_iff.mp (Option.mem_toList.mp h)
    exact henvironment.1 s name value hnil hname hvalue
  · obtain ⟨o, ho, hvalue⟩ := List.mem_filterMap.mp h
    have hsound := sound o ho
    rcases Occurrence.valueOf?_eq_some_iff.mp hvalue with rfl | rfl
    · exact hsound
    · exact hsound

section Existence

variable {os : List Occurrence} {environment : Environment}

theorem exists_settingOf? (once : Unrepeated os) {s : Setting} (hs : s ≠ .sutArg)
    (h : ∀ value ∈ spoken os environment s, s.Admits value) :
    ∃ value?, settingOf? os environment s = .ok value? := by
  rcases settingOf?_cases once hs with ⟨-, hread⟩ | ⟨value, hspoken, hread⟩
  · exact ⟨none, hread⟩
  · obtain ⟨meaning, hmeaning⟩ := h value (by rw [hspoken]; exact List.mem_singleton_self value)
    rw [hread, Setting.read_eq_ok_iff.mpr hmeaning]
    exact ⟨some meaning, rfl⟩

theorem exists_settingOf (once : Unrepeated os) {s : Setting} (hs : s ≠ .sutArg) (default : s.Value)
    (h : ∀ value ∈ spoken os environment s, s.Admits value) :
    ∃ value, settingOf os environment s default = .ok value := by
  obtain ⟨value?, hvalue⟩ := exists_settingOf? once hs h
  rw [settingOf, hvalue]
  exact ⟨_, rfl⟩

theorem exists_meanings {s : Setting} {sources : List Bytes} (h : ∀ value ∈ sources, s.Admits value) :
    ∃ meanings, List.Forall₂ s.Means sources meanings := by
  induction sources with
  | nil => exact ⟨[], .nil⟩
  | cons source sources ih =>
      obtain ⟨meaning, hmeaning⟩ := h source List.mem_cons_self
      obtain ⟨meanings, hmeanings⟩ := ih fun value hvalue => h value (List.mem_cons_of_mem _ hvalue)
      exact ⟨meaning :: meanings, .cons hmeaning hmeanings⟩

theorem exists_settingsOf (h : ∀ value ∈ spoken os environment .sutArg, Setting.sutArg.Admits value) :
    ∃ values, settingsOf os .sutArg ["-jar", "jSMTLIB.jar"] = .ok values := by
  obtain ⟨meanings, hmeanings⟩ := exists_meanings h
  cases hspoken : spoken os environment .sutArg with
  | nil => exact ⟨_, settingsOf_eq_ok_iff.mpr (show Setting.Told _ (spoken os environment _) _ by
      rw [hspoken, Setting.Told, if_pos rfl])⟩
  | cons source sources =>
      refine ⟨meanings, settingsOf_eq_ok_iff.mpr (show Setting.Told _ (spoken os environment _) _ from ?_)⟩
      rw [Setting.Told, if_neg (by simp [hspoken])]
      exact hmeanings

theorem exists_switchOf (henvironment : EnvironmentAdmits os environment) (w : Switch) :
    ∃ on, switchOf os environment w = .ok on := by
  unfold switchOf
  split
  · exact ⟨true, rfl⟩
  · rename_i hoff
    split
    · rename_i value hvalue
      obtain ⟨name, hname, hset⟩ := Option.bind_eq_some_iff.mp hvalue
      obtain ⟨answer, hsays⟩ :=
        henvironment.2 w name value (fun hon => hoff (List.contains_iff_mem.mpr hon)) hname hset
      exact ⟨answer, Switch.read_eq_ok_iff.mpr hsays⟩
    · exact ⟨false, rfl⟩

end Existence

/-- **The command lines that are accepted.** -/
theorem accepted_iff_sentence (arguments : List Bytes) (environment : Environment) :
    (∃ choices, Choices.read arguments environment = .ok choices) ↔
      ∃ os, Sentence os arguments ∧ Unrepeated os ∧ (∀ o ∈ os, o.Sound) ∧
        EnvironmentAdmits os environment := by
  constructor
  · rintro ⟨choices, h⟩
    obtain ⟨os, hsentence, sound, once, hchoices⟩ := read_eq_ok_iff.mp h
    obtain ⟨htold, hturned⟩ := (ofOccurrences_eq_ok_iff once).mp hchoices
    refine ⟨os, hsentence, once, sound, ?_, ?_⟩
    · intro s name value hnil hname hvalue
      have hspoken : spoken os environment s = [value] := by
        rw [spoken, hnil, hname, Option.bind_some, hvalue]
        rfl
      have hvalues := htold s
      rw [hspoken, Setting.told_singleton_iff] at hvalues
      obtain ⟨meaning, hmeaning, -⟩ := hvalues
      exact ⟨meaning, Setting.read_eq_ok_iff.mp hmeaning⟩
    · intro w name value hoff hname hvalue
      have hsays := hturned w
      rw [Switch.Turned, if_neg hoff, hname, Option.bind_some, hvalue] at hsays
      exact ⟨choices.isOn w, hsays⟩
  · rintro ⟨os, hsentence, once, sound, henvironment⟩
    have hspoken : ∀ s, ∀ value ∈ spoken os environment s, s.Admits value := fun s value hvalue =>
      admits_of_mem_spoken sound henvironment hvalue
    obtain ⟨a₁, h₁⟩ := exists_settingOf once (by decide) (utf8 "tests") (hspoken .testsDir)
    obtain ⟨a₂, h₂⟩ := exists_settingOf once (by decide) "./buildRelease" (hspoken .buildCommand)
    obtain ⟨a₃, h₃⟩ := exists_switchOf henvironment .skipBuild
    obtain ⟨a₄, h₄⟩ := exists_settingOf once (by decide) "java" (hspoken .sutProgram)
    obtain ⟨a₅, h₅⟩ := exists_settingsOf (hspoken .sutArg)
    obtain ⟨a₆, h₆⟩ := exists_settingOf once (by decide) "peticodiac" (hspoken .solver)
    obtain ⟨a₇, h₇⟩ := exists_settingOf once (by decide) (utf8 "yices") (hspoken .solverExec)
    obtain ⟨a₈, h₈⟩ := exists_settingOf once (by decide) "peticodiac" (hspoken .outputKind)
    obtain ⟨a₉, h₉⟩ := exists_settingOf? once (by decide) (hspoken .outputDir)
    obtain ⟨a₁₀, h₁₀⟩ := exists_settingOf once (by decide) "diff" (hspoken .diffProgram)
    obtain ⟨a₁₁, h₁₁⟩ := exists_settingOf? once (by decide) (hspoken .timeout)
    obtain ⟨a₁₂, h₁₂⟩ := exists_settingOf once (by decide) ReportFormat.console (hspoken .format)
    obtain ⟨a₁₃, h₁₃⟩ := exists_switchOf henvironment .exitZero
    obtain ⟨a₁₄, h₁₄⟩ := exists_switchOf henvironment .noColor
    obtain ⟨a₁₅, h₁₅⟩ := exists_switchOf henvironment .verbose
    refine ⟨⟨a₁, a₂, a₃, a₄, a₅, a₆, a₇, a₈, a₉, a₁₀, a₁₁, a₁₂, a₁₃, a₁₄, a₁₅⟩,
      read_eq_ok_iff.mpr ⟨os, hsentence, sound, once, ofOccurrences_eq_ok.mpr ?_⟩⟩
    exact ⟨h₁, h₂, h₃, h₄, h₅, h₆, h₇, h₈, h₉, h₁₀, h₁₁, h₁₂, h₁₃, h₁₄, h₁₅⟩

/-! ## 2. What does not matter -/

/-- The occurrence, its value behind a `=`. -/
def Occurrence.joined : Occurrence → Occurrence
  | .detached s value => .attached s value
  | o => o

/-- The same options with the same values, in any order and spelled in any way; only the values of
    `--sut-arg` keep their order. -/
structure Rearranged (os others : List Occurrence) : Prop where
  same : (os.map Occurrence.joined).Perm (others.map Occurrence.joined)
  order : valuesOf .sutArg os = valuesOf .sutArg others

section Forms

variable (o : Occurrence)

theorem request_joined : o.joined.request = o.request := by
  cases o <;> rfl

theorem valueOf?_joined (s : Setting) : o.joined.valueOf? s = o.valueOf? s := by
  cases o <;> rfl

theorem sound_joined : o.joined.Sound ↔ o.Sound := by
  cases o <;> exact Iff.rfl

theorem joined_eq_switch_iff (w : Switch) : o.joined = .switch w ↔ o = .switch w := by
  cases o <;> simp [Occurrence.joined]

end Forms

/-- The values of a setting, whatever the spelling of its options. -/
theorem valuesOf_eq_joined (s : Setting) (os : List Occurrence) :
    valuesOf s os = (os.map Occurrence.joined).filterMap (·.valueOf? s) := by
  rw [valuesOf, List.filterMap_map]
  exact congrArg (List.filterMap · os) (funext fun o => (valueOf?_joined o s).symm)

namespace Rearranged

variable {os others : List Occurrence}

theorem unrepeated (h : Rearranged os others) (once : Unrepeated os) : Unrepeated others := by
  have hrequests : ∀ os : List Occurrence,
      os.map Occurrence.request = (os.map Occurrence.joined).map Occurrence.request := by
    intro os
    rw [List.map_map]
    exact List.map_congr_left fun o _ => (request_joined o).symm
  intro r hr
  rw [hrequests, ← (h.same.map Occurrence.request).count_eq, ← hrequests]
  exact once r hr

theorem sound (h : Rearranged os others) (sound : ∀ o ∈ os, o.Sound) : ∀ o ∈ others, o.Sound := by
  intro o ho
  have hmem : o.joined ∈ os.map Occurrence.joined :=
    h.same.mem_iff.mpr (List.mem_map_of_mem ho)
  obtain ⟨e, he, hjoined⟩ := List.mem_map.mp hmem
  rw [← sound_joined, ← hjoined, sound_joined]
  exact sound e he

theorem switch_mem_iff (h : Rearranged os others) (w : Switch) :
    .switch w ∈ others ↔ .switch w ∈ os := by
  have hmem : ∀ os : List Occurrence, .switch w ∈ os ↔ .switch w ∈ os.map Occurrence.joined := by
    intro os
    rw [List.mem_map]
    constructor
    · intro hw
      exact ⟨_, hw, rfl⟩
    · rintro ⟨o, ho, hjoined⟩
      rwa [← (joined_eq_switch_iff o w).mp hjoined]
  rw [hmem others, hmem os, h.same.mem_iff]

theorem valuesOf_eq (h : Rearranged os others) (once : Unrepeated os) (s : Setting) :
    valuesOf s others = valuesOf s os := by
  by_cases hs : s = .sutArg
  · rw [hs]
    exact h.order.symm
  · have hperm : (valuesOf s os).Perm (valuesOf s others) := by
      rw [valuesOf_eq_joined, valuesOf_eq_joined]
      exact h.same.filterMap _
    have hone := once.length_valuesOf_le hs
    cases hvalues : valuesOf s os with
    | nil =>
        rw [hvalues] at hperm
        exact hperm.nil_eq.symm
    | cons value rest =>
        rw [hvalues, List.length_cons] at hone
        obtain rfl := List.eq_nil_of_length_eq_zero (show rest.length = 0 by omega)
        rw [hvalues] at hperm
        exact List.perm_singleton.mp hperm.symm

end Rearranged

/-! ## 3. What is meant -/

/-- **Accepted command lines mean what they say.** The arguments that are accepted are a sentence; of its
    occurrences and the environment it holds that

    * a setting is what its values on the command line mean, in order; if there are none, what its variable
      means; if it has none that is set, its default;
    * a switch is on if and only if it stands on the command line or its variable says yes;
    * the same options in any other order and spelling make the same choices, if the values of `--sut-arg`
      keep their order;
    * a variable whose option stands on the command line does not matter, whatever it holds;
    * what is said for one option says nothing about another. -/
theorem choices_mean_what_is_said {arguments : List Bytes} {environment : Environment} {choices : Choices}
    (h : Choices.read arguments environment = .ok choices) :
    ∃ os, Sentence os arguments ∧
      (∀ s : Setting, s.Told (spoken os environment s) (choices.values s)) ∧
      (∀ w : Switch, choices.isOn w = true ↔ .switch w ∈ os ∨
        ∃ value, w.envName?.bind environment = some value ∧ Says value true) ∧
      (∀ others arguments', Sentence others arguments' → Rearranged os others →
        Choices.read arguments' environment = .ok choices) ∧
      (∀ environment' : Environment,
        (∀ s : Setting, valuesOf s os = [] → s.envName?.bind environment' = s.envName?.bind environment) →
        (∀ w : Switch, .switch w ∉ os → w.envName?.bind environment' = w.envName?.bind environment) →
        Choices.read arguments environment' = .ok choices) ∧
      (∀ others arguments' environment' choices', Sentence others arguments' →
        Choices.read arguments' environment' = .ok choices' →
        (∀ s : Setting, spoken others environment' s = spoken os environment s →
          choices'.values s = choices.values s) ∧
        (∀ w : Switch, (.switch w ∈ others ↔ .switch w ∈ os) →
          w.envName?.bind environment' = w.envName?.bind environment →
          choices'.isOn w = choices.isOn w)) := by
  obtain ⟨os, hsentence, sound, once, hchoices⟩ := read_eq_ok_iff.mp h
  obtain ⟨htold, hturned⟩ := (ofOccurrences_eq_ok_iff once).mp hchoices
  refine ⟨os, hsentence, htold, fun w => (hturned w).on_iff, ?_, ?_, ?_⟩
  · intro others arguments' hothers hsame
    have honce := hsame.unrepeated once
    refine read_eq_ok_iff.mpr ⟨others, hothers, hsame.sound sound, honce,
      (ofOccurrences_eq_ok_iff honce).mpr ⟨fun s => ?_, fun w => ?_⟩⟩
    · rw [spoken, hsame.valuesOf_eq once]
      exact htold s
    · exact (hturned w).congr (hsame.switch_mem_iff w) fun _ => rfl
  · intro environment' hsettings hswitches
    refine read_eq_ok_iff.mpr ⟨os, hsentence, sound, once,
      (ofOccurrences_eq_ok_iff once).mpr ⟨fun s => ?_, fun w => ?_⟩⟩
    · have hspoken : spoken os environment' s = spoken os environment s := by
        unfold spoken
        split
        · rename_i hnil
          rw [hsettings s hnil]
        · rfl
      rw [hspoken]
      exact htold s
    · exact (hturned w).congr Iff.rfl (hswitches w)
  · intro others arguments' environment' choices' hothers h'
    obtain ⟨os', hsentence', -, once', hchoices'⟩ := read_eq_ok_iff.mp h'
    have hsame : os' = others := by
      have hscan := scan_of_sentence hsentence'
      rw [scan_of_sentence hothers] at hscan
      exact (Scan.mk.inj hscan).1.symm
    obtain ⟨htold', hturned'⟩ := (ofOccurrences_eq_ok_iff once').mp hchoices'
    rw [hsame] at htold' hturned'
    refine ⟨fun s hspoken => ?_, fun w hmem hvariable => ?_⟩
    · have hvalues := htold' s
      rw [hspoken] at hvalues
      exact hvalues.unique (htold s)
    · rw [Bool.eq_iff_iff, (hturned' w).on_iff, (hturned w).on_iff, hmem, hvariable]

/-- Values that look like options, a switch between them, and the end of the options at the end. -/
def crowdedArguments : List Bytes :=
  [utf8 "--sut-arg", utf8 "--", utf8 "--timeout=+007", utf8 "-v", utf8 "--sut-arg", utf8 "--help",
    utf8 "--solver", utf8 "-", utf8 "--"]

/-- One variable whose option is given, one that speaks for a switch, one for a setting. -/
def crowdedEnvironment : Environment
  | "FUNCTEST_TIMEOUT" => some (utf8 "soon")
  | "FUNCTEST_EXIT_ZERO" => some (utf8 "Yes")
  | "FUNCTEST_DIFF" => some (utf8 "cmp -s")
  | _ => none

/-- What they say together. -/
def crowdedChoices : Choices :=
  { sutArgs := ["--", "--help"], timeout := some 7, verbose := true, solver := "-", exitZero := true,
    diffProgram := "cmp -s" }

theorem read_crowded : Choices.read crowdedArguments crowdedEnvironment = .ok crowdedChoices := by
  decide +kernel

/-- The same without the variable that does not matter. -/
def quietEnvironment : Environment
  | "FUNCTEST_EXIT_ZERO" => some (utf8 "Yes")
  | "FUNCTEST_DIFF" => some (utf8 "cmp -s")
  | _ => none

theorem choices_mean_crowded :
    Choices.read crowdedArguments crowdedEnvironment = .ok crowdedChoices ∧
    Choices.read crowdedArguments quietEnvironment = .ok crowdedChoices := by
  obtain ⟨os, hsentence, -, -, -, hquiet, -⟩ := choices_mean_what_is_said read_crowded
  have hos : os = (scan crowdedArguments).occurrences := by rw [scan_of_sentence hsentence]
  have htimeout : valuesOf .timeout os ≠ [] := by
    rw [hos]
    decide +kernel
  refine ⟨read_crowded, hquiet quietEnvironment (fun s hnone => ?_) fun w _ => ?_⟩
  · cases s with
    | timeout => exact absurd hnone htimeout
    | testsDir | buildCommand | sutProgram | sutArg | solver | solverExec | outputKind | outputDir
    | diffProgram | format => rfl
  · cases w <;> rfl

end GoldenRun.CommandLine
