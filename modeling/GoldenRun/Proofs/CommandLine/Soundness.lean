import GoldenRun.CommandLine.Choices
import GoldenRun.Proofs.CommandLine.Sentences

/-!
# Command lines without a fault

Faults are looked for from the left, one occurrence behind those that are settled. Looked at as a whole,
there is none if every occurrence is sound and no option occurs twice that may not.

* `fault?_eq_none_iff`: an occurrence behind others;
* `firstFault?_eq_none_iff`: all occurrences.

Main statement: `read_eq_ok_iff`, a command line is read if it is a sentence of such occurrences.
-/

namespace GoldenRun.CommandLine

/-! ## 1. One occurrence -/

/-- A value without a fault is a value of its setting, and the first one unless the setting may be
    repeated. -/
theorem valueFault?_eq_none_iff {earlier : List Occurrence} {s : Setting} {value : Bytes} :
    valueFault? earlier s value = none ↔
      s.Admits value ∧ (s ≠ .sutArg → valuesOf s earlier = []) := by
  have hadmits : s.Admits value ↔ ∃ meaning, s.read value = .ok meaning :=
    exists_congr fun _ => Setting.read_eq_ok_iff.symm
  have hrepeated : (!s.repeats && !(valuesOf s earlier).isEmpty) = true ↔
      s ≠ .sutArg ∧ valuesOf s earlier ≠ [] := by
    rw [Bool.and_eq_true, Bool.not_eq_true', Bool.not_eq_true', Setting.repeats, beq_eq_false_iff_ne,
      List.isEmpty_eq_false_iff]
  rw [valueFault?, hadmits]
  split
  · rename_i h
    obtain ⟨hs, hvalues⟩ := hrepeated.mp h
    exact ⟨fun h => (by cases h), fun h => absurd (h.2 hs) hvalues⟩
  · rename_i h
    have hfirst : s ≠ .sutArg → valuesOf s earlier = [] := fun hs =>
      Classical.byContradiction fun hne => h (hrepeated.mpr ⟨hs, hne⟩)
    cases s.read value with
    | ok meaning => exact ⟨fun _ => ⟨⟨meaning, rfl⟩, hfirst⟩, fun _ => rfl⟩
    | error refusal => exact ⟨fun h => (by cases h), fun ⟨⟨_, h⟩, _⟩ => (by cases h)⟩

/-- An occurrence has a value for a setting if it is one of it and is written with a value. -/
theorem Occurrence.valueOf?_eq_some_iff {s : Setting} {o : Occurrence} {value : Bytes} :
    o.valueOf? s = some value ↔ o = .attached s value ∨ o = .detached s value := by
  cases o with
  | attached t v | detached t v =>
      rw [Occurrence.valueOf?]
      split
      · rename_i hts
        subst hts
        simp
      · rename_i hts
        simp [hts]
  | bare | switch | help | version => simp [Occurrence.valueOf?]

/-- Each value of a setting has an occurrence of its own. -/
theorem length_valuesOf_le_count (s : Setting) (os : List Occurrence) :
    (valuesOf s os).length ≤ (os.map Occurrence.request).count (.setting s) := by
  induction os with
  | nil => exact Nat.le_refl 0
  | cons o os ih =>
      rw [valuesOf, List.filterMap_cons, List.map_cons]
      cases hvalue : o.valueOf? s with
      | none => exact Nat.le_trans ih List.count_le_count_cons
      | some value =>
          have hrequest : o.request = .setting s := by
            rcases Occurrence.valueOf?_eq_some_iff.mp hvalue with rfl | rfl <;> rfl
          rw [hrequest, List.count_cons_self, List.length_cons]
          exact Nat.succ_le_succ ih

/-- A setting that is not repeated has one value at most. -/
theorem Unrepeated.length_valuesOf_le {os : List Occurrence} (once : Unrepeated os) {s : Setting}
    (hs : s ≠ .sutArg) : (valuesOf s os).length ≤ 1 :=
  Nat.le_trans (length_valuesOf_le_count s os) (once (.setting s) fun h => hs (Request.setting.inj h))

/-- Sound occurrences of a setting are those with a value for it. -/
theorem valuesOf_eq_nil_iff {s : Setting} {os : List Occurrence} (sound : ∀ o ∈ os, o.Sound) :
    valuesOf s os = [] ↔ .setting s ∉ os.map Occurrence.request := by
  rw [valuesOf, List.filterMap_eq_nil_iff, List.mem_map, not_exists]
  refine forall_congr' fun o => ?_
  rw [not_and]
  refine imp_congr_right fun ho => ?_
  have hsound := sound o ho
  cases o with
  | attached t value | detached t value =>
      by_cases ht : t = s <;> simp [Occurrence.valueOf?, Occurrence.request, ht]
  | switch w => simp [Occurrence.valueOf?, Occurrence.request]
  | bare | help | version => exact hsound.elim

/-- An occurrence has no fault if it is sound and its option did not occur before. -/
theorem fault?_eq_none_iff {earlier : List Occurrence} (sound : ∀ o ∈ earlier, o.Sound)
    (o : Occurrence) :
    o.fault? earlier = none ↔
      o.Sound ∧ (o.request ≠ .setting .sutArg → o.request ∉ earlier.map Occurrence.request) := by
  cases o with
  | attached s value | detached s value =>
      rw [Occurrence.fault?, valueFault?_eq_none_iff, valuesOf_eq_nil_iff sound]
      simp only [Occurrence.Sound, Occurrence.request, ne_eq, Request.setting.injEq]
  | switch w =>
      have hmem : earlier.contains (.switch w) = true ↔ .switch w ∈ earlier.map Occurrence.request := by
        rw [List.contains_iff_mem, List.mem_map]
        constructor
        · intro h
          exact ⟨_, h, rfl⟩
        · rintro ⟨o, ho, hrequest⟩
          cases o with
          | switch v =>
              obtain rfl := Request.switch.inj hrequest
              exact ho
          | attached | detached | bare | help | version => cases hrequest
      rw [Occurrence.fault?]
      split
      · rename_i h
        exact ⟨fun hnone => (by cases hnone),
          fun hnew => absurd (hmem.mp h) (hnew.2 (by simp [Occurrence.request]))⟩
      · rename_i h
        exact ⟨fun _ => ⟨trivial, fun _ hold => h (hmem.mpr hold)⟩, fun _ => rfl⟩
  | bare | help | version =>
      exact ⟨fun h => (by cases h), fun h => h.1.elim⟩

/-! ## 2. All occurrences -/

/-- One more occurrence is no repetition if its option did not occur before. -/
theorem unrepeated_concat_iff {earlier : List Occurrence} (once : Unrepeated earlier) (o : Occurrence) :
    Unrepeated (earlier ++ [o]) ↔
      (o.request ≠ .setting .sutArg → o.request ∉ earlier.map Occurrence.request) := by
  have hcount : ∀ r, ((earlier ++ [o]).map Occurrence.request).count r =
      (earlier.map Occurrence.request).count r + (if o.request = r then 1 else 0) := by
    intro r
    rw [List.map_append, List.count_append, List.map_singleton, List.count_singleton]
    simp only [beq_iff_eq]
  constructor
  · intro h hr hold
    have htwice := h o.request hr
    rw [hcount, if_pos rfl] at htwice
    have hpos := List.count_pos_iff.mpr hold
    omega
  · intro hnew r hr
    rw [hcount]
    split
    · rename_i hsame
      subst hsame
      rw [List.count_eq_zero.mpr (hnew hr)]
    · exact once r hr

theorem Unrepeated.of_append {a b : List Occurrence} (h : Unrepeated (a ++ b)) : Unrepeated a := by
  intro r hr
  have hboth := h r hr
  rw [List.map_append, List.count_append] at hboth
  omega

/-- **No fault** is among occurrences that are sound and not repeated. -/
theorem firstFault?_eq_none_iff {earlier os : List Occurrence} (sound : ∀ o ∈ earlier, o.Sound)
    (once : Unrepeated earlier) :
    firstFault? earlier os = none ↔ (∀ o ∈ os, o.Sound) ∧ Unrepeated (earlier ++ os) := by
  -- The occurrences settled so far are sound and not repeated, and one more keeps them so.
  induction os generalizing earlier with
  | nil =>
      rw [List.append_nil]
      exact ⟨fun _ => ⟨fun o ho => absurd ho List.not_mem_nil, once⟩, fun _ => rfl⟩
  | cons o os ih =>
      have hfault := fault?_eq_none_iff sound o
      rw [← unrepeated_concat_iff once] at hfault
      have hsounds : o.Sound → ∀ e ∈ earlier ++ [o], e.Sound := fun hsound =>
        List.forall_mem_append.mpr ⟨sound, List.forall_mem_singleton.mpr hsound⟩
      have happend : earlier ++ o :: os = earlier ++ [o] ++ os := List.append_cons ..
      rw [firstFault?, happend, List.forall_mem_cons]
      constructor
      · intro h
        split at h
        · cases h
        · rename_i hnone
          obtain ⟨hsound, honce⟩ := hfault.mp hnone
          obtain ⟨hlater, hall⟩ := (ih (hsounds hsound) honce).mp h
          exact ⟨⟨hsound, hlater⟩, hall⟩
      · rintro ⟨⟨hsound, hlater⟩, hall⟩
        rw [hfault.mpr ⟨hsound, hall.of_append⟩]
        exact (ih (hsounds hsound) hall.of_append).mpr ⟨hlater, hall⟩

/-- Arguments are not refused if all are explained and no occurrence is at fault. -/
theorem Scan.refusal?_eq_none_iff (scan : Scan) :
    scan.refusal? = none ↔ scan.stop? = none ∧ firstFault? [] scan.occurrences = none := by
  obtain ⟨occurrences, stop?⟩ := scan
  cases stop? with
  | some refusal =>
      refine ⟨fun h => ?_, fun h => (by cases h.1)⟩
      rw [Scan.refusal?] at h
      split at h
      · cases h
      · cases h
  | none =>
      have hsettled : Scan.settled ⟨occurrences, none⟩ = occurrences := rfl
      rw [Scan.refusal?, hsettled]
      cases firstFault? [] occurrences with
      | none => exact ⟨fun _ => ⟨rfl, rfl⟩, fun _ => rfl⟩
      | some refusal => exact ⟨fun h => (by cases h), fun h => (by cases h.2)⟩

/-! ## 3. Command lines that are read -/

variable {arguments : List Bytes} {environment : Environment} {choices : Choices}

/-- **A command line is read** if it is a sentence of sound occurrences that are not repeated; what is
    chosen is then a matter of these and of the environment. -/
theorem read_eq_ok_iff :
    Choices.read arguments environment = .ok choices ↔
      ∃ os, Sentence os arguments ∧ (∀ o ∈ os, o.Sound) ∧ Unrepeated os ∧
        Choices.ofOccurrences os environment = .ok choices := by
  have hfaults : ∀ os, firstFault? [] os = none ↔ (∀ o ∈ os, o.Sound) ∧ Unrepeated os := fun _ =>
    firstFault?_eq_none_iff (fun _ ho => absurd ho List.not_mem_nil) fun _ _ => Nat.zero_le _
  constructor
  · intro h
    rw [Choices.read] at h
    split at h
    · cases h
    · rename_i hnone
      obtain ⟨hstop, hfault⟩ := (Scan.refusal?_eq_none_iff _).mp hnone
      obtain ⟨sound, once⟩ := (hfaults _).mp hfault
      have hscan : scan arguments = ⟨(scan arguments).occurrences, none⟩ := by rw [← hstop]
      exact ⟨_, sentence_of_scan hscan sound once, sound, once, h⟩
  · rintro ⟨os, hsentence, sound, once, hchoices⟩
    have hscan := scan_of_sentence hsentence
    have hnone : Scan.refusal? ⟨os, none⟩ = none :=
      (Scan.refusal?_eq_none_iff _).mpr ⟨rfl, (hfaults os).mpr ⟨sound, once⟩⟩
    simp only [Choices.read, hscan, hnone, hchoices]

end GoldenRun.CommandLine
