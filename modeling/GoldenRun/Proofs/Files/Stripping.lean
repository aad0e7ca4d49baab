import GoldenRun.Proofs.Files.Below

/-!
# What is left below a root

A path below a root is named by what is left of it when the root is taken away. However the root is written
(with doubled slashes, with a `.` in its middle, with a slash at its end), these are the names that lead
from the root to the path.

* `stripInner?_innerComponents`: taking away the components of segments leaves what is behind the segments;
* `exists_leading`: the beginning of a path is that of its first segments;
* `spell_append`: how names are written out.

Main statement: `Path.stripPrefix?_below`.
-/

namespace GoldenRun.Path

/-! ## 1. Segments behind components -/

theorem component?_eq_none_iff {segment : Bytes} : component? segment = none ↔ isIdle segment = true := by
  unfold component?
  cases isIdle segment with
  | true => simp
  | false =>
      rw [if_neg Bool.false_ne_true]
      split <;> simp

/-- Segments without components are idle. -/
theorem innerComponents_eq_nil_iff {segments : List Bytes} :
    innerComponents segments = [] ↔ ∀ segment ∈ segments, isIdle segment = true := by
  simp only [innerComponents, List.filterMap_eq_nil_iff, component?_eq_none_iff]

theorem innerComponents_append (a b : List Bytes) :
    innerComponents (a ++ b) = innerComponents a ++ innerComponents b :=
  List.filterMap_append

theorem stripInner?_nil (segments : List Bytes) : stripInner? [] segments = some segments := by
  rw [stripInner?]

/-- **Behind the components of segments** there are idle ones at most, and then what stands behind the
    segments. -/
theorem stripInner?_innerComponents (xs ys : List Bytes) :
    ∃ idle, (∀ segment ∈ idle, isIdle segment = true) ∧
      stripInner? (innerComponents xs) (xs ++ ys) = some (idle ++ ys) := by
  induction xs with
  | nil => exact ⟨[], nofun, stripInner?_nil ys⟩
  | cons x xs ih =>
      cases hnone : innerComponents (x :: xs) with
      | nil => exact ⟨x :: xs, innerComponents_eq_nil_iff.1 hnone, stripInner?_nil _⟩
      | cons c cs =>
          obtain ⟨idle, hidle, hstrip⟩ := ih
          refine ⟨idle, hidle, ?_⟩
          rw [List.cons_append, stripInner?]
          rw [innerComponents, List.filterMap_cons] at hnone
          cases hx : component? x with
          | none =>
              rw [hx] at hnone
              rw [← hnone]
              exact hstrip
          | some d =>
              rw [hx] at hnone
              obtain ⟨rfl, rfl⟩ := List.cons.inj hnone
              exact (if_pos rfl).trans hstrip

/-- Names are spelt out with a slash between them, whatever idle segments stand before them. -/
theorem spell_append {idle names : List Bytes} (hidle : ∀ segment ∈ idle, isIdle segment = true)
    (hnames : ∀ name ∈ names, IsName name) : spell (idle ++ names) = join slash names := by
  have hkept : ∀ names : List Bytes, (∀ name ∈ names, IsName name) →
      names.dropWhile isIdle = names := by
    intro names h
    cases names with
    | nil => rfl
    | cons name names => rw [List.dropWhile_cons_of_neg (by simp [(h name List.mem_cons_self).not_idle])]
  have hreverse : ∀ name ∈ names.reverse, IsName name := fun name hname =>
    hnames name (List.mem_reverse.1 hname)
  rw [spell, List.dropWhile_append_of_pos hidle, hkept names hnames, trimEnd, hkept _ hreverse,
    List.reverse_reverse]

/-! ## 2. The beginning of a path -/

/-- Only an empty segment can stand for the root directory. -/
theorem leading_cons_of_ne_nil {x : Bytes} (hx : x ≠ []) (more : List Bytes) :
    leading (x :: more) = if x == dot then (some .here, more) else (none, x :: more) := by
  rw [leading]
  exact fun _ _ heq _ => hx heq

/-- The beginning of a path stands in its first segments, whatever is behind them: a leading component or
    none, and then a name or a step up. -/
theorem exists_leading {xs : List Bytes} (hxs : xs ≠ []) :
    ∃ c rest, (c = none → innerComponents rest ≠ []) ∧
      ∀ ys, xs ++ ys ≠ [[]] → leading (xs ++ ys) = (c, rest ++ ys) := by
  obtain ⟨x, xs, rfl⟩ := List.exists_cons_of_ne_nil hxs
  by_cases hempty : x = []
  · refine ⟨some .root, xs, nofun, fun ys hys => ?_⟩
    subst hempty
    obtain ⟨next, more, heq⟩ := List.exists_cons_of_ne_nil (l := xs ++ ys) fun hnil => hys (by
      rw [List.cons_append, hnil])
    rw [List.cons_append, heq, leading]
  · by_cases hdot : x = dot
    · refine ⟨some .here, xs, nofun, fun ys _ => ?_⟩
      rw [List.cons_append, leading_cons_of_ne_nil hempty, if_pos (beq_iff_eq.2 hdot)]
    · refine ⟨none, x :: xs, fun _ hnil => ?_, fun ys _ => ?_⟩
      · have hidle := innerComponents_eq_nil_iff.1 hnil x List.mem_cons_self
        simp [isIdle, hempty, hdot] at hidle
      · rw [List.cons_append, leading_cons_of_ne_nil hempty, if_neg (by simpa using hdot)]

/-! ## 3. Below a root -/

theorem stem_ne_nil (dir : Bytes) : stem dir ≠ [] := by
  unfold stem
  split
  · rename_i h
    obtain ⟨front, rfl⟩ := List.getLast?_eq_some_iff.1 h
    have hcut : segments (front ++ [slash]) = segments front ++ [[]] :=
      cut_append_cons (p := (· == slash)) rfl front []
    rw [hcut, List.dropLast_concat]
    exact cut_ne_nil _ _
  · exact cut_ne_nil _ _

/-- The beginning of a path is that of everything that is put behind its stem. -/
theorem exists_leading_stem {root : Bytes} (hroot : root ≠ []) :
    ∃ c rest, (c = none → innerComponents rest ≠ []) ∧
      (∃ idle, (∀ segment ∈ idle, isIdle segment = true) ∧
        leading (segments root) = (c, rest ++ idle)) ∧
      ∀ ys, ys ≠ [] → leading (stem root ++ ys) = (c, rest ++ ys) := by
  obtain ⟨idle, hsegments, hidle⟩ := segments_eq_stem root
  obtain ⟨c, rest, hrest, hleading⟩ := exists_leading (stem_ne_nil root)
  refine ⟨c, rest, hrest, ⟨idle, hidle, ?_⟩, fun ys hys => hleading ys fun hnil => ?_⟩
  · rw [hsegments]
    refine hleading idle fun hnil => hroot ?_
    rw [← join_cut slash root, ← segments, hsegments, hnil]
    rfl
  · have hlength := congrArg List.length hnil
    have hstem := List.length_pos_iff.2 (stem_ne_nil root)
    have hbehind := List.length_pos_iff.2 hys
    rw [List.length_append, List.length_singleton] at hlength
    omega

/-- **What is left below a root** are the names, joined by slashes, however the root is written. -/
theorem stripPrefix?_below {root : Bytes} (hroot : root ≠ []) {names : List Bytes} (hne : names ≠ [])
    (hnames : ∀ name ∈ names, IsName name) :
    stripPrefix? root (below root names) = some (join slash names) := by
  obtain ⟨c, rest, hrest, ⟨idle, hidle, hrootLeading⟩, hleading⟩ := exists_leading_stem hroot
  have hcomponents : innerComponents (rest ++ idle) = innerComponents rest := by
    rw [innerComponents_append, innerComponents_eq_nil_iff.2 hidle, List.append_nil]
  have hpath : leading (segments (below root names)) = (c, rest ++ names) := by
    rw [segments_below hroot hne hnames, hleading names hne]
  obtain ⟨skipped, hskipped, hstrip⟩ := stripInner?_innerComponents rest names
  have hspelt : (stripInner? (innerComponents rest) (rest ++ names)).map spell =
      some (join slash names) := by
    rw [hstrip, Option.map_some, spell_append hskipped hnames]
  rw [stripPrefix?, components, hrootLeading]
  cases c with
  | some d =>
      simp only [hcomponents, hpath, if_true]
      exact hspelt
  | none =>
      obtain ⟨d, ds, hd⟩ := List.exists_cons_of_ne_nil (hrest rfl)
      simp only [hcomponents, hpath, hd]
      rw [← hd]
      exact hspelt

end GoldenRun.Path
