import GoldenRun.Proofs.Files.Rejoining

/-!
# What is put behind the last byte of a path

The outputs of a case are named by bytes put behind the last byte of its input's path. These bytes go to the
last segment, whatever it is: a name becomes longer, a `.` or `..` becomes a name, and behind a slash there
is a new name. So the last segment counts in an output's path even where it does not count in the input's.

* `Path.exists_parts`: a path is a front, up to its last slash, and the segment behind that;
* `components_front_append`: a segment that counts is one more component behind its front;
* `same_append_iff`: when two paths are the same with a suffix behind them;
* `same_of_same_append`: then they are the same without it; `same_append_of_same`, and the other way round
  where the last segments count.

Main statement: `TestCase.outputs_tell_inputs`.
-/

namespace GoldenRun

namespace Path

/-! ## 1. Segments and their components -/

theorem component?_eq_some {segment : Bytes} {c : Component} (h : component? segment = some c) :
    segment = dotDot ∧ c = .parent ∨ c = .name segment := by
  unfold component? at h
  split at h
  · cases h
  · split at h
    · rename_i hparent
      exact .inl ⟨eq_of_beq hparent, (Option.some.inj h).symm⟩
    · exact .inr (Option.some.inj h).symm

/-- A component tells the segment it was read from. -/
theorem component?_inj {x y : Bytes} {c : Component} (hx : component? x = some c)
    (hy : component? y = some c) : x = y := by
  rcases component?_eq_some hx with ⟨rfl, rfl⟩ | rfl
  · rcases component?_eq_some hy with ⟨rfl, -⟩ | h
    · rfl
    · cases h
  · rcases component?_eq_some hy with ⟨-, h⟩ | h
    · cases h
    · exact Component.name.inj h

theorem IsName.component?_eq {name : Bytes} (h : IsName name) : component? name = some (.name name) := by
  rw [component?, h.not_idle, if_neg Bool.false_ne_true, if_neg (by simpa using h.ne_dotDot)]

theorem components_eq_nil_iff {path : Bytes} : components path = [] ↔ path = [] := by
  constructor
  · intro h
    exact Decidable.byContradiction fun hne => components_ne_nil hne h
  · rintro rfl
    rfl

/-! ## 2. The parts of a path -/

/-- A path up to a slash, that included; or nothing. -/
def IsFront (front : Bytes) : Prop :=
  front = [] ∨ front.getLast? = some slash

/-- **The parts of a path**: its front up to the last slash, and the segment behind that. -/
theorem exists_parts (path : Bytes) :
    ∃ front last, IsFront front ∧ slash ∉ last ∧ path = front ++ last := by
  induction path with
  | nil => exact ⟨[], [], .inl rfl, List.not_mem_nil, rfl⟩
  | cons byte path ih =>
      obtain ⟨front, last, hfront, hlast, rfl⟩ := ih
      by_cases hnone : front = []
      · subst hnone
        by_cases hslash : byte = slash
        · exact ⟨[byte], last, .inr (congrArg some hslash), hlast, rfl⟩
        · have hsegment : slash ∉ byte :: last := by
            rw [List.mem_cons, not_or]
            exact ⟨fun h => hslash h.symm, hlast⟩
          exact ⟨[], byte :: last, .inl rfl, hsegment, rfl⟩
      · have hend : front.getLast? = some slash := hfront.resolve_left hnone
        refine ⟨byte :: front, last, .inr ?_, hlast, rfl⟩
        rw [List.getLast?_cons_of_ne_nil hnone, hend]

section Parts

variable {front last : Bytes}

theorem IsFront.child_eq (h : IsFront front) (tail : Bytes) : child front tail = front ++ tail := by
  unfold child
  rcases h with rfl | h
  · rfl
  · rw [if_pos (by simp [h])]

/-- Behind a front that is not empty, the last segment has its own component or none. -/
theorem components_parts (h : IsFront front) (hne : front ≠ []) (hlast : slash ∉ last) :
    components (front ++ last) = components front ++ (component? last).toList := by
  rw [← h.child_eq, components_child hne, segments_of_slash_not_mem hlast]
  cases hc : component? last with
  | none => rw [innerComponents_cons_of_none hc]; rfl
  | some c => rw [innerComponents_cons_of_some hc]; rfl

/-- **A segment that counts** is one more component behind its front, be that empty or not. -/
theorem components_front_append (h : IsFront front) (hlast : slash ∉ last) {c : Component}
    (hc : component? last = some c) : components (front ++ last) = components front ++ [c] := by
  by_cases hne : front = []
  · subst hne
    have hidle : isIdle last = false := by
      rw [← Bool.not_eq_true, ← component?_eq_none_iff, hc]
      exact Option.some_ne_none c
    have hjoined : components (join slash [last]) = innerComponents [last] :=
      components_join (fun hnil => by rw [hnil] at hidle; cases hidle)
        (fun hdot => by rw [hdot] at hidle; cases hidle) (List.forall_mem_singleton.2 hlast)
    rw [join_singleton, innerComponents_cons_of_some hc] at hjoined
    exact hjoined
  · rw [components_parts h hne hlast, hc]
    rfl

/-- A path whose last segment counts is neither empty nor `.`. -/
theorem components_front_append_ne (h : IsFront front) (hlast : slash ∉ last) {c : Component}
    (hc : component? last = some c) {path : Bytes} (hpath : path = [] ∨ path = dot) :
    components (front ++ last) ≠ components path := by
  rw [components_front_append h hlast hc]
  rcases hpath with rfl | rfl
  · exact List.append_ne_nil_of_right_ne_nil _ (List.cons_ne_nil c [])
  · intro heq
    have hhere : components front ++ [c] = [] ++ [.here] := heq
    rw [List.singleton_inj.1 (List.append_inj' hhere rfl).2] at hc
    rcases component?_eq_some hc with ⟨-, hc⟩ | hc <;> cases hc

end Parts

/-! ## 3. Suffixes -/

/-- The path ends in a slash, or in a slash and a dot: its last segment does not count. -/
def EndsIdle (path : Bytes) : Prop :=
  endsWith path (utf8 "/") = true ∨ endsWith path (utf8 "/.") = true

instance (path : Bytes) : Decidable (EndsIdle path) :=
  inferInstanceAs (Decidable (_ ∨ _))

/-- In a path that does not end so, the last segment counts; but `.` alone is a beginning. -/
theorem component?_last_cases {front last : Bytes} (hfront : IsFront front)
    (h : ¬ EndsIdle (front ++ last)) :
    (∃ c, component? last = some c) ∨ front = [] ∧ (last = [] ∨ last = dot) := by
  cases hc : component? last with
  | some c => exact .inl ⟨c, rfl⟩
  | none =>
      have hidle : last = [] ∨ last = dot := by
        simpa [isIdle] using component?_eq_none_iff.1 hc
      refine .inr ⟨?_, hidle⟩
      refine Decidable.byContradiction fun hne => h ?_
      obtain ⟨before, rfl⟩ := List.getLast?_eq_some_iff.1 (hfront.resolve_left hne)
      have hend : ∀ tail, endsWith (before ++ [slash] ++ tail) (slash :: tail) = true := fun tail => by
        rw [endsWith, List.isSuffixOf_iff_suffix, List.append_assoc]
        exact List.suffix_append before _
      rcases hidle with rfl | rfl
      · exact .inl (hend [])
      · exact .inr (hend dot)

section Suffix

variable {suffix : Bytes} (hslash : slash ∉ suffix) (hlong : 2 < suffix.length)

include hslash hlong

/-- **When paths with a suffix are the same**: their fronts have the same components, and their last segments
    are the same bytes. -/
theorem same_append_iff {front last front' last' : Bytes} (hfront : IsFront front)
    (hfront' : IsFront front') (hlast : slash ∉ last) (hlast' : slash ∉ last') :
    same (front ++ last ++ suffix) (front' ++ last' ++ suffix) = true ↔
      components front = components front' ∧ last = last' := by
  have hname := isName_append hslash hlong hlast
  have hname' := isName_append hslash hlong hlast'
  rw [same, beq_iff_eq, List.append_assoc, List.append_assoc,
    components_front_append hfront hname.2.2 hname.component?_eq,
    components_front_append hfront' hname'.2.2 hname'.component?_eq]
  constructor
  · intro h
    obtain ⟨hcomponents, hend⟩ := List.append_inj' h rfl
    exact ⟨hcomponents, List.append_cancel_right (Component.name.inj (List.singleton_inj.1 hend))⟩
  · rintro ⟨hcomponents, rfl⟩
    rw [hcomponents]

/-- **Paths that are the same with a suffix** are the same without it. -/
theorem same_of_same_append {a b : Bytes} (h : same (a ++ suffix) (b ++ suffix) = true) :
    same a b = true := by
  obtain ⟨front, last, hfront, hlast, rfl⟩ := exists_parts a
  obtain ⟨front', last', hfront', hlast', rfl⟩ := exists_parts b
  obtain ⟨hcomponents, rfl⟩ := (same_append_iff hslash hlong hfront hfront' hlast hlast').1 h
  have hempty : front = [] ↔ front' = [] := by
    rw [← components_eq_nil_iff, hcomponents, components_eq_nil_iff]
  rw [same, beq_iff_eq]
  by_cases hne : front = []
  · rw [hne, hempty.1 hne]
  · rw [components_parts hfront hne hlast, components_parts hfront' (mt hempty.2 hne) hlast,
      hcomponents]

/-- **Paths that are the same** are the same with a suffix, if the last segments count in both. -/
theorem same_append_of_same {a b : Bytes} (ha : ¬ EndsIdle a) (hb : ¬ EndsIdle b)
    (h : same a b = true) : same (a ++ suffix) (b ++ suffix) = true := by
  obtain ⟨front, last, hfront, hlast, rfl⟩ := exists_parts a
  obtain ⟨front', last', hfront', hlast', rfl⟩ := exists_parts b
  rw [same_append_iff hslash hlong hfront hfront' hlast hlast']
  rw [same, beq_iff_eq] at h
  rcases component?_last_cases hfront ha with ⟨c, hc⟩ | ⟨rfl, hidle⟩
  · rcases component?_last_cases hfront' hb with ⟨c', hc'⟩ | ⟨rfl, hidle'⟩
    · rw [components_front_append hfront hlast hc, components_front_append hfront' hlast' hc'] at h
      obtain ⟨hcomponents, hend⟩ := List.append_inj' h rfl
      rw [← List.singleton_inj.1 hend] at hc'
      exact ⟨hcomponents, component?_inj hc hc'⟩
    · exact absurd h (components_front_append_ne hfront hlast hc hidle')
  · rcases component?_last_cases hfront' hb with ⟨c', hc'⟩ | ⟨rfl, hidle'⟩
    · exact absurd h.symm (components_front_append_ne hfront' hlast' hc' hidle)
    · refine ⟨rfl, ?_⟩
      rcases hidle with rfl | rfl <;> rcases hidle' with rfl | rfl
      · rfl
      · exact absurd h (by decide)
      · exact absurd h (by decide)
      · rfl

end Suffix

end Path

/-! ## 4. Outputs -/

namespace TestCase

open GoldenRun.Path (EndsIdle)

/-- **Outputs tell inputs.** For every two cases, whatever the paths of their inputs look like:

    * if their actual outputs have the same path, or their expected outputs have, so have their inputs;
    * if their inputs have the same path, so have both outputs, but for inputs that end in `/` or `/.`. -/
theorem outputs_tell_inputs (a b : TestCase) :
    (Path.same a.actual b.actual = true → Path.same a.input b.input = true) ∧
    (Path.same a.expected b.expected = true → Path.same a.input b.input = true) ∧
    (¬ EndsIdle a.input → ¬ EndsIdle b.input → Path.same a.input b.input = true →
      Path.same a.actual b.actual = true ∧ Path.same a.expected b.expected = true) := by
  have hactual : Path.slash ∉ actualSuffix ∧ 2 < actualSuffix.length := by decide +kernel
  have hexpected : Path.slash ∉ actualSuffix ++ expectedSuffix ∧
      2 < (actualSuffix ++ expectedSuffix).length := by decide +kernel
  have hboth : ∀ test : TestCase, test.expected = test.input ++ (actualSuffix ++ expectedSuffix) :=
    fun test => List.append_assoc _ _ _
  refine ⟨Path.same_of_same_append hactual.1 hactual.2, ?_, fun ha hb h => ⟨?_, ?_⟩⟩
  · rw [hboth, hboth]
    exact Path.same_of_same_append hexpected.1 hexpected.2
  · exact Path.same_append_of_same hactual.1 hactual.2 ha hb h
  · rw [hboth, hboth]
    exact Path.same_append_of_same hexpected.1 hexpected.2 ha hb h

theorem outputs_tell_inputs_untidy :
    let a : TestCase := ⟨utf8 "./t/.//x/..", "x/.."⟩
    let b : TestCase := ⟨utf8 "././t/x//..", "x/.."⟩
    let c : TestCase := ⟨utf8 "./t/x/../.", "x/.."⟩
    ¬ EndsIdle a.input ∧ ¬ EndsIdle b.input ∧ Path.same a.input b.input = true ∧
      Path.same a.actual b.actual = true ∧ Path.same a.expected b.expected = true ∧
      EndsIdle c.input ∧ Path.same a.input c.input = true ∧
      Path.same a.actual c.actual = false ∧ Path.same a.expected c.expected = false := by
  intro a b c
  have ha : ¬ EndsIdle a.input := by decide +kernel
  have hb : ¬ EndsIdle b.input := by decide +kernel
  have hsame : Path.same a.input b.input = true := by decide +kernel
  obtain ⟨hactual, hexpected⟩ := (outputs_tell_inputs a b).2.2 ha hb hsame
  refine ⟨ha, hb, (outputs_tell_inputs a b).1 hactual, hactual, hexpected, ?_⟩
  decide +kernel

end TestCase

end GoldenRun
