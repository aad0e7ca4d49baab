import GoldenRun.Path

/-!
# Paths below a path

The path that leads from a root down over a list of names is the root with `child` applied name by name.
What the root was written as, with a slash at its end or without, makes no difference to the segments
behind it.

* `Path.below`: the path over a list of names;
* `Path.stem`: the segments of a root without the empty one that a slash at its end leaves.

Main statements: `segments_below`, the segments of such a path are those of the root and then the names;
`below_injective`, different lists of names have different paths.
-/

namespace GoldenRun.Path

/-! ## 1. Names -/

/-- What has no slash is one segment. -/
theorem segments_of_slash_not_mem {segment : Bytes} (h : slash ∉ segment) :
    segments segment = [segment] := by
  refine cut_of_none fun x hx => ?_
  rw [beq_eq_false_iff_ne]
  rintro rfl
  exact h hx

/-- Bytes without a slash, and more of them than `..` has, make a name of every segment they stand
    behind. -/
theorem isName_append {segment suffix : Bytes} (hslash : slash ∉ suffix) (hlong : 2 < suffix.length)
    (h : slash ∉ segment) : IsName (segment ++ suffix) := by
  have hne : ∀ short : Bytes, short.length ≤ 2 → segment ++ suffix ≠ short := by
    rintro short hshort rfl
    rw [List.length_append] at hshort
    omega
  refine ⟨?_, hne dotDot (by decide), fun hmem => (List.mem_append.1 hmem).elim h hslash⟩
  simp [isIdle, hne [] (by decide), hne dot (by decide)]

namespace IsName

variable {name : Bytes}

theorem not_idle (h : IsName name) : isIdle name = false := h.1

theorem ne_dotDot (h : IsName name) : name ≠ dotDot := h.2.1

theorem ne_nil (h : IsName name) : name ≠ [] := by
  rintro rfl
  exact Bool.noConfusion h.1

/-- A name is one segment. -/
theorem segments_eq (h : IsName name) : segments name = [name] :=
  segments_of_slash_not_mem h.2.2

theorem getLast?_ne (h : IsName name) : name.getLast? ≠ some slash :=
  fun hlast => h.2.2 (List.mem_of_getLast? hlast)

end IsName

/-- No segment of a path has a slash in it. -/
theorem slash_not_mem_segments {path segment : Bytes} (h : segment ∈ segments path) :
    slash ∉ segment := by
  intro hslash
  have hmarked := not_mem_cut h hslash
  rw [beq_self_eq_true] at hmarked
  cases hmarked

/-! ## 2. One name below -/

/-- The segments of a directory's path that stand in the paths of its entries. -/
def stem (dir : Bytes) : List Bytes :=
  if dir.getLast? = some slash then (segments dir).dropLast else segments dir

/-- What the stem leaves out is idle. -/
theorem segments_eq_stem (dir : Bytes) :
    ∃ idle, segments dir = stem dir ++ idle ∧ ∀ segment ∈ idle, isIdle segment = true := by
  unfold stem
  by_cases h : dir.getLast? = some slash
  · obtain ⟨front, rfl⟩ := List.getLast?_eq_some_iff.1 h
    have hcut : segments (front ++ [slash]) = segments front ++ [[]] :=
      cut_append_cons (p := (· == slash)) rfl front []
    refine ⟨[[]], ?_, ?_⟩
    · rw [if_pos h, hcut, List.dropLast_concat]
    · intro segment hsegment
      rw [List.mem_singleton.1 hsegment]
      rfl
  · exact ⟨[], by rw [if_neg h, List.append_nil], by simp⟩

section Child

variable {dir name : Bytes}

/-- What is put behind a directory's path has its segments behind the stem. -/
theorem segments_child_eq (hdir : dir ≠ []) (tail : Bytes) :
    segments (child dir tail) = stem dir ++ segments tail := by
  unfold child stem
  by_cases h : dir.getLast? = some slash
  · obtain ⟨front, rfl⟩ := List.getLast?_eq_some_iff.1 h
    have hcut : segments (front ++ [slash]) = segments front ++ [[]] :=
      cut_append_cons (p := (· == slash)) rfl front []
    rw [if_pos h, hcut, List.dropLast_concat, if_pos (by simp), List.append_assoc,
      List.singleton_append]
    exact cut_append_cons (p := (· == slash)) rfl front tail
  · rw [if_neg h, if_neg (by simp [hdir, h])]
    exact cut_append_cons (p := (· == slash)) rfl dir tail

/-- An entry's path has the stem of the directory and the name as its segments. -/
theorem segments_child (hdir : dir ≠ []) (hname : IsName name) :
    segments (child dir name) = stem dir ++ [name] := by
  rw [segments_child_eq hdir, hname.segments_eq]

/-- A directory's path begins those of its entries. -/
theorem prefix_child (dir name : Bytes) : dir <+: child dir name := by
  unfold child
  split
  · exact List.prefix_append dir name
  · exact List.prefix_append dir (slash :: name)

theorem child_ne_nil (hdir : dir ≠ []) (name : Bytes) : child dir name ≠ [] := by
  intro h
  have hprefix : dir <+: [] := h ▸ prefix_child dir name
  exact hdir (List.prefix_nil.1 hprefix)

/-- An entry's path ends as its name does. -/
theorem getLast?_child (hname : IsName name) : (child dir name).getLast? = name.getLast? := by
  have hsome : name.getLast? = some (name.getLast hname.ne_nil) := List.getLast?_eq_some_getLast _
  unfold child
  split
  · rw [List.getLast?_append, hsome, Option.some_or]
  · rw [List.getLast?_append, List.getLast?_cons_of_ne_nil hname.ne_nil, hsome, Option.some_or]

/-- An entry's path does not end in a slash, so all its segments are its stem. -/
theorem stem_child (hname : IsName name) : stem (child dir name) = segments (child dir name) := by
  rw [stem, if_neg (getLast?_child hname ▸ hname.getLast?_ne)]

/-- At most a slash stands between a directory's path and a name. -/
theorem length_child_le (dir name : Bytes) : (child dir name).length ≤ dir.length + 1 + name.length := by
  unfold child
  split
  · rw [List.length_append]
    omega
  · rw [List.length_append, List.length_cons]
    omega

theorem isAbsolute_of_prefix {a b : Bytes} (ha : a ≠ []) (h : a <+: b) :
    isAbsolute b = isAbsolute a := by
  obtain ⟨rest, rfl⟩ := h
  cases a with
  | nil => exact absurd rfl ha
  | cons x a => rfl

end Child

/-! ## 3. Names below -/

/-- The path that leads from `root` down over the names. -/
def below (root : Bytes) (names : List Bytes) : Bytes :=
  names.foldl child root

@[simp] theorem below_nil (root : Bytes) : below root [] = root := rfl

@[simp] theorem below_cons (root name : Bytes) (names : List Bytes) :
    below root (name :: names) = below (child root name) names := rfl

theorem below_append (root : Bytes) (a b : List Bytes) :
    below root (a ++ b) = below (below root a) b :=
  List.foldl_append

/-- Going further down only adds to a path. -/
theorem prefix_below (root : Bytes) (names : List Bytes) : root <+: below root names := by
  induction names generalizing root with
  | nil => exact List.prefix_rfl
  | cons name names ih => exact (prefix_child root name).trans (ih (child root name))

theorem below_prefix_below (root : Bytes) {a b : List Bytes} (h : a <+: b) :
    below root a <+: below root b := by
  obtain ⟨rest, rfl⟩ := h
  rw [below_append]
  exact prefix_below (below root a) rest

/-- Nothing but slashes is added to a root and names. -/
theorem mem_below {byte : UInt8} (hbyte : byte ≠ slash) {root : Bytes} {names : List Bytes} :
    byte ∈ below root names ↔ byte ∈ root ∨ ∃ name ∈ names, byte ∈ name := by
  have hchild : ∀ dir name : Bytes, byte ∈ child dir name ↔ byte ∈ dir ∨ byte ∈ name := by
    intro dir name
    unfold child
    split <;> simp [hbyte]
  induction names generalizing root with
  | nil => simp
  | cons name names ih => simp [ih, hchild, or_assoc]

theorem below_ne_nil {root : Bytes} (h : root ≠ []) (names : List Bytes) : below root names ≠ [] :=
  fun hnil => h (List.prefix_nil.1 (hnil ▸ prefix_below root names))

/-- **The segments below a root.** The stem of the root, and then the names. -/
theorem segments_below {root : Bytes} (hroot : root ≠ []) {names : List Bytes} (hne : names ≠ [])
    (hnames : ∀ name ∈ names, IsName name) : segments (below root names) = stem root ++ names := by
  induction names generalizing root with
  | nil => exact absurd rfl hne
  | cons name names ih =>
      have hname : IsName name := hnames name List.mem_cons_self
      by_cases hlast : names = []
      · rw [hlast]
        exact segments_child hroot hname
      · have hrest := ih (child_ne_nil hroot name) hlast fun n hn =>
          hnames n (List.mem_cons_of_mem _ hn)
        rw [below_cons, hrest, stem_child hname, segments_child hroot hname, List.append_assoc,
          List.singleton_append]

/-- **Different names, different paths.** -/
theorem below_injective {root : Bytes} (hroot : root ≠ []) {a b : List Bytes} (ha : a ≠ [])
    (hb : b ≠ []) (hnamesA : ∀ name ∈ a, IsName name) (hnamesB : ∀ name ∈ b, IsName name)
    (h : below root a = below root b) : a = b := by
  have hsegments : stem root ++ a = stem root ++ b := by
    rw [← segments_below hroot ha hnamesA, ← segments_below hroot hb hnamesB, h]
  exact List.append_cancel_left hsegments

end GoldenRun.Path
