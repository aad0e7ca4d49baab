import GoldenRun.Proofs.Bytes.Display
import GoldenRun.Proofs.Files.Stripping
import GoldenRun.TestCase

/-!
# From an id back to its file

What is left of a path below a root leads from the root to the path again, whatever the two look like: the
parts of a path that are lost on the way (doubled slashes, an inner `.`, a slash at the end) are those that
do not count. A path that does not lie below the root is left as it is.

* `components_child`: the components of a path with something put behind it;
* `stripInner?_eq_some` and `exists_stripInner?`: what is behind components, and when there is something;
* `components_trimmed`, `innerComponents_segments_spell`: what is written out again counts the same;
* `isText_join`: a path is a text if its segments are.

Main statement: `TestCase.id_leads_back`.
-/

namespace GoldenRun

namespace Path

/-! ## 1. Behind a path -/

theorem components_eq (path : Bytes) :
    components path =
      (leading (segments path)).1.toList ++ innerComponents (leading (segments path)).2 := by
  unfold components
  split
  · rename_i h
    rw [h]
    rfl
  · rename_i h
    rw [h]
    rfl

/-- **What is put behind a path** has no components of a beginning. -/
theorem components_child {dir : Bytes} (hdir : dir ≠ []) (tail : Bytes) :
    components (child dir tail) = components dir ++ innerComponents (segments tail) := by
  obtain ⟨c, rest, -, ⟨idle, hidle, hdirLeading⟩, hleading⟩ := exists_leading_stem hdir
  have hchild : leading (segments (child dir tail)) = (c, rest ++ segments tail) := by
    rw [segments_child_eq hdir, hleading (segments tail) (cut_ne_nil _ _)]
  rw [components_eq, components_eq, hchild, hdirLeading, innerComponents_append,
    innerComponents_append, innerComponents_eq_nil_iff.2 hidle, List.append_nil, List.append_assoc]

/-- Only the empty path has no components. -/
theorem components_ne_nil {path : Bytes} (hpath : path ≠ []) : components path ≠ [] := by
  obtain ⟨c, rest, hrest, ⟨idle, -, hleading⟩, -⟩ := exists_leading_stem hpath
  rw [components_eq, hleading, innerComponents_append]
  cases c with
  | some d => exact List.cons_ne_nil d _
  | none => exact List.append_ne_nil_of_left_ne_nil (hrest rfl) _

/-! ## 2. What is stripped -/

theorem innerComponents_cons_of_none {segment : Bytes} (h : component? segment = none)
    (rest : List Bytes) : innerComponents (segment :: rest) = innerComponents rest :=
  List.filterMap_cons_none h

theorem innerComponents_cons_of_some {segment : Bytes} {c : Component}
    (h : component? segment = some c) (rest : List Bytes) :
    innerComponents (segment :: rest) = c :: innerComponents rest :=
  List.filterMap_cons_some h

/-- What is left behind components has the components behind them. -/
theorem stripInner?_eq_some {cs : List Component} {segments left : List Bytes}
    (h : stripInner? cs segments = some left) :
    innerComponents segments = cs ++ innerComponents left ∧ left <:+ segments := by
  fun_induction stripInner? cs segments with
  | case1 segments =>
      cases h
      exact ⟨rfl, List.suffix_rfl⟩
  | case2 => cases h
  | case3 c cs segment rest hnone ih =>
      obtain ⟨hinner, hsuffix⟩ := ih h
      rw [innerComponents_cons_of_none hnone]
      exact ⟨hinner, hsuffix.trans (List.suffix_cons segment rest)⟩
  | case4 cs segment rest d hsome ih =>
      obtain ⟨hinner, hsuffix⟩ := ih h
      rw [innerComponents_cons_of_some hsome, hinner]
      exact ⟨rfl, hsuffix.trans (List.suffix_cons segment rest)⟩
  | case5 => cases h

/-- Components that begin those of the segments can be stripped. -/
theorem exists_stripInner? {cs : List Component} {segments : List Bytes}
    (h : cs <+: innerComponents segments) : ∃ left, stripInner? cs segments = some left := by
  fun_induction stripInner? cs segments with
  | case1 segments => exact ⟨segments, rfl⟩
  | case2 c cs => cases List.prefix_nil.1 h
  | case3 c cs segment rest hnone ih =>
      rw [innerComponents_cons_of_none hnone] at h
      exact ih h
  | case4 cs segment rest d hsome ih =>
      rw [innerComponents_cons_of_some hsome] at h
      exact ih ((List.cons_prefix_cons.1 h).2)
  | case5 c cs segment rest d hsome hne =>
      rw [innerComponents_cons_of_some hsome] at h
      exact absurd (List.cons_prefix_cons.1 h).1 hne

/-- The segments behind the beginning of a path. -/
theorem leading_suffix (segments : List Bytes) : (leading segments).2 <:+ segments := by
  unfold leading
  split
  · exact List.suffix_cons _ _
  · split
    · exact List.suffix_cons _ _
    · exact List.suffix_rfl
  · exact List.suffix_rfl

/-- **What is left below a root** is spelt from the last segments of the path, and these have the components
    that the root does not have. -/
theorem exists_left {root path rest : Bytes} (hroot : root ≠ []) (h : stripPrefix? root path = some rest) :
    ∃ left, left <:+ segments path ∧ rest = spell left ∧
      components path = components root ++ innerComponents left := by
  have hbegin := leading_suffix (segments path)
  rw [components_eq path]
  unfold stripPrefix? at h
  split at h
  · rename_i hnil
    exact absurd hnil (components_ne_nil hroot)
  · rename_i c cs hcs
    rw [hcs]
    split at h
    · rename_i d front hleading
      rw [hleading] at hbegin ⊢
      split at h
      · rename_i heq
        subst heq
        obtain ⟨left, hleft, rfl⟩ := Option.map_eq_some_iff.1 h
        obtain ⟨hinner, hsuffix⟩ := stripInner?_eq_some hleft
        exact ⟨left, hsuffix.trans hbegin, rfl, congrArg (c :: ·) hinner⟩
      · cases h
    · rename_i front hleading
      rw [hleading] at hbegin ⊢
      obtain ⟨left, hleft, rfl⟩ := Option.map_eq_some_iff.1 h
      obtain ⟨hinner, hsuffix⟩ := stripInner?_eq_some hleft
      exact ⟨left, hsuffix.trans hbegin, rfl, hinner⟩

/-- **When a path lies below a root**: its components begin with those of the root. -/
theorem exists_stripPrefix?_iff {root path : Bytes} :
    (∃ rest, stripPrefix? root path = some rest) ↔ components root <+: components path := by
  by_cases hroot : root = []
  · subst hroot
    exact iff_of_true ⟨trimmed path, rfl⟩ List.nil_prefix
  constructor
  · rintro ⟨rest, h⟩
    obtain ⟨left, -, -, hcomponents⟩ := exists_left hroot h
    exact ⟨innerComponents left, hcomponents.symm⟩
  · intro h
    rw [components_eq path] at h
    unfold stripPrefix?
    split
    · exact ⟨_, rfl⟩
    · rename_i c cs hcs
      rw [hcs] at h
      split
      · rename_i d front hleading
        rw [hleading] at h
        obtain ⟨heq, hstart⟩ := List.cons_prefix_cons.1 h
        obtain ⟨left, hleft⟩ := exists_stripInner? hstart
        rw [if_pos heq, hleft]
        exact ⟨_, rfl⟩
      · rename_i front hleading
        rw [hleading] at h
        obtain ⟨left, hleft⟩ := exists_stripInner? h
        rw [hleft]
        exact ⟨_, rfl⟩

/-! ## 3. What is written out again -/

theorem innerComponents_dropWhile (segments : List Bytes) :
    innerComponents (segments.dropWhile isIdle) = innerComponents segments := by
  induction segments with
  | nil => rfl
  | cons segment rest ih =>
      cases hidle : isIdle segment with
      | true =>
          rw [List.dropWhile_cons_of_pos hidle, ih,
            innerComponents_cons_of_none (component?_eq_none_iff.2 hidle)]
      | false => rw [List.dropWhile_cons_of_neg (by simp [hidle])]

theorem innerComponents_trimEnd (segments : List Bytes) :
    innerComponents (trimEnd segments) = innerComponents segments := by
  have hreverse := innerComponents_dropWhile segments.reverse
  unfold innerComponents at hreverse ⊢
  rw [trimEnd, List.filterMap_reverse, hreverse, List.filterMap_reverse, List.reverse_reverse]

theorem prefix_trimEnd (segments : List Bytes) : trimEnd segments <+: segments := by
  have hsuffix := List.reverse_prefix.2 (List.dropWhile_suffix isIdle (l := segments.reverse))
  rwa [List.reverse_reverse] at hsuffix

section Written

variable {segments : List Bytes}

/-- Segments that are joined are cut apart again; without any there is one empty segment. -/
theorem innerComponents_segments_join (h : ∀ segment ∈ segments, slash ∉ segment) :
    innerComponents (Path.segments (join slash segments)) = innerComponents segments := by
  by_cases hne : segments = []
  · subst hne
    rfl
  · rw [Path.segments, cut_join slash hne h]

theorem innerComponents_segments_spell (h : ∀ segment ∈ segments, slash ∉ segment) :
    innerComponents (Path.segments (spell segments)) = innerComponents segments := by
  rw [spell, innerComponents_segments_join, innerComponents_trimEnd, innerComponents_dropWhile]
  intro segment hsegment
  exact h segment ((List.dropWhile_suffix isIdle).subset ((prefix_trimEnd _).subset hsegment))

/-- What is spelt out does not begin with a slash. -/
theorem isAbsolute_spell (h : ∀ segment ∈ segments, slash ∉ segment) :
    isAbsolute (spell segments) = false := by
  unfold spell
  cases hkept : trimEnd (segments.dropWhile isIdle) with
  | nil => rfl
  | cons first rest =>
      obtain ⟨more, hmore⟩ := prefix_trimEnd (segments.dropWhile isIdle)
      rw [hkept, List.cons_append] at hmore
      have hidle : isIdle first = false := by
        have hhead := List.head?_dropWhile_not isIdle segments
        rw [← hmore] at hhead
        exact hhead
      have hmem : first ∈ segments :=
        (List.dropWhile_suffix isIdle).subset (hmore ▸ List.mem_cons_self)
      obtain ⟨b, bytes, rfl⟩ := List.exists_cons_of_ne_nil (l := first) (by
        rintro rfl
        cases hidle)
      have hb : b ≠ slash := fun heq => h _ hmem (heq ▸ List.mem_cons_self)
      have hhead : (join slash ((b :: bytes) :: rest)).head? = some b := by
        cases rest <;> rfl
      rw [isAbsolute, hhead]
      simpa using hb

end Written

/-- A path that begins with a slash. -/
theorem components_absolute (tail : Bytes) :
    components (slash :: tail) = .root :: innerComponents (segments tail) :=
  components_child (List.cons_ne_nil slash []) tail

/-- A path that begins with `./`. -/
theorem components_here (tail : Bytes) :
    components (dot ++ slash :: tail) = .here :: innerComponents (segments tail) :=
  components_child (List.cons_ne_nil 0x2E []) tail

/-- A path that begins with a name, or with a step up. -/
theorem components_join {segment : Bytes} {rest : List Bytes} (hempty : segment ≠ [])
    (hdot : segment ≠ dot) (hslash : ∀ s ∈ segment :: rest, slash ∉ s) :
    components (join slash (segment :: rest)) = innerComponents (segment :: rest) := by
  have hcut : segments (join slash (segment :: rest)) = segment :: rest :=
    cut_join slash (List.cons_ne_nil segment rest) hslash
  rw [components_eq, hcut, leading_cons_of_ne_nil hempty, if_neg (by simpa using hdot)]
  rfl

/-- **A trimmed path** is the same path: a leading slash or `.` stays, and so do all components. -/
theorem components_trimmed (path : Bytes) : components (trimmed path) = components path := by
  obtain ⟨first, rest, hpath⟩ := List.exists_cons_of_ne_nil (cut_ne_nil (· == slash) path)
  have hpath : segments path = first :: rest := hpath
  have hslash : ∀ s ∈ first :: rest, slash ∉ s := fun s hs =>
    slash_not_mem_segments (hpath ▸ hs)
  have hwritten : innerComponents (segments (join slash (trimEnd rest))) = innerComponents rest := by
    rw [innerComponents_segments_join, innerComponents_trimEnd]
    exact fun s hs => hslash s (List.mem_cons_of_mem _ ((prefix_trimEnd rest).subset hs))
  rw [components_eq path, trimmed, hpath]
  by_cases hempty : first = []
  · subst hempty
    cases rest with
    | nil => rfl
    | cons next more => exact (components_absolute _).trans (congrArg (Component.root :: ·) hwritten)
  · rw [leading_cons_of_ne_nil hempty]
    by_cases hdot : first = dot
    · rw [if_pos (beq_iff_eq.2 hdot)]
      cases rest with
      | nil => rfl
      | cons next more =>
          dsimp only
          cases hkept : trimEnd (next :: more) with
          | nil =>
              rw [hkept] at hwritten
              exact congrArg (Component.here :: ·) hwritten
          | cons kept others =>
              rw [hkept] at hwritten
              exact (components_here _).trans (congrArg (Component.here :: ·) hwritten)
    · rw [if_neg (by simpa using hdot)]
      have hinner := innerComponents_trimEnd (first :: rest)
      have hstart := prefix_trimEnd (first :: rest)
      show components (join slash (trimEnd (first :: rest))) = innerComponents (first :: rest)
      cases hkept : trimEnd (first :: rest) with
      | nil =>
          rw [hkept] at hinner
          exact hinner
      | cons kept others =>
          rw [hkept] at hinner hstart
          obtain ⟨rfl, -⟩ := List.cons_prefix_cons.1 hstart
          rw [components_join hempty hdot fun s hs => hslash s (hstart.subset hs)]
          exact hinner

/-- **What is left below a root, joined to the root**, is the path again. -/
theorem components_joined {root path rest : Bytes} (h : stripPrefix? root path = some rest) :
    components (joined root rest) = components path := by
  by_cases hroot : root = []
  · subst hroot
    obtain rfl : trimmed path = rest := Option.some.inj h
    have hitself : joined [] (trimmed path) = trimmed path := by
      unfold joined child
      split <;> rfl
    rw [hitself, components_trimmed]
  · obtain ⟨left, hsuffix, rfl, hcomponents⟩ := exists_left hroot h
    have hslash : ∀ s ∈ left, slash ∉ s := fun s hs =>
      slash_not_mem_segments (hsuffix.subset hs)
    rw [joined, isAbsolute_spell hslash, if_neg Bool.false_ne_true, components_child hroot,
      innerComponents_segments_spell hslash, hcomponents]

end Path

/-! ## 4. Texts -/

namespace Bytes

/-- A byte string is a text if none of its pieces is ill-formed. -/
theorem isText_iff {bytes : Bytes} : IsText bytes ↔ ∀ piece ∈ decodePieces bytes, piece ≠ none := by
  constructor
  · rintro ⟨text, rfl⟩
    have hdecoded := decode?_utf8 text
    unfold decode? at hdecoded
    obtain ⟨cs, hcs, -⟩ := Option.map_eq_some_iff.1 hdecoded
    rw [mapM_id_eq_some hcs]
    intro piece hpiece
    obtain ⟨c, -, rfl⟩ := List.mem_map.1 hpiece
    exact Option.some_ne_none c
  · intro h
    have hpieces : decodePieces bytes = ((decodePieces bytes).map (·.getD '\uFFFD')).map some := by
      rw [List.map_map]
      refine (List.map_id _).symm.trans (List.map_congr_left fun piece hpiece => ?_)
      cases piece with
      | none => exact absurd rfl (h none hpiece)
      | some c => rfl
    refine ⟨lossy bytes, ?_⟩
    rw [utf8, lossy, String.toList_ofList]
    exact eq_encoding_of_pieces hpieces

theorem isText_append_slash {a b : Bytes} :
    IsText (a ++ Path.slash :: b) ↔ IsText a ∧ IsText b := by
  rw [isText_iff, isText_iff, isText_iff, decodePieces_append (by decide),
    decodePieces_ascii _ _ (by decide), List.forall_mem_append, List.forall_mem_cons]
  simp

/-- **A path is a text** if the stretches between its slashes are. -/
theorem isText_join {segments : List Bytes} :
    IsText (join Path.slash segments) ↔ ∀ segment ∈ segments, IsText segment := by
  induction segments with
  | nil => exact iff_of_true ⟨"", rfl⟩ nofun
  | cons segment segments ih =>
      by_cases hlast : segments = []
      · rw [hlast, join_singleton, List.forall_mem_singleton]
      · rw [join_cons _ _ hlast, isText_append_slash, ih, List.forall_mem_cons]

end Bytes

namespace Path

open Bytes (IsText isText_join isText_append_slash)

theorem isText_segments {path : Bytes} (hpath : IsText path) : ∀ segment ∈ segments path, IsText segment :=
  isText_join.1 (by rwa [segments, join_cut])

/-- What is trimmed from a text leaves a text. -/
theorem isText_trimmed {path : Bytes} (hpath : IsText path) : IsText (trimmed path) := by
  have hdot : IsText dot := ⟨".", by decide⟩
  have hkept : IsText (join slash (trimEnd (leading (segments path)).2)) :=
    isText_join.2 fun s hs =>
      isText_segments hpath s ((leading_suffix _).subset ((prefix_trimEnd _).subset hs))
  unfold trimmed
  split
  · rename_i h
    rw [h] at hkept
    exact isText_append_slash.2 ⟨⟨"", rfl⟩, hkept⟩
  · exact hdot
  · rename_i h
    rw [h] at hkept
    split
    · exact hdot
    · exact isText_append_slash.2 ⟨hdot, hkept⟩
  · rename_i h
    rw [h] at hkept
    exact hkept

/-- What is left of a text is a text. -/
theorem isText_of_stripPrefix? {root path rest : Bytes} (hpath : IsText path)
    (h : stripPrefix? root path = some rest) : IsText rest := by
  by_cases hroot : root = []
  · subst hroot
    obtain rfl : trimmed path = rest := Option.some.inj h
    exact isText_trimmed hpath
  · obtain ⟨left, hsuffix, rfl, -⟩ := exists_left hroot h
    refine isText_join.2 fun s hs => isText_segments hpath s (hsuffix.subset ?_)
    exact (List.dropWhile_suffix isIdle).subset ((prefix_trimEnd _).subset hs)

end Path

/-! ## 5. Ids -/

namespace TestCase

open GoldenRun.Path (components joined)

/-- The id of a case below the root leads from the root to its input. -/
theorem same_joined_id {root : Bytes} {text : String}
    (h : components root <+: components (utf8 text)) :
    Path.same (joined root (utf8 (idBelow root (utf8 text)))) (utf8 text) = true := by
  obtain ⟨rest, hrest⟩ := Path.exists_stripPrefix?_iff.2 h
  obtain ⟨left, rfl⟩ := Path.isText_of_stripPrefix? ⟨text, rfl⟩ hrest
  rw [idBelow, hrest, Option.getD_some, Bytes.lossy_utf8, Path.same, Path.components_joined hrest]
  exact beq_self_eq_true _

/-- **An id leads back to its file.** For every root and every path that is a text:

    * if the path lies below the root, its id joined to the root is the same path;
    * so two paths below the root that have the same id are the same path;
    * if the path does not lie below the root, it is its own id. -/
theorem id_leads_back (root : Bytes) :
    (∀ text : String, components root <+: components (utf8 text) →
      Path.same (joined root (utf8 (below root (utf8 text)).id)) (below root (utf8 text)).input = true) ∧
    (∀ a b : String, components root <+: components (utf8 a) → components root <+: components (utf8 b) →
      (below root (utf8 a)).id = (below root (utf8 b)).id →
        Path.same (below root (utf8 a)).input (below root (utf8 b)).input = true) ∧
    (∀ text : String, ¬ components root <+: components (utf8 text) →
      (below root (utf8 text)).id = text) := by
  refine ⟨fun _ h => same_joined_id h, ?_, ?_⟩
  · intro a b ha hb hsame
    have hsame : idBelow root (utf8 a) = idBelow root (utf8 b) := hsame
    have hleadA := same_joined_id ha
    have hleadB := same_joined_id hb
    rw [hsame] at hleadA
    rw [Path.same, beq_iff_eq] at hleadA hleadB
    rw [Path.same, beq_iff_eq]
    exact hleadA.symm.trans hleadB
  · intro text h
    have hnone : Path.stripPrefix? root (utf8 text) = none := by
      cases hstrip : Path.stripPrefix? root (utf8 text) with
      | none => rfl
      | some rest => exact absurd (Path.exists_stripPrefix?_iff.1 ⟨rest, hstrip⟩) h
    rw [below_id, idBelow, hnone, Option.getD_none, Bytes.lossy_utf8]

theorem id_leads_back_untidy :
    let root := utf8 "./t//"
    let a := utf8 "./t/.//a/../b/."
    let b := utf8 "././t/a/../b//"
    components root <+: components a ∧ components root <+: components b ∧
      (below root a).id = (below root b).id ∧
      Path.same (joined root (utf8 (below root a).id)) (below root a).input = true ∧
      Path.same (below root a).input (below root b).input = true ∧
      ¬ components (utf8 "tes") <+: components (utf8 "tests/a") ∧
      (below (utf8 "tes") (utf8 "tests/a")).id = "tests/a" := by
  intro root a b
  have ha : components root <+: components a := by decide +kernel
  have hb : components root <+: components b := by decide +kernel
  have hid : (below root a).id = (below root b).id := by decide +kernel
  have hapart : ¬ components (utf8 "tes") <+: components (utf8 "tests/a") := by decide +kernel
  obtain ⟨hleads, hsame, -⟩ := id_leads_back root
  exact ⟨ha, hb, hid, hleads _ ha, hsame _ _ ha hb hid, hapart, (id_leads_back (utf8 "tes")).2.2 _ hapart⟩

end TestCase

end GoldenRun
