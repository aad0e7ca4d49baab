import GoldenRun.Proofs.Files.Resolution

/-!
# Changes are carried out

A file tree takes nothing in that would not leave it well-formed. Files are written, created and removed
under paths, and a path leads to a location of proper names, so of such changes none is left out.

* `FileTree.isName_of_locate`: the location of a path has proper names only.

Main statements: `root_create`, `root_remove`, `root_write`.
-/

namespace GoldenRun

namespace FileTree

/-! ## 1. Locations of paths -/

/-- Moves lead over proper names, and what is no entry could be one. -/
theorem isName_of_move (es : List (Bytes × Node)) {here : Location} {segment : Bytes}
    (hhere : ∀ name ∈ here, Path.IsName name) (hsegment : Path.slash ∉ segment) :
    (∀ next, move es here segment = .step next → ∀ name ∈ next, Path.IsName name) ∧
      ((∃ target, move es here segment = .through target) ∨ move es here segment = .missing →
        ∀ name ∈ here ++ [segment], Path.IsName name) := by
  unfold move
  by_cases hidle : Path.isIdle segment = true
  · rw [if_pos hidle]
    refine ⟨?_, by simp⟩
    rintro _ ⟨⟩
    exact hhere
  · rw [if_neg hidle]
    by_cases hdots : (segment == Path.dotDot) = true
    · rw [if_pos hdots]
      refine ⟨?_, by simp⟩
      rintro _ ⟨⟩ name hname
      exact hhere name ((List.dropLast_prefix here).subset hname)
    · rw [if_neg hdots]
      have hname : Path.IsName segment :=
        ⟨Bool.eq_false_iff.2 hidle, fun heq => hdots (beq_iff_eq.2 heq), hsegment⟩
      have hchild : ∀ name ∈ here ++ [segment], Path.IsName name := by
        intro name hmem
        rcases List.mem_append.1 hmem with hmem | hmem
        · exact hhere name hmem
        · exact List.mem_singleton.1 hmem ▸ hname
      refine ⟨?_, fun _ => hchild⟩
      intro next hmove
      unfold nameMove at hmove
      split at hmove
      · cases hmove
      · split at hmove <;> cases hmove
        exact hchild

/-- What is resolved from a directory over slash-free segments is a location of proper names, if that
    holds behind links. -/
theorem isName_of_behind {root : Node} (hroot : root.Named) {followLast : Bool} (links : Nat)
    {location : Location}
    (hbehind : ∀ start segments, segments ≠ [] → (∀ segment ∈ segments, Path.slash ∉ segment) →
      behind root followLast links start segments = .ok location →
        ∀ name ∈ location, Path.IsName name)
    {here : Location} {segments : List Bytes} (hne : segments ≠ [])
    (hsegments : ∀ segment ∈ segments, Path.slash ∉ segment)
    (h : resolve root followLast links here segments = .ok location) :
    ∀ name ∈ location, Path.IsName name := by
  induction segments generalizing here with
  | nil => exact absurd rfl hne
  | cons segment rest ih =>
      obtain ⟨attributes, es, hdir⟩ := exists_dir_of_resolve h
      have hhere : ∀ name ∈ here, Path.IsName name := hroot.isName_of_at? ⟨_, hdir⟩
      have hrest : ∀ s ∈ rest, Path.slash ∉ s := fun s hs => hsegments s (List.mem_cons_of_mem _ hs)
      have hmoved := isName_of_move es hhere (hsegments segment List.mem_cons_self)
      rw [resolve_cons hdir] at h
      cases hmove : move es here segment with
      | step next =>
          rw [hmove, advance] at h
          have hnext := hmoved.1 next hmove
          by_cases hlast : rest = []
          · rw [hlast, resolve_nil, Except.ok.injEq] at h
            exact h ▸ hnext
          · exact ih hlast hrest h
      | through target =>
          have hname := hmoved.2 (Or.inl ⟨target, hmove⟩)
          rw [hmove, advance] at h
          split at h
          · cases h
            exact hname
          · refine hbehind _ _ (by simp [Path.segments, cut_ne_nil]) ?_ h
            intro s hs
            rcases List.mem_append.1 hs with hs | hs
            · exact Path.slash_not_mem_segments hs
            · exact hrest s hs
      | missing =>
          have hname := hmoved.2 (Or.inr hmove)
          rw [hmove, advance] at h
          split at h
          · cases h
            exact hname
          · cases h
      | refused error =>
          rw [hmove] at h
          cases h

theorem isName_of_resolve {root : Node} (hroot : root.Named) {followLast : Bool} (links : Nat)
    {here location : Location} {segments : List Bytes} (hne : segments ≠ [])
    (hsegments : ∀ segment ∈ segments, Path.slash ∉ segment)
    (h : resolve root followLast links here segments = .ok location) :
    ∀ name ∈ location, Path.IsName name := by
  induction links generalizing here segments with
  | zero =>
      refine isName_of_behind hroot 0 (fun start segments _ _ h => ?_) hne hsegments h
      cases h
  | succ links ih =>
      exact isName_of_behind hroot (links + 1) (fun _ _ hne hs h => ih hne hs h) hne hsegments h

/-- **Locations.** The location of a path has proper names only. -/
theorem isName_of_locate {tree : FileTree} {followLast : Bool} {path : Bytes} {location : Location}
    (h : tree.locate followLast path = .ok location) : ∀ name ∈ location, Path.IsName name := by
  rw [locate_eq (admissible_of_locate h)] at h
  exact isName_of_resolve tree.wellFormed.named maxLinks (cut_ne_nil _ path)
    (fun _ hs => Path.slash_not_mem_segments hs) h

/-- The same of a file to be written. -/
theorem isName_of_locateFile {tree : FileTree} {path : Bytes} {location : Location}
    (h : tree.locateFile path = .ok location) : ∀ name ∈ location, Path.IsName name := by
  unfold locateFile at h
  dsimp only at h
  split at h
  · split at h <;> cases h
  · exact isName_of_locate h

/-! ## 2. Changes -/

section Changes

variable {tree changed : FileTree} {path : Bytes}

/-- **A node is created** where the path leads, if it is well-formed. -/
theorem root_create {node : Node} (hnode : node.WellFormed) (h : tree.create path node = .ok changed) :
    ∃ location, tree.locate false path = .ok location ∧ tree.at? location = none ∧
      changed.root = tree.root.assign (some node) location := by
  unfold create at h
  split at h
  · cases h
  · rename_i location hlocate
    split at h
    · rename_i hnone
      cases h
      exact ⟨location, hlocate, hnone,
        tree.root_assign (Node.assignable_some (isName_of_locate hlocate) hnode)⟩
    · cases h

/-- **A node is taken away** from where the path leads. -/
theorem root_remove (h : tree.remove path = .ok changed) :
    ∃ location, tree.locate false path = .ok location ∧ (tree.at? location).isSome ∧
      changed.root = tree.root.assign none location := by
  unfold remove at h
  split at h
  · cases h
  · rename_i location hlocate
    split at h
    · rename_i hsome
      cases h
      exact ⟨location, hlocate, by rw [hsome]; rfl,
        tree.root_assign (Node.assignable_none (isName_of_locate hlocate))⟩
    · cases h

/-- **A file is written** where the path leads, unless a device takes what is written. -/
theorem root_write {content : Bytes} (h : tree.write path content = .ok changed) :
    changed = tree ∨ ∃ location attributes, tree.locateFile path = .ok location ∧
      changed.root = tree.root.assign (some (.file attributes content)) location := by
  unfold write at h
  split at h
  · cases h
  · rename_i location hlocate
    have hassign := fun attributes => tree.root_assign (Node.assignable_some
      (isName_of_locateFile hlocate) (Node.wellFormed_file attributes content))
    unfold writeAt at h
    split at h
    case h_1 =>
      cases h
      exact .inr ⟨location, _, hlocate, hassign _⟩
    case h_2 =>
      split at h
      · cases h
        exact .inr ⟨location, _, hlocate, hassign _⟩
      · cases h
    case h_4 | h_5 =>
      cases h
      exact .inl rfl
    all_goals cases h

end Changes

end FileTree

end GoldenRun
