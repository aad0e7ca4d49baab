import GoldenRun.Files.Node
import GoldenRun.Path

/-!
# Well-formed nodes

In a file system no directory holds two entries of one name, and no entry is called `.` or `..` or has a
slash in its name. Both hold of a node and of everything below it.

* `Node.WellFormed`: names are proper and distinct. It can be decided.
* `Node.Assignable`: what may be put where.

Main statement: `Node.WellFormed.assign`, what may be put there leaves a well-formed node behind.
-/

namespace GoldenRun.Node

/-! ## 1. Names -/

mutual

/-- No directory at or below the node holds two entries of one name. -/
def Distinct : Node → Prop
  | .dir _ es => (es.map Prod.fst).Nodup ∧ DistinctEntries es
  | _ => True

/-- The nodes of all entries are `Distinct`. -/
def DistinctEntries : List (Bytes × Node) → Prop
  | [] => True
  | (_, node) :: es => Distinct node ∧ DistinctEntries es

end

mutual

/-- Every entry of a directory at or below the node has a proper name. -/
def Named : Node → Prop
  | .dir _ es => NamedEntries es
  | _ => True

/-- The entries have proper names, and so has everything below them. -/
def NamedEntries : List (Bytes × Node) → Prop
  | [] => True
  | (name, node) :: es => Path.IsName name ∧ Named node ∧ NamedEntries es

end

/-- Names are proper, and those of one directory are distinct. -/
structure WellFormed (node : Node) : Prop where
  distinct : node.Distinct
  named : node.Named

/-! ## 2. Decision -/

mutual

/-- `Distinct` is decided along the tree. -/
instance decidableDistinct : (node : Node) → Decidable node.Distinct
  | .dir _ es =>
    have := decidableDistinctEntries es
    inferInstanceAs (Decidable (_ ∧ _))
  | .file _ _ | .link _ | .pipe | .device _ => isTrue trivial

instance decidableDistinctEntries : (es : List (Bytes × Node)) → Decidable (DistinctEntries es)
  | [] => isTrue trivial
  | (_, node) :: es =>
    have := decidableDistinct node
    have := decidableDistinctEntries es
    inferInstanceAs (Decidable (_ ∧ _))

end

mutual

/-- `Named` is decided along the tree. -/
instance decidableNamed : (node : Node) → Decidable node.Named
  | .dir _ es => decidableNamedEntries es
  | .file _ _ | .link _ | .pipe | .device _ => isTrue trivial

instance decidableNamedEntries : (es : List (Bytes × Node)) → Decidable (NamedEntries es)
  | [] => isTrue trivial
  | (_, node) :: es =>
    have := decidableNamed node
    have := decidableNamedEntries es
    inferInstanceAs (Decidable (_ ∧ _ ∧ _))

end

instance (node : Node) : Decidable node.WellFormed :=
  decidable_of_iff (node.Distinct ∧ node.Named) ⟨fun h => ⟨h.1, h.2⟩, fun h => ⟨h.distinct, h.named⟩⟩

/-! ## 3. Entries -/

section Entries

variable {es : List (Bytes × Node)} {name : Bytes} {node : Node} {new : Option Node}

theorem mem_of_lookup (h : es.lookup name = some node) : (name, node) ∈ es := by
  obtain ⟨front, back, rfl, -⟩ := List.lookup_eq_some_iff.1 h
  exact List.mem_append_right _ List.mem_cons_self

theorem distinctEntries_iff : DistinctEntries es ↔ ∀ e ∈ es, e.2.Distinct := by
  induction es with
  | nil => simp [DistinctEntries]
  | cons e es ih =>
      obtain ⟨n, child⟩ := e
      rw [DistinctEntries, ih, List.forall_mem_cons]

theorem namedEntries_iff : NamedEntries es ↔ ∀ e ∈ es, Path.IsName e.1 ∧ e.2.Named := by
  induction es with
  | nil => simp [NamedEntries]
  | cons e es ih =>
      obtain ⟨n, child⟩ := e
      rw [NamedEntries, ih, List.forall_mem_cons, and_assoc]

theorem distinct_of_mem (hes : DistinctEntries es) (h : (name, node) ∈ es) : node.Distinct :=
  distinctEntries_iff.1 hes (name, node) h

theorem named_of_mem (hes : NamedEntries es) (h : (name, node) ∈ es) :
    Path.IsName name ∧ node.Named :=
  namedEntries_iff.1 hes (name, node) h

/-- An entry afterwards is the one assigned or was there before. -/
theorem mem_of_mem_assignEntry {e : Bytes × Node} (h : e ∈ assignEntry es name new) :
    e ∈ es ∨ e.1 = name ∧ new = some e.2 := by
  cases new with
  | none => exact Or.inl (List.mem_filter.1 h).1
  | some node =>
      rw [assignEntry] at h
      split at h
      · obtain ⟨old, hold, rfl⟩ := List.mem_map.1 h
        by_cases hname : (old.1 == name) = true
        · rw [if_pos hname]
          exact Or.inr ⟨rfl, rfl⟩
        · rw [if_neg hname]
          exact Or.inl hold
      · rcases List.mem_append.1 h with h | h
        · exact Or.inl h
        · rw [List.mem_singleton.1 h]
          exact Or.inr ⟨rfl, rfl⟩

/-- No name comes twice. -/
theorem nodup_assignEntry (h : (es.map Prod.fst).Nodup) :
    ((assignEntry es name new).map Prod.fst).Nodup := by
  cases new with
  | none => exact h.sublist (List.filter_sublist.map Prod.fst)
  | some node =>
      rw [assignEntry]
      split
      · have hsame : ∀ e ∈ es, (if e.1 == name then (name, node) else e).1 = e.1 := by
          intro e _
          by_cases hname : (e.1 == name) = true
          · rw [if_pos hname]
            exact (eq_of_beq hname).symm
          · rw [if_neg hname]
        rw [List.map_map]
        exact (List.map_congr_left hsame).symm ▸ h
      · rename_i hfresh
        rw [List.map_append, List.nodup_append]
        refine ⟨h, by simp, ?_⟩
        intro a ha b hb hab
        obtain ⟨e, he, rfl⟩ := List.mem_map.1 ha
        rw [List.map_singleton, List.mem_singleton] at hb
        refine hfresh (List.any_eq_true.2 ⟨e, he, ?_⟩)
        rw [beq_iff_eq, hab, hb]

end Entries

/-! ## 4. One location -/

/-- A property of nodes that entries take from their directory, and that survives a change of one entry
    to a node with it, survives a change at a location. -/
theorem assign_induction {P : Node → Prop} {location : Location}
    (below : ∀ attributes es name child, P (.dir attributes es) → (name, child) ∈ es → P child)
    (change : ∀ attributes es new, ∀ name ∈ location, P (.dir attributes es) →
      (∀ node, new = some node → P node) → P (.dir attributes (assignEntry es name new)))
    {node : Node} {new : Option Node} (hnode : P node) (hnew : ∀ node, new = some node → P node) :
    P (node.assign new location) := by
  induction location generalizing node with
  | nil =>
      unfold assign
      cases new with
      | none => exact hnode
      | some new => exact hnew new rfl
  | cons name rest ih =>
      unfold assign
      have hhere := fun attributes es new => change attributes es new name List.mem_cons_self
      split
      · rename_i attributes es
        split
        · exact hhere attributes es new hnode hnew
        · split
          · rename_i child hlookup
            have hchild : P child := below attributes es name child hnode (mem_of_lookup hlookup)
            have hinner := ih (fun attributes es new n hn =>
              change attributes es new n (List.mem_cons_of_mem _ hn)) hchild
            refine hhere attributes es _ hnode fun node heq => ?_
            exact Option.some.inj heq ▸ hinner
          · exact hnode
      · exact hnode

theorem Distinct.assign {node : Node} (hnode : node.Distinct) {new : Option Node}
    (hnew : ∀ node, new = some node → node.Distinct) (location : Location) :
    (node.assign new location).Distinct := by
  refine assign_induction (P := Distinct) (fun _ _ _ _ hdir hmem => distinct_of_mem hdir.2 hmem) ?_
    hnode hnew
  intro attributes es new name _ hdir hnew
  refine ⟨nodup_assignEntry hdir.1, distinctEntries_iff.2 fun e he => ?_⟩
  rcases mem_of_mem_assignEntry he with hold | ⟨-, hnode⟩
  · exact distinctEntries_iff.1 hdir.2 e hold
  · exact hnew e.2 hnode

theorem Named.assign {node : Node} (hnode : node.Named) {new : Option Node}
    (hnew : ∀ node, new = some node → node.Named) {location : Location}
    (hlocation : ∀ name ∈ location, Path.IsName name) : (node.assign new location).Named := by
  refine assign_induction (P := Named) (fun _ _ _ _ hdir hmem => (named_of_mem hdir hmem).2) ?_
    hnode hnew
  intro attributes es new name hname hdir hnew
  refine namedEntries_iff.2 fun e he => ?_
  rcases mem_of_mem_assignEntry he with hold | ⟨heq, hnode⟩
  · exact namedEntries_iff.1 hdir e hold
  · exact ⟨heq ▸ hlocation name hname, hnew e.2 hnode⟩

/-! ## 5. What may be put where -/

/-- The names of the location are proper, and what is to be put there is well-formed. -/
def Assignable (location : Location) (new : Option Node) : Prop :=
  (∀ name ∈ location, Path.IsName name) ∧ ∀ node ∈ new, node.WellFormed

instance (location : Location) (new : Option Node) : Decidable (Assignable location new) :=
  inferInstanceAs (Decidable (_ ∧ _))

/-- **What may be put there** leaves a well-formed node behind. -/
theorem WellFormed.assign {node : Node} (h : node.WellFormed) {location : Location} {new : Option Node}
    (hnew : Assignable location new) : (node.assign new location).WellFormed where
  distinct := h.distinct.assign (fun node heq => (hnew.2 node heq).distinct) location
  named := h.named.assign (fun node heq => (hnew.2 node heq).named) hnew.1

/-- Taking away is no matter of what is put there. -/
theorem assignable_none {location : Location} (h : ∀ name ∈ location, Path.IsName name) :
    Assignable location none :=
  ⟨h, fun _ heq => nomatch heq⟩

theorem assignable_some {location : Location} {node : Node} (h : ∀ name ∈ location, Path.IsName name)
    (hnode : node.WellFormed) : Assignable location (some node) :=
  ⟨h, fun _ heq => Option.some.inj heq ▸ hnode⟩

/-- A file has nothing in it that could be misnamed. -/
theorem wellFormed_file (attributes : Attributes) (content : Bytes) :
    (Node.file attributes content).WellFormed :=
  ⟨trivial, trivial⟩

end GoldenRun.Node
