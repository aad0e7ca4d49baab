import GoldenRun.Files.Tree
import GoldenRun.Proofs.Files.Below

/-!
# Below a well-formed node

Where names are distinct an entry is what is found under its name, and what a directory hands on to its
entries holds at every location below it.

* `lookup_of_mem`, `at?_concat`: going down by one name;
* `Distinct.at?`, `Named.at?`: names are distinct and proper at every location;
* `Named.isName_of_at?`: only proper names lead to nodes.
-/

namespace GoldenRun

namespace Node

/-! ## 1. Entries by name -/

section Entries

variable {es : List (Bytes × Node)} {name : Bytes} {node : Node}

/-- Where names are distinct, every entry is found under its name. -/
theorem lookup_of_mem (hes : (es.map Prod.fst).Nodup) (h : (name, node) ∈ es) :
    es.lookup name = some node := by
  obtain ⟨front, back, rfl⟩ := List.append_of_mem h
  rw [List.map_append, List.map_cons, List.nodup_append] at hes
  refine List.lookup_eq_some_iff.2 ⟨front, back, rfl, ?_⟩
  intro e he
  have hne : e.1 ≠ name := hes.2.2 e.1 (List.mem_map_of_mem he) name List.mem_cons_self
  simpa using hne.symm

/-- Going down by one name. -/
theorem at?_cons_of_lookup {attributes : Attributes} (h : es.lookup name = some node)
    (rest : Location) : (Node.dir attributes es).at? (name :: rest) = node.at? rest := by
  rw [at?_cons]
  exact congrArg (Option.bind · (·.at? rest)) h

/-- Going on by one name from a directory further down. -/
theorem at?_concat {attributes : Attributes} {location : Location}
    (h : node.at? location = some (.dir attributes es)) :
    node.at? (location ++ [name]) = es.lookup name := by
  rw [at?_append, h, Option.bind_some, at?_cons]
  exact Option.bind_fun_some (es.lookup name)

end Entries

/-! ## 2. Below a node -/

/-- A property that directories hand on to their entries holds at every location. -/
theorem at?_induction {P : Node → Prop}
    (step : ∀ attributes es name child, P (.dir attributes es) → (name, child) ∈ es → P child)
    {node found : Node} {location : Location} (hnode : P node) (h : node.at? location = some found) :
    P found := by
  induction location generalizing node with
  | nil =>
      rw [at?_nil, Option.some.injEq] at h
      exact h ▸ hnode
  | cons name rest ih =>
      rw [at?_cons] at h
      obtain ⟨child, hchild, hrest⟩ := Option.bind_eq_some_iff.1 h
      cases node with
      | dir attributes es => exact ih (step attributes es name child hnode (mem_of_lookup hchild)) hrest
      | _ => cases hchild

theorem Distinct.at? {node found : Node} (hnode : node.Distinct) {location : Location}
    (h : node.at? location = some found) : found.Distinct :=
  at?_induction (P := Distinct) (fun _ _ _ _ hdir hmem => distinct_of_mem hdir.2 hmem) hnode h

theorem Named.at? {node found : Node} (hnode : node.Named) {location : Location}
    (h : node.at? location = some found) : found.Named :=
  at?_induction (P := Named) (fun _ _ _ _ hdir hmem => (named_of_mem hdir hmem).2) hnode h

/-- Proper names are all that leads to nodes. -/
theorem Named.isName_of_at? {node : Node} (hnode : node.Named) {location : Location}
    (h : ∃ found, node.at? location = some found) : ∀ name ∈ location, Path.IsName name := by
  induction location generalizing node with
  | nil => simp
  | cons name rest ih =>
      obtain ⟨found, h⟩ := h
      rw [at?_cons] at h
      obtain ⟨child, hchild, hrest⟩ := Option.bind_eq_some_iff.1 h
      cases node with
      | dir attributes es =>
          have hentry := named_of_mem hnode (mem_of_lookup hchild)
          exact List.forall_mem_cons.2 ⟨hentry.1, ih hentry.2 ⟨found, hrest⟩⟩
      | _ => cases hchild

end Node

end GoldenRun
