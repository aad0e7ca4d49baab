import GoldenRun.Proofs.Files.WellFormed

/-!
# What a change at a location leaves alone

A directory changes when something below it does, but only in its entries. So what is seen at a location
is the *face* of the node there: the node without its entries. A node without entries that is put in the
place of another such node, or of nothing, changes the face at its own location and at no other.

* `Node.face`, `Node.face?`: the face of a node, and of the node at a location;
* `Node.Bare`: a node without entries.

Main statements: `face?_assign`, the one face that changes; `assign_self`, putting a node where it already
is changes nothing at all.
-/

namespace GoldenRun.Node

/-! ## 1. Faces -/

/-- The node without its entries. -/
def face : Node → Node
  | .dir attributes _ => .dir attributes []
  | node => node

/-- The face of the node at a location. -/
def face? (node : Node) (location : Location) : Option Node :=
  (node.at? location).map face

/-- Nothing is below the node. -/
def Bare (node : Node) : Prop :=
  node.entries = []

theorem face_eq_dir {node : Node} {attributes : Attributes} {es : List (Bytes × Node)}
    (h : node.face = .dir attributes es) : ∃ inner, node = .dir attributes inner := by
  cases node with
  | dir other inner => cases h; exact ⟨inner, rfl⟩
  | _ => cases h

theorem face_eq_file {node : Node} {attributes : Attributes} {content : Bytes} :
    node.face = .file attributes content ↔ node = .file attributes content := by
  cases node <;> simp [face]

@[simp] theorem entry?_dir (attributes : Attributes) (es : List (Bytes × Node)) (name : Bytes) :
    Node.entry? (.dir attributes es) name = es.lookup name := rfl

@[simp] theorem face?_nil (node : Node) : node.face? [] = some node.face := rfl

theorem face?_cons (node : Node) (name : Bytes) (rest : Location) :
    node.face? (name :: rest) = (node.entry? name).bind (·.face? rest) := by
  rw [face?, at?_cons]
  cases node.entry? name <;> rfl

theorem face?_append (node : Node) (a b : Location) :
    node.face? (a ++ b) = (node.at? a).bind (·.face? b) := by
  rw [face?, at?_append]
  cases node.at? a <;> rfl

theorem face?_eq_file {node : Node} {location : Location} {attributes : Attributes} {content : Bytes} :
    node.face? location = some (.file attributes content) ↔
      node.at? location = some (.file attributes content) := by
  unfold face?
  cases node.at? location with
  | none => simp
  | some found => rw [Option.map_some, Option.some.injEq, Option.some.injEq, face_eq_file]

theorem face?_eq_dir {node : Node} {location : Location} {attributes : Attributes} :
    node.face? location = some (.dir attributes []) ↔
      ∃ es, node.at? location = some (.dir attributes es) := by
  unfold face?
  cases node.at? location with
  | none => simp
  | some found =>
      constructor
      · intro h
        obtain ⟨es, rfl⟩ := face_eq_dir (Option.some.inj h)
        exact ⟨es, rfl⟩
      · rintro ⟨es, h⟩
        cases h
        rfl

/-- Below a bare node there is nothing. -/
theorem Bare.face?_cons {node : Node} (h : node.Bare) (name : Bytes) (rest : Location) :
    node.face? (name :: rest) = none := by
  rw [Node.face?_cons, entry?, h]
  rfl

/-! ## 2. One entry -/

section Entry

variable {es : List (Bytes × Node)} {name : Bytes}

theorem lookup_eq_none_of_not_any (h : ¬ es.any (·.1 == name) = true) : es.lookup name = none := by
  rw [List.lookup_eq_none_iff]
  intro e he
  rw [bne_iff_ne]
  rintro rfl
  exact h (List.any_eq_true.mpr ⟨e, he, beq_self_eq_true e.1⟩)

/-- Where the entries of one name are replaced, the others stay. -/
theorem lookup_replace_of_ne {other : Bytes} (h : other ≠ name) (new : Node)
    (es : List (Bytes × Node)) :
    (es.map fun e => if e.1 == name then (name, new) else e).lookup other = es.lookup other := by
  induction es with
  | nil => rfl
  | cons e es ih =>
      obtain ⟨key, child⟩ := e
      rw [List.map_cons]
      by_cases hkey : (key == name) = true
      · have hname : (other == name) = false := beq_eq_false_iff_ne.mpr h
        rw [if_pos hkey, List.lookup_cons, List.lookup_cons, eq_of_beq hkey, hname]
        exact ih
      · rw [if_neg hkey, List.lookup_cons, List.lookup_cons, ih]

theorem lookup_replace_self (new : Node) {es : List (Bytes × Node)}
    (h : es.any (·.1 == name) = true) :
    (es.map fun e => if e.1 == name then (name, new) else e).lookup name = some new := by
  induction es with
  | nil => cases h
  | cons e es ih =>
      obtain ⟨key, child⟩ := e
      rw [List.map_cons]
      by_cases hkey : (key == name) = true
      · rw [if_pos hkey, List.lookup_cons, beq_self_eq_true]
      · have hname : (name == key) = false := by
          rw [beq_eq_false_iff_ne]
          rintro rfl
          exact hkey (beq_self_eq_true _)
        rw [List.any_cons, Bool.eq_false_iff.mpr hkey, Bool.false_or] at h
        rw [if_neg hkey, List.lookup_cons, hname]
        exact ih h

/-- **One entry assigned**: it is found under its name, and the others under theirs. -/
theorem lookup_assignEntry (es : List (Bytes × Node)) (name : Bytes) (new : Node) (other : Bytes) :
    (assignEntry es name (some new)).lookup other =
      if other = name then some new else es.lookup other := by
  rw [assignEntry]
  by_cases hother : other = name
  · subst hother
    rw [if_pos rfl]
    split
    · rename_i hany
      exact lookup_replace_self new hany
    · rename_i hany
      rw [List.lookup_append, lookup_eq_none_of_not_any hany, Option.none_or, List.lookup_cons,
        beq_self_eq_true]
  · rw [if_neg hother]
    split
    · exact lookup_replace_of_ne hother new es
    · have hname : (other == name) = false := beq_eq_false_iff_ne.mpr hother
      rw [List.lookup_append, List.lookup_cons, hname, List.lookup_nil, Option.or_none]

/-- An entry that is there already is assigned to no effect. -/
theorem assignEntry_self {node : Node} (hes : (es.map Prod.fst).Nodup)
    (h : es.lookup name = some node) : assignEntry es name (some node) = es := by
  have hany : es.any (·.1 == name) = true :=
    List.any_eq_true.mpr ⟨_, mem_of_lookup h, beq_self_eq_true name⟩
  have hsame : ∀ e ∈ es, (if e.1 == name then (name, node) else e) = e := by
    intro e he
    by_cases hkey : (e.1 == name) = true
    · have hlookup := lookup_of_mem hes he
      rw [eq_of_beq hkey, h, Option.some.injEq] at hlookup
      rw [if_pos hkey, hlookup, ← eq_of_beq hkey]
    · rw [if_neg hkey]
  rw [assignEntry, if_pos hany, List.map_congr_left hsame, List.map_id']

end Entry

/-! ## 3. One location -/

/-- Further down, a change is a change of one entry. -/
theorem assign_cons {attributes : Attributes} {es : List (Bytes × Node)} {name : Bytes} {child : Node}
    (h : es.lookup name = some child) {rest : Location} (hrest : rest ≠ []) (new : Option Node) :
    (Node.dir attributes es).assign new (name :: rest) =
      .dir attributes (assignEntry es name (some (child.assign new rest))) := by
  rw [assign, if_neg (by simp [hrest])]
  simp only [h]

/-- **One face changes.** A bare node is put in the place of a bare node or of nothing, in a directory:
    its face is seen there, and all other faces are as before. -/
theorem face?_assign {new : Node} (hnew : new.Bare) {node : Node} {front : Location} {name : Bytes}
    (hparent : ∃ attributes es, node.at? front = some (.dir attributes es))
    (hold : ∀ old, node.at? (front ++ [name]) = some old → old.Bare) (location : Location) :
    (node.assign (some new) (front ++ [name])).face? location =
      if location = front ++ [name] then some new.face else node.face? location := by
  induction front generalizing node location with
  | nil =>
      obtain ⟨attributes, es, hnode⟩ := hparent
      obtain rfl : node = .dir attributes es := Option.some.inj hnode
      rw [List.nil_append, assign, List.isEmpty_nil, if_pos rfl]
      cases location with
      | nil => rfl
      | cons first rest =>
          rw [face?_cons, face?_cons, entry?_dir, entry?_dir, lookup_assignEntry]
          by_cases hfirst : first = name
          · subst hfirst
            rw [if_pos rfl, Option.bind_some]
            cases rest with
            | nil => rw [if_pos rfl, face?_nil]
            | cons second rest =>
                rw [hnew.face?_cons, if_neg (by simp)]
                symm
                rw [Option.bind_eq_none_iff]
                intro old hlookup
                have hat : (Node.dir attributes es).at? [first] = some old :=
                  at?_cons_of_lookup hlookup []
                exact (hold old hat).face?_cons second rest
          · rw [if_neg hfirst, if_neg (by simp [hfirst])]
  | cons step front ih =>
      obtain ⟨attributes, es, hdir⟩ := hparent
      rw [at?_cons] at hdir
      obtain ⟨child, hchild, hinner⟩ := Option.bind_eq_some_iff.mp hdir
      cases node with
      | dir outer entries =>
          have hlookup : entries.lookup step = some child := hchild
          have hbelow : ∀ old, child.at? (front ++ [name]) = some old → old.Bare := by
            intro old hat
            refine hold old ?_
            rw [List.cons_append, at?_cons_of_lookup hlookup, hat]
          have hdeep := ih ⟨attributes, es, hinner⟩ hbelow
          rw [List.cons_append, assign_cons hlookup (by simp)]
          cases location with
          | nil => rfl
          | cons first rest =>
              rw [face?_cons, face?_cons, entry?_dir, entry?_dir, lookup_assignEntry]
              by_cases hfirst : first = step
              · subst hfirst
                rw [if_pos rfl, Option.bind_some, hdeep, hlookup, Option.bind_some]
                simp
              · rw [if_neg hfirst, if_neg (by simp [hfirst])]
      | _ => cases hchild

/-- **Nothing changes** where a node is put where it already is. -/
theorem assign_self {node old : Node} (hnode : node.Distinct) {location : Location}
    (h : node.at? location = some old) : node.assign (some old) location = node := by
  induction location generalizing node with
  | nil => exact (Option.some.inj h).symm
  | cons name rest ih =>
      rw [at?_cons] at h
      obtain ⟨child, hchild, hrest⟩ := Option.bind_eq_some_iff.mp h
      cases node with
      | dir attributes es =>
          have hlookup : es.lookup name = some child := hchild
          rw [assign]
          split
          · rename_i hempty
            rw [List.isEmpty_iff.mp hempty, at?_nil] at hrest
            rw [← Option.some.inj hrest, assignEntry_self hnode.1 hlookup]
          · have hdeep := ih (distinct_of_mem hnode.2 (mem_of_lookup hlookup)) hrest
            simp only [hlookup]
            rw [hdeep, assignEntry_self hnode.1 hlookup]
      | _ => cases hchild

end GoldenRun.Node
