import GoldenRun.Proofs.Files.WellFormed

/-!
# Resolution below a directory

Once a path names a directory, longer paths go on from there: the names behind it are looked up at the
place where the directory is, with as many links left to follow as its own path did not use up.

* `FileTree.Move`, `FileTree.move`: what one segment does in a directory, whatever comes behind it;
  `FileTree.advance` is how a resolution goes on after that;
* `FileTree.Admissible`: a path that is resolved at all;
* `FileTree.Reaches`: a location and a number of links from which all paths below a directory go on.

Main statements: `resolve_more`, with more links to follow nothing is lost; `exists_reaches`, every
directory that a path names is reached so; `Reaches.find_dir` and `Reaches.found`, what is found below it
over names of directories.
-/

namespace GoldenRun

/-- Only directories have anything below them. -/
theorem Node.exists_dir_of_at?_append {node : Node} {a b : Location} {attributes : Attributes}
    {es : List (Bytes × Node)} (h : node.at? (a ++ b) = some (.dir attributes es)) :
    ∃ attributes es, node.at? a = some (.dir attributes es) := by
  rw [Node.at?_append] at h
  obtain ⟨middle, hmiddle, hrest⟩ := Option.bind_eq_some_iff.1 h
  rw [hmiddle]
  cases b with
  | nil => exact ⟨attributes, es, hrest⟩
  | cons name b =>
      rw [Node.at?_cons] at hrest
      obtain ⟨child, hchild, -⟩ := Option.bind_eq_some_iff.1 hrest
      cases middle with
      | dir attributes es => exact ⟨attributes, es, rfl⟩
      | _ => cases hchild

namespace FileTree

variable {root : Node} {followLast : Bool} {links : Nat} {here : Location}
  {attributes : Attributes} {es : List (Bytes × Node)}

/-! ## 1. One segment -/

/-- What a segment does in a directory, whatever comes behind it. -/
inductive Move where
  /-- It leads to a location, which may be the same. -/
  | step (next : Location)
  /-- It is the name of a link. -/
  | through (target : Bytes)
  /-- It is the name of no entry. -/
  | missing
  | refused (error : Errno)

/-- The move of a name in a directory with these entries. -/
def nameMove (es : List (Bytes × Node)) (here : Location) (name : Bytes) : Move :=
  match es.lookup name with
  | some (.link target) => .through target
  | some _ => .step (here ++ [name])
  | none => .missing

/-- The move of a segment in a directory with these entries. -/
def move (es : List (Bytes × Node)) (here : Location) (segment : Bytes) : Move :=
  if Path.isIdle segment then .step here
  else if segment == Path.dotDot then .step here.dropLast
  else if maxName < segment.length then .refused .nameTooLong
  else nameMove es here segment

/-- How a resolution goes on behind a link if that link and `links - 1` more may be followed. -/
def behind (root : Node) (followLast : Bool) :
    (links : Nat) → Location → List Bytes → Except Errno Location
  | 0 => fun _ _ => .error .tooManyLinks
  | links + 1 => resolve root followLast links

/-- How a resolution goes on after the move of a segment with `rest` behind it. -/
def advance (root : Node) (followLast : Bool) (links : Nat) (here : Location) (segment : Bytes)
    (rest : List Bytes) : Move → Except Errno Location
  | .step next => resolve root followLast links next rest
  | .through target =>
    if rest.isEmpty && !followLast then .ok (here ++ [segment])
    else
      behind root followLast links (if Path.isAbsolute target then [] else here)
        (Path.segments target ++ rest)
  | .missing => if rest.isEmpty then .ok (here ++ [segment]) else .error .notFound
  | .refused error => .error error

theorem resolve_eq_walk (root : Node) (followLast : Bool) (links : Nat) :
    resolve root followLast links = walk root followLast (behind root followLast links) := by
  cases links <;> rfl

@[simp] theorem resolve_nil (root : Node) (followLast : Bool) (links : Nat) (here : Location) :
    resolve root followLast links here [] = .ok here := by
  rw [resolve_eq_walk, walk]

/-- Segments need a directory to start from. -/
theorem exists_dir_of_resolve {segment : Bytes} {rest : List Bytes} {location : Location}
    (h : resolve root followLast links here (segment :: rest) = .ok location) :
    ∃ attributes es, root.at? here = some (.dir attributes es) := by
  rw [resolve_eq_walk, walk] at h
  split at h
  · exact ⟨_, _, ‹_›⟩
  · cases h
  · cases h

/-- **One segment** is one move. -/
theorem resolve_cons (hdir : root.at? here = some (.dir attributes es)) (segment : Bytes)
    (rest : List Bytes) :
    resolve root followLast links here (segment :: rest) =
      advance root followLast links here segment rest (move es here segment) := by
  rw [resolve_eq_walk, walk, hdir]
  unfold move
  by_cases hidle : Path.isIdle segment = true
  · simp only [hidle, if_true, advance, resolve_eq_walk]
  · by_cases hdots : (segment == Path.dotDot) = true
    · simp only [hidle, hdots, if_true, if_false, advance, resolve_eq_walk, Bool.false_eq_true]
    · by_cases hlong : maxName < segment.length
      · simp only [hidle, hdots, hlong, if_true, if_false, advance, Bool.false_eq_true]
      · simp only [hidle, hdots, hlong, if_false, nameMove, Bool.false_eq_true]
        cases hlookup : es.lookup segment with
        | none => rfl
        | some child => cases child <;> simp only [advance, resolve_eq_walk]

/-- A link is followed unless it is the last segment of a path that is not to be followed there. -/
theorem advance_through {segment : Bytes} {rest : List Bytes} (h : rest ≠ [] ∨ followLast = true)
    (target : Bytes) :
    advance root followLast links here segment rest (.through target) =
      behind root followLast links (if Path.isAbsolute target then [] else here)
        (Path.segments target ++ rest) := by
  refine if_neg ?_
  rcases h with h | h <;> simp [h]

/-- Idle segments lead nowhere else. -/
theorem resolve_idle {idle : List Bytes} (hidle : ∀ segment ∈ idle, Path.isIdle segment = true)
    {location : Location} (h : resolve root followLast links here idle = .ok location) :
    location = here := by
  induction idle with
  | nil =>
      rw [resolve_nil, Except.ok.injEq] at h
      exact h.symm
  | cons segment idle ih =>
      obtain ⟨attributes, es, hdir⟩ := exists_dir_of_resolve h
      rw [resolve_cons hdir, move, if_pos (hidle segment List.mem_cons_self)] at h
      exact ih (fun s hs => hidle s (List.mem_cons_of_mem _ hs)) h

section Name

variable {name : Bytes}

/-- A name is looked up, unless it is too long. -/
theorem move_of_isName (hname : Path.IsName name) (es : List (Bytes × Node)) (here : Location) :
    move es here name =
      if maxName < name.length then .refused .nameTooLong else nameMove es here name := by
  have hdots : (name == Path.dotDot) = false := beq_eq_false_iff_ne.2 hname.ne_dotDot
  rw [move, if_neg (by simp [hname.not_idle]), if_neg (by simp [hdots])]

/-- What is missing is no entry. -/
theorem lookup_of_missing {segment : Bytes} (h : move es here segment = .missing) :
    es.lookup segment = none := by
  unfold move nameMove at h
  split at h
  · cases h
  · split at h
    · cases h
    · split at h
      · cases h
      · split at h
        · cases h
        · cases h
        · assumption

end Name

/-! ## 2. A directory on the way -/

/-- If what comes behind links goes on from the directory, so does everything. -/
theorem resolve_append_of_behind (links : Nat) {idle : List Bytes}
    (hidle : ∀ segment ∈ idle, Path.isIdle segment = true) {location : Location}
    (hdir : root.at? location = some (.dir attributes es))
    (hbehind : ∀ start segments, behind root true links start (segments ++ idle) = .ok location →
      ∃ left, ∀ followLast names, names ≠ [] →
        behind root followLast links start (segments ++ names) =
          resolve root followLast left location names)
    (segments : List Bytes) (here : Location)
    (h : resolve root true links here (segments ++ idle) = .ok location) :
    ∃ left, ∀ followLast names, names ≠ [] →
      resolve root followLast links here (segments ++ names) =
        resolve root followLast left location names := by
  induction segments generalizing here with
  | nil =>
      rw [resolve_idle hidle h]
      exact ⟨links, fun _ _ _ => rfl⟩
  | cons segment segments ih =>
      rw [List.cons_append] at h
      obtain ⟨_, entries, hhere⟩ := exists_dir_of_resolve h
      rw [resolve_cons hhere] at h
      -- the move is the same with names behind the segments
      simp only [List.cons_append, resolve_cons hhere]
      cases hmove : move entries here segment with
      | step next =>
          rw [hmove] at h
          exact ih next h
      | through target =>
          rw [hmove, advance_through (Or.inr rfl), ← List.append_assoc] at h
          obtain ⟨left, hleft⟩ := hbehind _ _ h
          refine ⟨left, fun followLast names hnames => ?_⟩
          rw [advance_through (Or.inl (by simp [hnames])), ← List.append_assoc]
          exact hleft followLast names hnames
      | missing =>
          have hnone := lookup_of_missing hmove
          rw [hmove, advance] at h
          split at h
          · cases h
            rw [Node.at?_concat hhere, hnone] at hdir
            cases hdir
          · cases h
      | refused error =>
          rw [hmove] at h
          cases h

/-- **Going on from a directory.** If a resolution ends at a directory, every resolution of the same
    segments with names behind them passes through it. -/
theorem resolve_append {idle : List Bytes} (hidle : ∀ segment ∈ idle, Path.isIdle segment = true)
    {location : Location} (hdir : root.at? location = some (.dir attributes es)) (links : Nat)
    (here : Location) (segments : List Bytes)
    (h : resolve root true links here (segments ++ idle) = .ok location) :
    ∃ left, ∀ followLast names, names ≠ [] →
      resolve root followLast links here (segments ++ names) =
        resolve root followLast left location names := by
  induction links generalizing here segments with
  | zero =>
      refine resolve_append_of_behind 0 hidle hdir (fun start segments h => ?_) segments here h
      cases h
  | succ links ih => exact resolve_append_of_behind (links + 1) hidle hdir ih segments here h

/-- Names of directories lead into these, unless one is too long. -/
theorem resolve_dirs {names : List Bytes} (hnames : ∀ name ∈ names, Path.IsName name)
    (hdir : root.at? (here ++ names) = some (.dir attributes es)) (rest : List Bytes) :
    resolve root followLast links here (names ++ rest) =
      if ∀ name ∈ names, name.length ≤ maxName then
        resolve root followLast links (here ++ names) rest
      else .error .nameTooLong := by
  induction names generalizing here with
  | nil => simp
  | cons name names ih =>
      obtain ⟨_, entries, hhere⟩ := Node.exists_dir_of_at?_append hdir
      rw [List.append_cons] at hdir
      obtain ⟨_, _, hchild⟩ := Node.exists_dir_of_at?_append hdir
      rw [Node.at?_concat hhere] at hchild
      rw [List.cons_append, resolve_cons hhere, move_of_isName (hnames name List.mem_cons_self)]
      by_cases hlong : maxName < name.length
      · rw [if_pos hlong, if_neg, advance]
        intro hall
        exact absurd (hall name List.mem_cons_self) (Nat.not_le.2 hlong)
      · have hmove : nameMove entries here name = .step (here ++ [name]) := by rw [nameMove, hchild]
        rw [if_neg hlong, hmove, advance,
          ih (fun n hn => hnames n (List.mem_cons_of_mem _ hn)) hdir, ← List.append_cons]
        simp [Nat.not_lt.1 hlong]

/-- The last name is that of an entry and not too long; a link is found itself unless it is followed. -/
theorem lookup_of_resolve (hdir : root.at? here = some (.dir attributes es)) {name : Bytes}
    (hname : Path.IsName name) {location : Location} {found : Node}
    (h : resolve root followLast links here [name] = .ok location)
    (hfound : root.at? location = some found) :
    name.length ≤ maxName ∧
      ∃ child, es.lookup name = some child ∧ (followLast = false → child = found) := by
  have hhere : location = here ++ [name] → es.lookup name = some found := by
    rintro rfl
    rw [← Node.at?_concat hdir, hfound]
  rw [resolve_cons hdir, move_of_isName hname] at h
  split at h
  · cases h
  · rename_i hlong
    refine ⟨Nat.not_lt.1 hlong, ?_⟩
    unfold nameMove at h
    split at h
    · rename_i target hlookup
      refine ⟨_, hlookup, fun hfollow => ?_⟩
      subst hfollow
      rw [hhere (Except.ok.inj h).symm, Option.some.injEq] at hlookup
      exact hlookup.symm
    · rename_i hlookup
      rw [advance, resolve_nil, Except.ok.injEq] at h
      exact ⟨found, hhere h.symm, fun _ => rfl⟩
    · exact ⟨found, hhere (Except.ok.inj h).symm, fun _ => rfl⟩

/-! ## 3. More links -/

/-- If whatever is found behind a link is found there with more links too, so is everything. -/
theorem resolve_more_of_behind {more : Nat}
    (hbehind : ∀ start segments, behind root followLast links start segments ≠ .error .tooManyLinks →
      behind root followLast more start segments = behind root followLast links start segments)
    (segments : List Bytes) (here : Location)
    (h : resolve root followLast links here segments ≠ .error .tooManyLinks) :
    resolve root followLast more here segments = resolve root followLast links here segments := by
  induction segments generalizing here with
  | nil => rw [resolve_nil, resolve_nil]
  | cons segment segments ih =>
      cases hhere : root.at? here with
      | none => rw [resolve_eq_walk, resolve_eq_walk, walk, walk, hhere]
      | some node =>
          cases node with
          | dir attributes es =>
              rw [resolve_cons hhere] at h
              rw [resolve_cons hhere, resolve_cons hhere]
              cases hmove : move es here segment with
              | step next =>
                  rw [hmove] at h
                  exact ih next h
              | through target =>
                  rw [hmove] at h
                  by_cases hfollowed : segments ≠ [] ∨ followLast = true
                  · rw [advance_through hfollowed] at h
                    rw [advance_through hfollowed, advance_through hfollowed]
                    exact hbehind _ _ h
                  · obtain ⟨rfl, rfl⟩ : segments = [] ∧ followLast = false := by simpa using hfollowed
                    rfl
              | missing => rfl
              | refused error => rfl
          | _ => rw [resolve_eq_walk, resolve_eq_walk, walk, walk, hhere]

/-- **More links do no harm.** A resolution that did not run out of links ends the same way if more of
    them may be followed. -/
theorem resolve_more {more : Nat} (hmore : links ≤ more) (segments : List Bytes) (here : Location)
    (h : resolve root followLast links here segments ≠ .error .tooManyLinks) :
    resolve root followLast more here segments = resolve root followLast links here segments := by
  induction links generalizing more here segments with
  | zero => exact resolve_more_of_behind (fun _ _ hzero => absurd rfl hzero) segments here h
  | succ links ih =>
      obtain ⟨more, rfl⟩ : ∃ n, more = n + 1 := ⟨more - 1, by omega⟩
      refine resolve_more_of_behind (fun start segments hstart => ?_) segments here h
      exact ih (Nat.le_of_succ_le_succ hmore) segments start hstart

/-! ## 4. Paths -/

/-- A path that is resolved: not empty, no zero byte in it, and not too long. -/
def Admissible (path : Bytes) : Prop :=
  path ≠ [] ∧ 0 ∉ path ∧ path.length ≤ maxPath

theorem Admissible.of_prefix {a b : Bytes} (hb : Admissible b) (h : a <+: b) (ha : a ≠ []) :
    Admissible a := by
  obtain ⟨-, hzero, hlength⟩ := hb
  exact ⟨ha, fun h0 => hzero (h.subset h0), Nat.le_trans h.length_le hlength⟩

variable {tree : FileTree} {path : Bytes}

theorem locate_eq (h : Admissible path) (followLast : Bool) :
    tree.locate followLast path =
      resolve tree.root followLast maxLinks (if Path.isAbsolute path then [] else tree.current)
        (Path.segments path) := by
  obtain ⟨hne, hzero, hlength⟩ := h
  unfold locate
  rw [if_neg (by simp [hne]), if_neg (by simp [hzero]), if_neg (Nat.not_lt.2 hlength)]

theorem admissible_of_locate {location : Location} (h : tree.locate followLast path = .ok location) :
    Admissible path := by
  unfold locate at h
  split at h
  · cases h
  · split at h
    · cases h
    · split at h
      · cases h
      · rename_i hne hzero hlength
        exact ⟨by simpa using hne, by simpa using hzero, Nat.not_lt.1 hlength⟩

/-- What is found is the node at the location. -/
theorem find_eq_ok {node : Node} :
    tree.find followLast path = .ok node ↔
      ∃ location, tree.locate followLast path = .ok location ∧ tree.root.at? location = some node := by
  unfold find FileTree.at?
  cases tree.locate followLast path with
  | error e => simp
  | ok location => cases h : tree.root.at? location <;> simp [h]

theorem admissible_of_find {node : Node} (h : tree.find followLast path = .ok node) :
    Admissible path := by
  obtain ⟨location, hlocate, -⟩ := find_eq_ok.1 h
  exact admissible_of_locate hlocate

theorem isDir_iff :
    tree.isDir path = true ↔
      ∃ attributes es, tree.find true path = .ok (.dir attributes es) := by
  unfold isDir
  split <;> simp_all

theorem isFile_iff :
    tree.isFile path = true ↔
      ∃ attributes content, tree.find true path = .ok (.file attributes content) := by
  unfold isFile
  split <;> simp_all

/-! ## 5. Paths below a directory -/

/-- All paths below `dir` over proper names are resolved from the location of `node`, with `links` links
    left to follow. -/
structure Reaches (tree : FileTree) (dir : Bytes) (node : Node) (location : Location) (links : Nat) :
    Prop where
  ne_nil : dir ≠ []
  at_location : tree.root.at? location = some node
  locate_below : ∀ followLast names, names ≠ [] → (∀ name ∈ names, Path.IsName name) →
    Admissible (Path.below dir names) →
      tree.locate followLast (Path.below dir names) =
        resolve tree.root followLast links location names

/-- The location of a directory's path is on the way of all paths below it. -/
theorem reaches_of_locate {dir : Bytes} {location : Location}
    (hlocate : tree.locate true dir = .ok location)
    (hat : tree.root.at? location = some (.dir attributes es)) :
    ∃ links, tree.Reaches dir (.dir attributes es) location links := by
  have hadmissible := admissible_of_locate hlocate
  obtain ⟨idle, hsegments, hidle⟩ := Path.segments_eq_stem dir
  rw [locate_eq hadmissible, hsegments] at hlocate
  obtain ⟨left, hleft⟩ := resolve_append hidle hat maxLinks _ (Path.stem dir) hlocate
  refine ⟨left, hadmissible.1, hat, ?_⟩
  intro followLast names hne hnames hbelow
  rw [locate_eq hbelow, Path.segments_below hadmissible.1 hne hnames,
    Path.isAbsolute_of_prefix hadmissible.1 (Path.prefix_below dir names)]
  exact hleft followLast names hne

/-- **A path that names a directory is on the way of all paths below it.** -/
theorem exists_reaches {dir : Bytes} (h : tree.find true dir = .ok (.dir attributes es)) :
    ∃ location links, tree.Reaches dir (.dir attributes es) location links := by
  obtain ⟨location, hlocate, hat⟩ := find_eq_ok.1 h
  exact ⟨location, reaches_of_locate hlocate hat⟩

namespace Reaches

variable {dir : Bytes} {node : Node} {location : Location} {names : List Bytes}

/-- A directory at a location below is found under its path. -/
theorem find_dir (h : tree.Reaches dir node location links)
    (hdir : node.at? names = some (.dir attributes es)) (hne : names ≠ [])
    (hnames : ∀ name ∈ names, Path.IsName name) (hshort : ∀ name ∈ names, name.length ≤ maxName)
    (hadmissible : Admissible (Path.below dir names)) (followLast : Bool) :
    tree.find followLast (Path.below dir names) = .ok (.dir attributes es) := by
  have hat : tree.root.at? (location ++ names) = some (.dir attributes es) := by
    rw [Node.at?_append, h.at_location]
    exact hdir
  refine find_eq_ok.2 ⟨location ++ names, ?_, hat⟩
  have hdirs : resolve tree.root followLast links location (names ++ []) = _ :=
    resolve_dirs hnames hat []
  rw [h.locate_below followLast names hne hnames hadmissible]
  rwa [List.append_nil, if_pos hshort, resolve_nil] at hdirs

/-- Spellings of one directory lead to the same places below it, unless the one with fewer links left runs
    out of them. -/
theorem locate_more {other : Bytes} {more : Nat} (h : tree.Reaches dir node location links)
    (hother : tree.Reaches other node location more) (hmore : links ≤ more) (hne : names ≠ [])
    (hnames : ∀ name ∈ names, Path.IsName name) (hadmissible : Admissible (Path.below dir names))
    (hadmissibleOther : Admissible (Path.below other names))
    (hlinks : tree.locate followLast (Path.below dir names) ≠ .error .tooManyLinks) :
    tree.locate followLast (Path.below other names) =
      tree.locate followLast (Path.below dir names) := by
  rw [h.locate_below followLast names hne hnames hadmissible] at hlinks ⊢
  rw [hother.locate_below followLast names hne hnames hadmissibleOther]
  exact resolve_more hmore names location hlinks

/-- What is found behind a directory at a location below is an entry of that directory, and no name on
    the way is too long. -/
theorem found (h : tree.Reaches dir node location links)
    (hdir : node.at? names = some (.dir attributes es)) {name : Bytes}
    (hnames : ∀ n ∈ names ++ [name], Path.IsName n) {result : Node}
    (hfind : tree.find followLast (Path.below dir (names ++ [name])) = .ok result) :
    (∀ n ∈ names ++ [name], n.length ≤ maxName) ∧
      ∃ child, node.at? (names ++ [name]) = some child ∧ (followLast = false → child = result) := by
  have hat : tree.root.at? (location ++ names) = some (.dir attributes es) := by
    rw [Node.at?_append, h.at_location]
    exact hdir
  obtain ⟨final, hlocate, hresult⟩ := find_eq_ok.1 hfind
  rw [h.locate_below followLast (names ++ [name]) (by simp) hnames (admissible_of_locate hlocate),
    resolve_dirs (fun n hn => hnames n (List.mem_append_left _ hn)) hat] at hlocate
  split at hlocate
  · rename_i hshort
    have hname : Path.IsName name := hnames name (List.mem_append_right _ List.mem_cons_self)
    obtain ⟨hlast, child, hlookup, hsame⟩ := lookup_of_resolve hat hname hlocate hresult
    refine ⟨?_, child, ?_, hsame⟩
    · intro n hn
      rcases List.mem_append.1 hn with hn | hn
      · exact hshort n hn
      · exact List.mem_singleton.1 hn ▸ hlast
    · rw [Node.at?_concat hdir, hlookup]
  · cases hlocate

end Reaches

end FileTree

end GoldenRun
