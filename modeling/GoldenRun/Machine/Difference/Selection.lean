/-!
# Things that take part in a comparison

Before a way between two rows is searched for, some things of each row are set aside: they are taken for
deleted or inserted whatever the way is. So the search does not pair things by chance.

* A thing that the other row does not have is set aside. A thing that the other row has many times over is
  *doubtful*.
* A doubtful thing is set aside only within a run of such things that begins and ends with things that are
  set aside anyway, if few of the run are doubtful, not many of them stand together and none stands near
  an end of the run.
-/

namespace GoldenRun.Machine

/-- Whether a thing takes part. -/
inductive Standing where
  | taking
  | aside
  | doubtful
  deriving DecidableEq, Repr

namespace Standing

/-- A power of two near the square root of a number. -/
def rootOf (n : Nat) : Nat :=
  if n < 4 then 1 else 2 * rootOf (n / 4)

/-- The standing of a thing that the other row has so many times; the first row's length says what is
    many. -/
def ofCount (length count : Nat) : Standing :=
  if count = 0 then .aside
  else if 5 * rootOf (length / 64) < count then .doubtful
  else .taking

/-- A doubtful thing takes part, after all. -/
def settled : Standing → Standing
  | .doubtful => .taking
  | standing => standing

/-- A run in which groups of at least so many doubtful things take part. The group in front of the run
    holds `group` things. -/
def withoutGroups (least : Nat) : (group : Nat) → List Standing → List Standing
  | group, .doubtful :: run => withoutGroups least (group + 1) run
  | group, standing :: run =>
    List.replicate group (if least ≤ group then .taking else .doubtful) ++
      standing :: withoutGroups least 0 run
  | group, [] => List.replicate group (if least ≤ group then .taking else .doubtful)

/-- A run in which the doubtful things at the beginning take part: all up to three things in a row that
    are set aside, or to the first that is set aside behind eight things. `place` things of the run were
    seen, of which the last `certain` are set aside. -/
def withFirmBeginning : (place certain : Nat) → List Standing → List Standing
  | _, _, [] => []
  | place, certain, standing :: run =>
    if 8 ≤ place && standing = .aside then standing :: run
    else
      match standing with
      | .doubtful | .taking => .taking :: withFirmBeginning (place + 1) 0 run
      | .aside =>
        if certain = 2 then standing :: run
        else standing :: withFirmBeginning (place + 1) (certain + 1) run

/-- A run whose first and last things are set aside, with its doubtful things decided. -/
def decideInner (run : List Standing) : List Standing :=
  if run.length < 4 * run.count .doubtful then run.map settled
  else
    let run := withoutGroups (rootOf (run.length / 4) + 1) 0 run
    let run := withFirmBeginning 0 0 run
    (withFirmBeginning 0 0 run.reverse).reverse

/-- A run of things that do not take part, with its doubtful things decided. -/
def decideRun (run : List Standing) : List Standing :=
  let first := run.takeWhile (· == .doubtful)
  let rest := run.drop first.length
  let last := rest.reverse.takeWhile (· == .doubtful)
  first.map settled ++ decideInner (rest.take (rest.length - last.length)) ++ last.map settled

/-- All doubtful things decided; `run` stands in front, the last thing first. -/
def decideAll (run : List Standing) : List Standing → List Standing
  | .taking :: rest => decideRun run.reverse ++ .taking :: decideAll [] rest
  | standing :: rest => decideAll (standing :: run) rest
  | [] => decideRun run.reverse

end Standing

/-- The things of a row that take part in its comparison with another, with their numbers. -/
def takingPart {α : Type} [BEq α] (row other : List α) : List (α × Nat) :=
  let standings := Standing.decideAll [] (row.map fun thing =>
    .ofCount row.length (other.count thing))
  ((row.zipIdx.zip standings).filter fun (_, standing) => standing == .taking).map Prod.fst

end GoldenRun.Machine
