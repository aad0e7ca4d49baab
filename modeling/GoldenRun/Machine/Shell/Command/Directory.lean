import GoldenRun.Machine.Shell.Command.Basic

/-!
# The current directory and the mask

* `cd` and `pwd` keep two names of the current directory apart: the one by which the shell came to it, and
  the one without links. `logicalPath` cuts steps out of a path by its text alone.
* `umask` shows and changes the permissions that new files do not get.
-/

namespace GoldenRun.Machine.Shell

/-! ## 1. Directories -/

/-- The segments of a path behind others, steps back being taken at once. The newest comes first. -/
def stepSegments (base : List String) (path : String) : List String :=
  (cut (· = '/') path.toList).foldl (fun segments segment =>
    if segment.isEmpty || segment = ['.'] then segments
    else if segment = ['.', '.'] then segments.drop 1
    else String.ofList segment :: segments) base

/-- A path from a directory on, without steps back. -/
def logicalPath (directory path : String) : String :=
  let base := if path.toList.head? = some '/' then [] else stepSegments [] directory
  "/" ++ "/".intercalate (stepSegments base path).reverse

/-- Go to a directory; the answer says whether that could be done. -/
def goTo (physical : Bool) (path : String) : Action Bool := do
  let scene ← get
  let files := scene.system.files
  let logical := logicalPath scene.shell.directory path
  let target := if physical then path else logical
  match files.locate true (ByteText.toBytes target), files.isDir (ByteText.toBytes target) with
  | .ok location, true => do
    let directory := if physical then pathOf location else logical
    modifySystem fun system => { system with files := { files with current := location } }
    modifyShell fun shell =>
      let old := shell.directory
      let shell := (shell.bind "OLDPWD" old).bind "PWD" directory
      { shell with
        directory
        exported := "OLDPWD" :: "PWD" ::
          shell.exported.filter fun name => name != "OLDPWD" && name != "PWD" }
    return true
  | _, _ => return false

/-- The directories in which a name may be looked for, in order: its paths, and whether a path that is
    chosen is told. -/
def directoryPaths (searched : String) (name : String) : List (String × Bool) :=
  let isDirect := name.toList.head? = some '/' || name = "." || name = ".." ||
    (after? "./" name).isSome || (after? "../" name).isSome
  if isDirect then [(name, false)]
  else
    (cut (· = ':') searched.toList).map fun dir =>
      if dir.isEmpty then (name, false) else (String.ofList dir ++ "/" ++ name, true)

/-- `cd`. -/
def changeDirectory (args : List String) : Action Flow := do
  let (options, args) ← takeOptions "LP" "" args
  let shell ← getShell
  let isBack := args.head? = some "-"
  let name := match args with
    | [] => (shell.bindings.lookup "HOME").getD ""
    | "-" :: _ => (shell.bindings.lookup "OLDPWD").getD ""
    | name :: _ => name
  let path := if name.isEmpty then "." else name
  let files := (← getSystem).files
  let paths := directoryPaths ((shell.bindings.lookup "CDPATH").getD "") path
  let (path, isTold) :=
    (paths.find? fun (path, _) => files.isDir (ByteText.toBytes path)).getD (path, false)
  if ← goTo ((options.getLast?.map Prod.fst) = some 'P') path then
    if isBack || isTold then say ((← getShell).directory ++ "\n")
    ended 0
  else refuse ("can't cd to " ++ name)

/-- `pwd`. -/
def printDirectory (args : List String) : Action Flow := do
  let (options, _) ← takeOptions "LP" "" args
  let physical := (options.getLast?.map Prod.fst) = some 'P'
  let scene ← get
  say ((if physical then pathOf scene.system.files.current else scene.shell.directory) ++ "\n")
  ended 0

/-! ## 2. The mask -/

/-- The permissions that a mask leaves to owner, group and others, in letters. -/
def maskLetters (mask : Nat) : String :=
  let part (shift : Nat) : String :=
    let bits := (0o777 - mask) >>> shift
    (if bits &&& 4 = 0 then "" else "r") ++ (if bits &&& 2 = 0 then "" else "w") ++
      (if bits &&& 1 = 0 then "" else "x")
  "u=" ++ part 6 ++ ",g=" ++ part 3 ++ ",o=" ++ part 0

/-- The bits that a letter of a clause means, three of them. -/
def clauseBits (permitted : Nat) (c : Char) : Option Nat :=
  match c with
  | 'r' => some 4
  | 'w' => some 2
  | 'x' => some 1
  | 'u' => some (permitted >>> 6 &&& 7)
  | 'g' => some (permitted >>> 3 &&& 7)
  | 'o' => some (permitted &&& 7)
  | 'X' => some (if permitted &&& 0o111 = 0 then 0 else 1)
  | 's' => some 0
  | _ => none

/-- The permissions after the clauses of a text; `none` if it is none. The clauses read from the old
    permissions. `fuel` covers the text. -/
def clausesFrom (old : Nat) : (fuel : Nat) → (positions permitted : Nat) → List Char → Option Nat
  | 0, _, _, _ => none
  | _, _, permitted, [] => some permitted
  | fuel + 1, positions, permitted, cs =>
    let isWho (c : Char) : Bool := "augo".toList.contains c
    let who := cs.takeWhile isWho
    let place (c : Char) : Nat :=
      if c = 'a' then 0o111 else if c = 'u' then 0o100 else if c = 'g' then 0o10 else 1
    let positions := who.foldl (fun bits c => bits ||| place c) positions
    let positions := if positions = 0 then 0o111 else positions
    match cs.drop who.length with
    | [] => some permitted
    | sign :: rest =>
      if sign != '=' && sign != '+' && sign != '-' then none
      else
        let letters := rest.takeWhile fun c => (clauseBits old c).isSome
        let bits := letters.foldl (fun bits c => bits ||| (clauseBits old c).getD 0) 0 * positions
        let permitted :=
          if sign = '-' then permitted &&& (0o777 - bits)
          else if sign = '+' then permitted ||| bits
          else (permitted &&& (0o777 - positions * 7)) ||| bits
        match rest.drop letters.length with
        | [] => some permitted
        | ',' :: rest => clausesFrom old fuel 0 permitted rest
        | rest => clausesFrom old fuel positions permitted rest

/-- `umask`. -/
def changeMask (args : List String) : Action Flow := do
  let (options, args) ← takeOptions "S" "" args
  let mask := (← getSystem).files.mask
  let set (mask : Nat) : Action Unit :=
    modifySystem fun system => { system with files := { system.files with mask } }
  match args with
  | [] =>
    let octal := Nat.toDigits 8 mask
    say ((if options.isEmpty then
        String.ofList (List.replicate (4 - octal.length) '0' ++ octal)
      else maskLetters mask) ++ "\n")
  | arg :: _ =>
    if arg.toList.head?.any Char.isDigit then
      match arg.toList.mapM fun c => if '0' ≤ c && c ≤ '7' then some (c.toNat - 48) else none with
      | some digits => set ((digits.foldl (fun n d => n * 8 + d) 0) % 512)
      | none => refuse ("Illegal number: " ++ arg)
    else
      let old := 0o777 - mask
      match clausesFrom old (arg.length + 1) 0 old arg.toList with
      | some permitted => set (0o777 - permitted % 512)
      | none => refuse ("Illegal mode: " ++ arg)
  ended 0

end GoldenRun.Machine.Shell
