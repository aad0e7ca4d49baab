import GoldenRun.Machine.Utility.Mode

/-!
# Making and removing files

`touch` makes empty files and `mkdir` directories; `rm` and `rmdir` take them away.
-/

namespace GoldenRun.Machine

/-! ## 1. Files -/

/-- One path touched: a file is made if nothing is there, unless an option says otherwise. -/
def touchOne (errand : Errand) (arguments : Arguments) (tree : FileTree) (path : String) : Deed :=
  let name := ByteText.toBytes path
  if path = "-" then .done tree
  else
    match tree.find (!arguments.has "h") name with
    | .ok _ => .done tree
    | .error e =>
      let untimed := Deed.refuse tree (errand.unable "setting times of" path e)
      if arguments.has "c" then if e = .notFound then .done tree else untimed
      else if arguments.has "h" then untimed
      else
        match tree.write name [] with
        | .ok tree => .done tree
        | .error cause =>
          if cause = .isDirectory then untimed
          else .refuse tree (errand.unable "cannot touch" path cause)

/-- A text has the form of a time stamp: a month, a day, an hour and a minute, a year in front of them
    or not, and seconds behind a point or not. -/
def isTimeStamp (text : String) : Bool :=
  let digits := text.toList.takeWhile Char.isDigit
  let rest := text.toList.drop digits.length
  [8, 10, 12].contains digits.length &&
    (rest.isEmpty ||
      (rest.head? = some '.' && rest.length = 3 && (rest.drop 1).all Char.isDigit))

/-- Empty files where there are none. -/
def touch : Utility := fun errand =>
  errand.withOptions
    [flag 'a' [], flag 'c' ["no-create"], valued 'd' ["date"], flag 'f' [],
      flag 'h' ["no-dereference"], flag 'm' [], valued 'r' ["reference"], valued 't' []]
    fun arguments =>
      let reference := (arguments.values "r").getLast?.bind fun path =>
        match errand.files.find true (ByteText.toBytes path) with
        | .ok _ => none
        | .error e => some (errand.unable "failed to get attributes of" path e)
      match (arguments.values "t").find? (!isTimeStamp ·), reference with
      | some stamp, _ => errand.complain 1 (errand.line ("invalid date format " ++ quotedWord stamp))
      | none, some line => errand.complain 1 line
      | none, none =>
        if arguments.operands.isEmpty then errand.misused "missing file operand"
        else errand.doEach (touchOne errand arguments) arguments.operands

/-! ## 2. Directories -/

/-- The beginnings of a path that name the directories on its way, `before` being what was read. -/
def waysFrom (before : List Char) : List Char → List String
  | [] => []
  | c :: cs =>
    let read := before ++ [c]
    if c != '/' && cs.head? = some '/' && cs.any (· != '/') then
      String.ofList read :: waysFrom read cs
    else waysFrom read cs

/-- One directory made, which may be there before only if `lax`. -/
def makeOne (errand : Errand) (arguments : Arguments) (lax : Bool) (path : String) (tree : FileTree) :
    Deed :=
  let name := ByteText.toBytes (withoutEndSlash path)
  match tree.create name tree.freshDir with
  | .ok tree =>
    .done tree
      (if arguments.has "v" then [errand.line ("created directory " ++ quotedName path)] else [])
  | .error e =>
    if lax && tree.isDir name then .done tree
    else .refuse tree (errand.unable "cannot create directory" path e)

/-- The directories on the way to a path. What is no directory but in the way is told. -/
def makeWays (errand : Errand) (arguments : Arguments) (tree : FileTree) (path : String) : Deed :=
  (waysFrom [] path.toList).foldl (fun deed way =>
    deed.andThen fun tree =>
      if (tree.find true (ByteText.toBytes way)).toOption.isSome &&
          !tree.isDir (ByteText.toBytes way) then
        .refuse tree (errand.unable "cannot create directory" way .notDirectory)
      else makeOne errand arguments true way tree) (.done tree)

/-- Directories; with `-p` also those on the way. -/
def mkdir : Utility := fun errand =>
  errand.withOptions
    [valued 'm' ["mode"], flag 'p' ["parents"], flag 'v' ["verbose"], flag 'Z' []] fun arguments =>
      let mode := (arguments.values "m").getLast?
      if arguments.operands.isEmpty then errand.misused "missing operand"
      else if mode.any fun mode => (Mode.read? mode).isNone then
        errand.complain 1 (errand.line ("invalid mode " ++ quotedWord (mode.getD "")))
      else
        errand.doEach (fun tree path =>
          if arguments.has "p" then
            (makeWays errand arguments tree path).andThen (makeOne errand arguments true path)
          else makeOne errand arguments false path tree) arguments.operands

/-! ## 3. Removal -/

mutual

/-- What is told while a node is taken away: what is in it goes first. -/
def removals (path : String) : Node → List String
  | .dir _ entries =>
    entryRemovals path entries ++ ["removed directory " ++ quotedName path ++ "\n"]
  | _ => ["removed " ++ quotedName path ++ "\n"]

/-- What is told while entries are taken away. -/
def entryRemovals (path : String) : List (Bytes × Node) → List String
  | [] => []
  | (name, node) :: rest =>
    removals (pathIn path (ByteText.ofBytes name)) node ++ entryRemovals path rest

end

/-- One path taken away. -/
def removeOne (errand : Errand) (arguments : Arguments) (tree : FileTree) (path : String) : Deed :=
  let name := ByteText.toBytes path
  let deep := arguments.has "r" || arguments.has "R"
  let refuse (e : Errno) : Deed :=
    if arguments.has "f" && (e = .notFound || e = .notDirectory) then .done tree
    else .refuse tree (errand.unable "cannot remove" path e)
  let take (node : Node) : Deed :=
    match tree.remove name with
    | .ok tree => .done tree (if arguments.has "v" then removals path node else [])
    | .error e => refuse e
  match tree.find false name with
  | .error e => refuse e
  | .ok (.dir listable entries) =>
    if !deep && !(arguments.has "d" && entries.isEmpty) then
      refuse (if arguments.has "d" then .notEmpty else .isDirectory)
    else if endsInDots path then
      .refuse tree (errand.line
        ("refusing to remove '.' or '..' directory: skipping " ++ quotedName path))
    else if (tree.locate false name).toOption = some [] then
      .refuse tree
        (errand.line ("it is dangerous to operate recursively on " ++ quotedName path) ++
          errand.line "use --no-preserve-root to override this failsafe")
    else take (.dir listable entries)
  | .ok node => take node

/-- Take files away; with `-r` also directories, and with `-f` nothing need be there. -/
def rm : Utility := fun errand =>
  errand.withOptions
    [flag 'd' ["dir"], flag 'f' ["force"], flag 'i' [], flag 'I' [], flag 'r' ["recursive"],
      flag 'R' [], flag 'v' ["verbose"]] fun arguments =>
        if arguments.operands.isEmpty && !arguments.has "f" then errand.misused "missing operand"
        else errand.doEach (removeOne errand arguments) arguments.operands

/-- One empty directory taken away. -/
def removeDir (errand : Errand) (arguments : Arguments) (what : String) (tree : FileTree)
    (path : String) : Deed :=
  let name := ByteText.toBytes path
  let change : FileTree.Change :=
    match tree.find false name with
    | .error e => .error e
    | .ok (.dir _ []) => if lastName path = "." then .error .invalidArgument else tree.remove name
    | .ok (.dir _ _) => .error (if lastName path = "." then .invalidArgument else .notEmpty)
    | .ok _ => .error .notDirectory
  let report :=
    if arguments.has "v" then [errand.line ("removing directory, " ++ quotedName path)] else []
  match change with
  | .ok tree => .done tree report
  | .error e => (Deed.done tree report).andThen fun tree => .refuse tree (errand.unable what path e)

/-- Take empty directories away; with `-p` also those on the way, the last first. -/
def rmdir : Utility := fun errand =>
  errand.withOptions [flag 'p' ["parents"], flag 'v' ["verbose"]] fun arguments =>
    if arguments.operands.isEmpty then errand.misused "missing operand"
    else
      errand.doEach (fun tree path =>
        let ways := if arguments.has "p" then (waysFrom [] path.toList).reverse else []
        ways.foldl (fun deed way =>
            deed.andThen fun tree =>
              removeDir errand arguments "failed to remove directory" tree way)
          (removeDir errand arguments "failed to remove" tree path)) arguments.operands

end GoldenRun.Machine
