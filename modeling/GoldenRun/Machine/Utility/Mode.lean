import GoldenRun.Machine.Utility.Deed
import GoldenRun.Machine.Utility.Format

/-!
# Permission bits

A mode says what becomes of permission bits. It is an octal number, or clauses with commas between them:
whom the clause is for (`u`, `g`, `o`, `a`), an operator (`+`, `-`, `=`), and what it is about (`r`, `w`,
`x`, `X`, `s`, `t`, or the bits of one of `u`, `g`, `o`); more operators may follow. A clause that is for
nobody in particular spares the bits of a mask.

* `Mode.read?` reads a mode; `Mode.bits` says what it makes of permission bits.
* A directory keeps the bits of its owner's and its group's identity unless the mode mentions them.
* `chmod` gives files another mode.
-/

namespace GoldenRun.Machine

/-- One operator of a mode. -/
structure ModeChange where
  /-- Whose bits; for nobody in particular, none. -/
  whose : Nat
  operator : Char
  /-- The bits it is about, or those to be copied to all. -/
  value : Nat
  copies : Bool := false
  /-- The bits to execute a file are among them if it is a directory or has such a bit. -/
  mayExecute : Bool := false
  mentioned : Nat
  deriving DecidableEq, Repr

/-- A mode: operators that are carried out in order. -/
abbrev Mode := List ModeChange

namespace Mode

/-- All bits there are. -/
def every : Nat := 0o7777

/-- The bits of the owner's and the group's identity. -/
def identity : Nat := 0o6000

/-- All bits but the given ones. -/
def besides (bits : Nat) : Nat := every - (bits &&& every)

/-- Bits copied to the owner, the group and the others. -/
def spread (bits : Nat) : Nat :=
  (if bits &&& 0o444 = 0 then 0 else 0o444) ||| (if bits &&& 0o222 = 0 then 0 else 0o222) |||
    (if bits &&& 0o111 = 0 then 0 else 0o111)

/-- What an operator makes of permission bits. -/
def apply (isDir : Bool) (mask old : Nat) (change : ModeChange) : Nat :=
  let kept := if isDir then identity &&& besides change.mentioned else 0
  let value :=
    if change.copies then spread (change.value &&& old)
    else if change.mayExecute && (isDir || old &&& 0o111 != 0) then change.value ||| 0o111
    else change.value
  let reach := if change.whose = 0 then besides mask else change.whose
  let value := value &&& reach &&& besides kept
  match change.operator with
  | '+' => old ||| value
  | '-' => old &&& besides value
  | _ => (old &&& ((if change.whose = 0 then 0 else besides change.whose) ||| kept)) ||| value

/-- What a mode makes of permission bits. -/
def bits (mode : Mode) (isDir : Bool) (mask old : Nat) : Nat :=
  mode.foldl (apply isDir mask) old

/-- The bits of those that a letter names. -/
def bitsOf : Char → Nat
  | 'u' => 0o4700
  | 'g' => 0o2070
  | 'o' => 0o1007
  | _ => every

/-- The bits that a letter is about. -/
def letterBits : Char → Nat
  | 'r' => 0o444
  | 'w' => 0o222
  | 'x' => 0o111
  | 's' => 0o6000
  | 't' => 0o1000
  | _ => 0

/-- The number that octal digits make. -/
def octalNumber (digits : List Char) : Nat :=
  digits.foldl (fun n c => n * 8 + (c.toNat - 48)) 0

/-- An octal digit. -/
def isOctal (c : Char) : Bool := '0' ≤ c && c ≤ '7'

/-- The operators of a clause. `fuel` covers its characters. -/
def readChanges? (whose : Nat) : (fuel : Nat) → List Char → Option Mode
  | 0, _ => none
  | fuel + 1, operator :: cs =>
    if !"+-=".toList.contains operator then none
    else
      let digits := cs.takeWhile isOctal
      let letters := cs.takeWhile fun c => "rwxXst".toList.contains c
      let copied := (cs.take 1).filter fun c => "ugo".toList.contains c
      if !digits.isEmpty then
        if whose != 0 || digits.length < cs.length || every < octalNumber digits then none
        else
          some [{ whose := every, operator, value := octalNumber digits, mentioned := every }]
      else
        let value :=
          if copied.isEmpty then letters.foldl (fun bits c => bits ||| letterBits c) 0
          else copied.foldl (fun bits c => bits ||| (bitsOf c &&& 0o777)) 0
        let change : ModeChange :=
          { whose, operator, value, copies := !copied.isEmpty
            mayExecute := letters.contains 'X'
            mentioned := if whose = 0 then value else whose &&& value }
        let rest := cs.drop (if copied.isEmpty then letters.length else 1)
        if rest.isEmpty then some [change] else (readChanges? whose fuel rest).map (change :: ·)
  | _ + 1, [] => none

/-- The operators of a clause. -/
def readClause? (clause : List Char) : Option Mode :=
  let who := clause.takeWhile fun c => "ugoa".toList.contains c
  let whose := who.foldl (fun bits c => bits ||| bitsOf c) 0
  readChanges? whose (clause.length + 1) (clause.drop who.length)

/-- The operators of all clauses. -/
def readClauses? : List (List Char) → Option Mode
  | [] => some []
  | clause :: rest =>
    match readClause? clause, readClauses? rest with
    | some changes, some others => some (changes ++ others)
    | _, _ => none

/-- A text cut at commas. -/
def clauses : List Char → List (List Char)
  | [] => [[]]
  | c :: cs =>
    match clauses cs with
    | [] => [[c]]
    | clause :: rest => if c = ',' then [] :: clause :: rest else (c :: clause) :: rest

/-- The mode that sets exactly these bits. With fewer than five digits, a directory keeps what is not
    mentioned. -/
def exactly (value digits : Nat) : Mode :=
  [{ whose := every, operator := '=', value
     mentioned := if digits < 5 then (value &&& 0o7000) ||| 0o777 else every }]

/-- The mode that a text spells. -/
def read? (text : String) : Option Mode :=
  let cs := text.toList
  if cs.all isOctal && !cs.isEmpty then
    let value := octalNumber cs
    if value ≤ every then some (exactly value cs.length) else none
  else readClauses? (clauses cs)

/-- Permission bits in letters. -/
def letters (mode : Nat) : String :=
  let bit (n : Nat) (c : Char) : Char := if mode &&& n = 0 then '-' else c
  let last (execute special : Nat) (both only : Char) : Char :=
    if mode &&& special = 0 then bit execute 'x'
    else if mode &&& execute = 0 then only
    else both
  String.ofList [bit 0o400 'r', bit 0o200 'w', last 0o100 0o4000 's' 'S', bit 0o40 'r', bit 0o20 'w',
    last 0o10 0o2000 's' 'S', bit 0o4 'r', bit 0o2 'w', last 0o1 0o1000 't' 'T']

/-- Permission bits in at least so many octal digits. -/
def octalText (least mode : Nat) : String :=
  let digits := Nat.toDigits 8 mode
  String.ofList (List.replicate (least - digits.length) '0' ++ digits)

end Mode

/-! ## Files with other permission bits -/

/-- How files get another mode. -/
structure ModeOrder where
  mode : Mode
  deep : Bool
  /-- What was done is told: always, or only a change. -/
  tellsAll : Bool
  tellsChanges : Bool
  silent : Bool
  /-- A mask that keeps bits from being taken away is told. -/
  tellsSurprise : Bool

/-- The attributes of a node with another mode, and what is said about it. -/
def ModeOrder.change (order : ModeOrder) (errand : Errand) (mask : Nat) (path : String) (isDir : Bool)
    (old : Attributes) : Attributes × List (Outlet × Bytes) × Bool :=
  let new := order.mode.bits isDir mask old.mode
  let naive := order.mode.bits isDir 0 old.mode
  let shown (mode : Nat) : String := Mode.octalText 4 mode ++ " (" ++ Mode.letters mode ++ ")"
  let report :=
    if new != old.mode then
      if order.tellsAll || order.tellsChanges then
        ["mode of " ++ quotedName path ++ " changed from " ++ shown old.mode ++ " to " ++ shown new ++
          "\n"]
      else []
    else if order.tellsAll then
      ["mode of " ++ quotedName path ++ " retained as " ++ shown new ++ "\n"]
    else []
  let isSurprise := order.tellsSurprise && new &&& Mode.besides naive != 0
  let surprise :=
    if isSurprise then
      [errand.line (shownName path ++ ": new permissions are " ++ Mode.letters new ++ ", not " ++
        Mode.letters naive)]
    else []
  ({ old with mode := new },
    report.map (fun line => (Outlet.out, ByteText.toBytes line)) ++
      surprise.map (fun line => (.err, ByteText.toBytes line)), isSurprise)

mutual

/-- A node with another mode and, if the order goes deep, all that is in it; what is said, and whether
    something was refused. -/
def Node.withMode (order : ModeOrder) (errand : Errand) (mask : Nat) (path : String) :
    Node → Node × List (Outlet × Bytes) × Bool
  | .file old content =>
    let (attributes, said, refused) := order.change errand mask path false old
    (.file attributes content, said, refused)
  | .dir old entries =>
    let (attributes, said, refused) := order.change errand mask path true old
    if order.deep then
      let (entries, more, refusedMore) := Node.entriesWithMode order errand mask path entries
      (.dir attributes entries, said ++ more, refused || refusedMore)
    else (.dir attributes entries, said, refused)
  | .link target =>
    (.link target,
      if order.tellsAll then
        [(.out, ByteText.toBytes ("neither symbolic link " ++ quotedName path ++
          " nor referent has been changed\n"))]
      else [], false)
  | node => (node, [], false)

/-- Entries with another mode. -/
def Node.entriesWithMode (order : ModeOrder) (errand : Errand) (mask : Nat) (path : String) :
    List (Bytes × Node) → List (Bytes × Node) × List (Outlet × Bytes) × Bool
  | [] => ([], [], false)
  | (name, node) :: rest =>
    let (node, said, refused) :=
      Node.withMode order errand mask (pathIn path (ByteText.ofBytes name)) node
    let (rest, more, refusedMore) := Node.entriesWithMode order errand mask path rest
    ((name, node) :: rest, said ++ more, refused || refusedMore)

end

/-- One path with another mode. -/
def changeMode (errand : Errand) (order : ModeOrder) (tree : FileTree) (path : String) : Deed :=
  let name := ByteText.toBytes path
  let refuse (line : String) : Deed :=
    { files := tree, refused := true
      said := (if order.silent then [] else [(.err, ByteText.toBytes line)]) ++
        if order.tellsAll then
          [(.out, ByteText.toBytes (quotedName path ++ " could not be accessed\n"))]
        else [] }
  match tree.locate true name, tree.find true name with
  | .ok location, .ok node =>
    let (node, said, refused) := Node.withMode order errand tree.mask path node
    { files := tree.assign location (some node), said, refused }
  | .error e, _ | _, .error e =>
    if e = .notFound && (tree.find false name).toOption.isSome then
      refuse (errand.line ("cannot operate on dangling symlink " ++ quotedName path))
    else refuse (errand.unable "cannot access" path e)

/-- An argument that is a mode although it looks like options. -/
def looksLikeMode (arg : String) : Bool :=
  match arg.toList with
  | '-' :: c :: _ => "rwxXstugoa,+=01234567".toList.contains c
  | _ => false

/-- Other permission bits for files. -/
def chmod : Utility := fun errand =>
  let opening := errand.args.takeWhile (· != "--")
  let modes := opening.filter looksLikeMode
  let errand := { errand with
    args := opening.filter (!looksLikeMode ·) ++ errand.args.drop opening.length }
  errand.withOptions
    [flag 'R' ["recursive"], flag 'c' ["changes"], flag 'f' ["silent", "quiet"], flag 'v' ["verbose"],
      long "reference" .always, long "no-preserve-root", long "preserve-root"] fun arguments =>
    let order (mode : Mode) : ModeOrder :=
      { mode, deep := arguments.has "R"
        tellsAll := (arguments.options.reverse.find? fun o => o.1 = "c" || o.1 = "v").any (·.1 = "v")
        tellsChanges := arguments.has "c"
        silent := arguments.has "f"
        tellsSurprise := !modes.isEmpty }
    let go (mode : Mode) (paths : List String) : Effort :=
      errand.doEach (changeMode errand (order mode)) paths
    let read (text : String) (paths : List String) : Effort :=
      match Mode.read? text with
      | none => errand.misused ("invalid mode: " ++ quotedWord text)
      | some mode => go mode paths
    match (arguments.values "reference").getLast?, modes, arguments.operands with
    | some _, _ :: _, _ => errand.misused "cannot combine mode and --reference options"
    | _, _, [] => errand.misused "missing operand"
    | some model, [], paths =>
      match errand.files.find true (ByteText.toBytes model) with
      | .ok (.file attributes _) | .ok (.dir attributes _) => go (Mode.exactly attributes.mode 5) paths
      | .ok _ => go (Mode.exactly 0o644 5) paths
      | .error e => errand.complain 1 (errand.unable "failed to get attributes of" model e)
    | none, [], [mode] => errand.misused ("missing operand after " ++ quotedWord mode)
    | none, [], mode :: paths => read mode paths
    | none, modes, paths => read (",".intercalate modes) paths

end GoldenRun.Machine
