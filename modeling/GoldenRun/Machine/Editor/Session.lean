import GoldenRun.Machine.Editor.Syntax
import GoldenRun.Machine.Utility.Basic

/-!
# Editing sessions

A session runs an editing script on the lines of files. It goes in cycles: a line is read into the pattern
space, the commands are done in order, and at the end the pattern space is written.

* `Substitution.apply?` replaces matches in a text.
* `EditSession.perform` does one command and says where to go on.
* `EditSession.step` is one step of a session; `EditSession.run` takes steps until the session is over.

A line feed that the last line of a file lacks is written only when something else is written behind it.
-/

namespace GoldenRun.Machine

/-! ## 1. Substitutions -/

/-- A letter in another case. -/
def CaseChange.apply (rule : CaseChange) (c : Char) : Char :=
  match rule with
  | .same => c
  | .upper => c.toUpper
  | .lower => c.toLower

/-- A text in another case. -/
def CaseRule.apply (rule : CaseRule) : List Char → List Char
  | [] => []
  | c :: rest =>
    (if rule.first = .same then rule.all else rule.first).apply c :: rest.map rule.all.apply

/-- What parts of a replacement make of a match. A rule for a first letter is kept for the next part if there
    is no letter yet. -/
def ReplacementPart.expand (group : Nat → List Char) : (kept : CaseChange) → List ReplacementPart → List Char
  | _, [] => []
  | kept, part :: rest =>
    let first := if part.rule.first = .same then kept else part.rule.first
    let text := CaseRule.apply { part.rule with first } part.text
    let behind := if part.text.isEmpty then first else .same
    match part.group with
    | none => text ++ expand group .same rest
    | some n =>
      let found := group n
      let kept := if found.isEmpty && part.rule.first != .same then behind else .same
      text ++ CaseRule.apply { part.rule with first := behind } found ++ expand group kept rest

/-- A text with matches replaced, if there are any to be replaced. -/
def Substitution.apply? (substitution : Substitution) (regex : Regex) (text : List Char) : Option (List Char) :=
  let start : Spot := { after := text }
  let found := (regex.allMatches (text.length + 2) none start).drop (substitution.first - 1)
  let found := if substitution.global then found else found.take 1
  if found.isEmpty then none
  else
    let (shown, stop) := found.foldl (fun (shown, place) (start, stop) =>
      let group (n : Nat) : List Char :=
        if n = 0 then stop.textSince start.offset else (stop.groups.lookup n).getD []
      let part := start.textSince place.offset ++ ReplacementPart.expand group .same substitution.parts
      (part.reverse ++ shown, stop)) (([] : List Char), start)
    some (shown.reverse ++ stop.after)

/-! ## 2. Lists of characters -/

/-- A character as it is shown by the command `l`. -/
def visibleChar (c : Char) : List Char :=
  match c with
  | '\\' => ['\\', '\\']
  | '\x07' => ['\\', 'a']
  | '\x08' => ['\\', 'b']
  | '\x0c' => ['\\', 'f']
  | '\n' => ['\\', 'n']
  | '\r' => ['\\', 'r']
  | '\t' => ['\\', 't']
  | '\x0b' => ['\\', 'v']
  | c =>
    if ' ' ≤ c && c ≤ '~' then [c]
    else
      let digit (n : Nat) : Char := Char.ofNat (48 + n % 8)
      ['\\', digit (c.toNat / 64), digit (c.toNat / 8), digit c.toNat]

/-- A text shown in lines of the given width; a backslash ends all but the last, and `$` stands behind the
    text. The width 0 stands for any. -/
def visibleText (width : Nat) (ending : Char) (text : List Char) : List Char :=
  let (shown, _) := text.foldl (fun (shown, column) c =>
    let part := visibleChar c
    if width != 0 && width - 1 < column + part.length then (part.reverse ++ ending :: '\\' :: shown, part.length)
    else (part.reverse ++ shown, column + part.length)) (([] : List Char), 0)
  (ending :: '$' :: shown).reverse

/-! ## 3. Sessions -/

/-- A text and whether a line feed ended it where it was read. -/
structure EditLine where
  text : List Char := []
  ended : Bool := true
  deriving DecidableEq, Repr, Inhabited

/-- Where something is written. -/
inductive EditOutlet where
  | out
  /-- The same, but reached by its name; what the one left unended does not matter to the other. -/
  | namedOut
  | err
  | file (path : String)
  /-- The new content of the file that is edited. -/
  | edited
  deriving DecidableEq, Repr

/-- What is written when the next line is read. -/
inductive Supplement where
  | text (text : List Char)
  | file (path : String)
  deriving DecidableEq, Repr

/-- Where a range of lines is. -/
inductive RangeState where
  /-- It has not begun. -/
  | waiting
  /-- It goes on, up to the line of a number if one is given. -/
  | active (last : Option Nat)
  | closed
  deriving DecidableEq, Repr, Inhabited

/-- What a session is to do next. -/
inductive EditStage where
  /-- Read a line. -/
  | reading
  /-- Do the command of a number. -/
  | command (number : Nat)
  | over
  deriving DecidableEq, Repr, Inhabited

/-- How a session is done. -/
structure EditPlan where
  program : EditProgram
  /-- The width of lists. -/
  width : Nat := 70
  /-- Files are edited one by one. -/
  separate : Bool := false
  /-- Files get their new content; the text tells what becomes of the old one. -/
  inPlace : Option String := none
  /-- What ends a line. -/
  ending : Char := '\n'
  /-- A script that wants another line where there is none does not write the pattern space. -/
  strict : Bool := false
  /-- What is not used of the input is left there. -/
  leavesInput : Bool := false
  /-- The beginning of a message about the script. -/
  scriptPlace : String := ""

/-- A session. -/
structure EditSession where
  pattern : EditLine := {}
  held : EditLine := {}
  lineNumber : Nat := 0
  replaced : Bool := false
  lastRegex : Option Regex := none
  ranges : Array RangeState
  supplements : List Supplement := []
  stage : EditStage := .reading
  /-- Files that are still to be read. -/
  waiting : List String
  /-- The file that is read. -/
  current : Option String := none
  /-- What is left of it. -/
  rest : List Char := []
  /-- What comes over and over when nothing is left. -/
  refill : List Char := []
  /-- The next file begins anew. -/
  isFresh : Bool := false
  input : Source
  files : FileTree
  /-- What is left of files that are read line by line. -/
  readers : List (String × List Char) := []
  /-- Outlets whose last line has not ended. -/
  unended : List EditOutlet := []
  /-- What was written to files. -/
  written : List (String × Bytes) := []
  /-- The new content of the file that is edited, backwards. -/
  edited : List (List Char) := []
  /-- What was said, the newest first. -/
  said : List (Outlet × Bytes) := []
  /-- A file could not be read. -/
  refused : Bool := false
  code : Nat := 0
  /-- How much was done. -/
  effort : Nat := 0

namespace EditSession

/-! ## 4. Writing -/

/-- The text is written as it is. -/
def put (session : EditSession) (outlet : EditOutlet) (text : List Char) : EditSession :=
  let bytes := text.map ByteText.byteOf
  match outlet with
  | .out | .namedOut => { session with said := (.out, bytes) :: session.said }
  | .err => { session with said := (.err, bytes) :: session.said }
  | .edited => { session with edited := text :: session.edited }
  | .file path =>
    let content := (session.written.lookup path).getD [] ++ bytes
    { session with
      written := (path, content) :: session.written.filter (·.1 != path)
      files := ((session.files.write (ByteText.toBytes path) content).toOption).getD session.files }

variable (plan : EditPlan)

/-- The last line of an outlet is ended. -/
def endLine (session : EditSession) (outlet : EditOutlet) : EditSession :=
  if session.unended.contains outlet then
    { session.put outlet [plan.ending] with unended := session.unended.filter (· != outlet) }
  else session

/-- A text is written behind whole lines. -/
def write (session : EditSession) (outlet : EditOutlet) (text : List Char) : EditSession :=
  (session.endLine plan outlet).put outlet text

/-- A line is written, with an end if it had one. -/
def writeLine (session : EditSession) (outlet : EditOutlet) (line : EditLine) : EditSession :=
  let session := session.write plan outlet line.text
  if line.ended then session.put outlet [plan.ending]
  else { session with unended := outlet :: session.unended }

/-- Where lines are written. -/
def mainOutlet : EditOutlet :=
  if plan.inPlace.isSome then .edited else .out

/-- The outlet of a name. -/
def outletOf (path : String) : EditOutlet :=
  if path = "/dev/stdout" then .namedOut else if path = "/dev/stderr" then .err else .file path

/-- A text is written where lines are. -/
def say (session : EditSession) (text : List Char) : EditSession :=
  session.write plan (mainOutlet plan) text

/-- The lines of a script are written where lines are. -/
def sayLines (session : EditSession) (text : List Char) : EditSession :=
  if text.isEmpty then session else session.say plan (text.dropLast ++ [plan.ending])

/-- The pattern space is written where lines are. -/
def showPattern (session : EditSession) : EditSession :=
  session.writeLine plan (mainOutlet plan) session.pattern

/-- The pattern space is written unless lines are written on demand only. -/
def showUnlessSilent (session : EditSession) : EditSession :=
  if plan.program.silent then session else session.showPattern plan

/-- A message about something other than a line. -/
def complain (session : EditSession) (text : String) : EditSession :=
  session.put .err ("sed: " ++ text ++ "\n").toList

/-- The session is over for a reason. -/
def abort (session : EditSession) (code : Nat) (text : String) : EditSession :=
  { session.complain text with stage := .over, code, refused := false, edited := [], current := none }

/-- What there is at a path, as far as it ends. -/
def contentOf (session : EditSession) (path : String) : List Char :=
  if path = "/dev/stdin" then (session.input.all?.getD []).map ByteText.charOf
  else
    match Source.ofPath session.files path with
    | .ok source => (source.all?.getD []).map ByteText.charOf
    | .error _ => []

/-- What there is at a path is written where lines are. -/
def insertFile (session : EditSession) (path : String) : EditSession :=
  let session := session.say plan (session.contentOf path)
  if path = "/dev/stdin" then { session with input := .bytes [] } else session

/-- What was kept for the end of the cycle is written. -/
def writeSupplements (session : EditSession) : EditSession :=
  let session := session.supplements.foldl (fun session supplement =>
    match supplement with
    | .text text => session.say plan text
    | .file path => session.insertFile plan path) session
  { session with supplements := [] }

/-! ## 5. Reading -/

/-- The ranges of all commands before the first line. One that begins at the line 0 goes on already. -/
def freshRanges : Array RangeState :=
  plan.program.commands.map fun command =>
    match command.scope with
    | .range (.line 0) _ => .active none
    | _ => .waiting

/-- The name of the copy of a file that is edited; a star in the ending stands for the last part of the
    path. -/
def backupName (ending path : String) : String :=
  let directory := (path.toList.reverse.dropWhile (· != '/')).reverse
  let name := path.toList.drop directory.length
  let backup := if ending.toList.contains '*' then
      ending.toList.flatMap fun c => if c = '*' then name else [c]
    else name ++ ending.toList
  String.ofList (if backup.contains '/' then backup else directory ++ backup)

/-- The file that is read is left; if it is edited, it gets its new content. -/
def close (session : EditSession) : EditSession :=
  let closed := { session with
    current := none, rest := [], refill := [], edited := [], isFresh := plan.separate
    unended := session.unended.filter (· != .edited) }
  match session.current, plan.inPlace with
  | some path, some ending =>
    let name := ByteText.toBytes path
    let content := session.edited.reverse.flatten.map ByteText.byteOf
    match session.files.find true name, session.files.find false name, session.files.locate false name with
    | .ok (.file attributes _), .ok old, .ok location =>
      let new := Node.file { attributes with modified := session.files.clock } content
      if ending.isEmpty then { closed with files := session.files.assign location (some new) }
      else
        match session.files.locate false (ByteText.toBytes (backupName ending path)) with
        | .error cause => closed.abort 4 ("cannot rename " ++ path ++ ": " ++ cause.message)
        | .ok backup =>
          { closed with files := (session.files.assign backup (some old)).assign location (some new) }
    | _, _, _ => closed
  | _, _ => closed

/-- The first file that waits is opened. -/
def openNext (session : EditSession) : EditSession :=
  match session.waiting with
  | [] => session
  | path :: waiting =>
    let session := { session with waiting }
    let session := if session.isFresh then
        { session with
          isFresh := false, lineNumber := 0, held := { session.held with text := [] }, readers := []
          ranges := freshRanges plan }
      else session
    let refuse (cause : Errno) : EditSession :=
      { session.complain ("can't read " ++ path ++ ": " ++ cause.message) with refused := true }
    if plan.inPlace.isSome then
      match session.files.find true (ByteText.toBytes path) with
      | .error cause => refuse cause
      | .ok (.file _ content) =>
        { session with current := some path, rest := content.map ByteText.charOf, edited := [] }
      | .ok _ => session.abort 4 ("couldn't edit " ++ path ++ ": not a regular file")
    else
      let source := if path = "-" then .ok session.input else Source.ofPath session.files path
      let session := if path = "-" then { session with input := .bytes [] } else session
      match source with
      | .ok (.bytes content) => { session with current := some path, rest := content.map ByteText.charOf }
      | .ok (.cycle content) =>
        { session with current := some path, refill := content.map ByteText.charOf }
      | .ok .silent => { session with stage := .over, effort := Nat.pow 10 9 }
      | .ok (.refusing cause) =>
        session.abort 4 ("read error on stdin: " ++ cause.message)
      | .error cause =>
        if cause = Errno.isDirectory then
          session.abort 4 ("read error on " ++ path ++ ": " ++ cause.message)
        else refuse cause

/-- There is something left of the file that is read. -/
def hasMore (session : EditSession) : Bool :=
  !session.rest.isEmpty || !session.refill.isEmpty

/-- The next file with something in it is opened. Directories are passed over. `fuel` covers the files. -/
def openFilled : (fuel : Nat) → EditSession → EditSession
  | 0, session => session
  | fuel + 1, session =>
    match session.waiting with
    | [] => session
    | path :: waiting =>
      if path != "-" && session.files.isDir (ByteText.toBytes path) then
        openFilled fuel { session with waiting }
      else
        let session := session.openNext plan
        if session.hasMore || session.stage = .over then session else openFilled fuel session

/-- The session, and whether no line is left to read. With separate files only the one that is read counts. -/
def isAtEnd (session : EditSession) : EditSession × Bool :=
  if session.hasMore then (session, false)
  else if plan.separate then (session, true)
  else
    let session := session.openFilled plan session.waiting.length
    (session, !session.hasMore)

/-- The first line of a text, and the rest. -/
def firstLine (ending : Char) (text : List Char) : EditLine × List Char :=
  let line := text.takeWhile (· != ending)
  match text.drop line.length with
  | [] => ({ text := line, ended := false }, [])
  | _ :: rest => ({ text := line }, rest)

/-- A line is read into the pattern space, or put behind what is there. `fuel` covers the files. -/
def readLine (joined : Bool) : (fuel : Nat) → EditSession → EditSession × Bool
  | 0, session => (session, false)
  | fuel + 1, session =>
    if session.stage = .over then (session, false)
    else if session.current.isSome then
      let session :=
        if session.refill.isEmpty || session.rest.contains plan.ending then session
        else { session with rest := session.rest ++ session.refill }
      if session.rest.isEmpty then readLine joined fuel (session.close plan)
      else
        let (line, rest) := firstLine plan.ending session.rest
        let text := if joined then session.pattern.text ++ plan.ending :: line.text else line.text
        ({ session with rest, pattern := { line with text }, lineNumber := session.lineNumber + 1 }, true)
    else if session.waiting.isEmpty then (session, false)
    else readLine joined fuel (session.openNext plan)

/-- A line is read after what was kept for the end of the cycle was written. -/
def advance (joined : Bool) (session : EditSession) : EditSession × Bool :=
  let session := { session.writeSupplements plan with replaced := false }
  session.readLine plan joined (2 * session.waiting.length + 3)

/-! ## 6. Addresses -/

/-- The expression that is meant, which is the last one that was used if none is given. -/
def regexOf? (session : EditSession) (pattern : Option Regex) : EditSession × Option Regex :=
  match pattern with
  | some regex => ({ session with lastRegex := some regex }, some regex)
  | none => (session, session.lastRegex)

/-- The script is at fault while it runs. -/
def faulty (session : EditSession) (fault : EditFault) : EditSession :=
  { session with
    said := (.err, ByteText.toBytes ("sed: " ++ plan.scriptPlace ++ ": " ++ fault.message ++ "\n")) :: session.said
    stage := .over
    code := 1
    refused := false
    edited := []
    current := none }

/-- Whether the line is at an address. -/
def isAt (session : EditSession) (address : EditAddress) : EditSession × Bool :=
  match address with
  | .line number => (session, session.lineNumber = number)
  | .step first size =>
    (session, first ≤ session.lineNumber && (session.lineNumber - first) % size = 0)
  | .last => session.isAtEnd plan
  | .found pattern =>
    match session.regexOf? pattern with
    | (session, none) => (session.faulty plan .noPattern, false)
    | (session, some regex) => (session, regex.occursIn session.pattern.text)

/-- What becomes of a range at its first line of the number `n`. -/
def rangeBehind (n : Nat) : EditLimit → RangeState
  | .address (.line last) => if last ≤ n then .waiting else .active (some last)
  | .address (.step first size) =>
    if first ≤ n && (n - first) % size = 0 then .closed else .active none
  | .address _ => .active none
  | .lines count => if count = 0 then .closed else .active (some (n + count))
  | .multiple divisor => if divisor = 0 then .closed else .active (some (n + divisor - n % divisor))

/-- Whether a range that has not begun begins at the line. One from a number on also begins at a later line,
    but not behind the number that it ends with, and only once. -/
def begins (session : EditSession) (state : RangeState) (first : EditAddress) (limit : EditLimit) :
    EditSession × Bool :=
  match first with
  | .line number =>
    let isPast := match limit with
      | .address (.line last) => last < session.lineNumber
      | _ => false
    (session, state != .closed &&
      (session.lineNumber = number || (number < session.lineNumber && !isPast)))
  | first => session.isAt plan first

/-- Whether the command of a number is for the line. -/
def isFor (session : EditSession) (number : Nat) : EditScope → EditSession × Bool
  | .all => (session, true)
  | .lines address => session.isAt plan address
  | .range first limit =>
    let enter (session : EditSession) (state : RangeState) : EditSession :=
      { session with ranges := session.ranges.modify number fun _ => state }
    match session.ranges.getD number .waiting, limit with
    | .active (some last), limit =>
      let isPast := match limit with
        | .address _ => last < session.lineNumber
        | _ => false
      (if last ≤ session.lineNumber then enter session .closed else session, !isPast)
    | .active none, .address address =>
      let (session, isLast) := session.isAt plan address
      (if isLast then enter session .closed else session, true)
    | .active none, _ => (session, true)
    | state, limit =>
      let (session, isFirst) := session.begins plan state first limit
      if isFirst then (enter session (rangeBehind session.lineNumber limit), true) else (session, false)

/-! ## 7. Commands -/

/-- The first line of the pattern space. -/
def firstPart (session : EditSession) : EditLine :=
  let line := session.pattern.text.takeWhile (· != plan.ending)
  { text := line, ended := session.pattern.ended || line.length != session.pattern.text.length }

/-- One text put behind another, or in place of it. -/
def copied (joined : Bool) (source target : EditLine) : EditLine :=
  if joined then { source with text := target.text ++ plan.ending :: source.text } else source

/-- Matches in the pattern space are replaced. -/
def substitute (session : EditSession) (substitution : Substitution) : EditSession :=
  match session.regexOf? substitution.pattern with
  | (session, none) => session.faulty plan .noPattern
  | (session, some regex) =>
    let highest := Substitution.highestGroup substitution.parts
    if regex.groupCount < highest then session.faulty plan (.missingGroup highest)
    else
      match substitution.apply? regex session.pattern.text with
      | none => session
      | some text =>
        let session := { session with replaced := true, pattern := { session.pattern with text } }
        let session := if substitution.printed then session.showPattern plan else session
        match substitution.output with
        | some path => session.writeLine plan (outletOf path) session.pattern
        | none => session

/-- The end of a cycle. -/
def endCycle (session : EditSession) (isShown : Bool) : EditSession :=
  { if isShown then session.showUnlessSilent plan else session with stage := .reading }

/-- The session is over and the file that is edited gets its new content. -/
def finish (session : EditSession) : EditSession :=
  let session := session.writeSupplements plan
  let closed := { session.close plan with stage := .over }
  if session.current = some "-" && plan.leavesInput then
    { closed with input := .bytes (session.rest.map ByteText.byteOf) }
  else closed

/-- What a command does; `next` is the stage behind it. -/
def perform (session : EditSession) (number : Nat) (action : EditAction) : EditSession :=
  let next := { session with stage := .command (number + 1) }
  match action with
  | .block _ | .nothing | .execute _ => next
  | .jump rule label =>
    let target := { next with stage := .command ((plan.program.target? label).getD plan.program.commands.size) }
    match rule with
    | .always => target
    | .replaced => if session.replaced then { target with replaced := false } else next
    | .unreplaced => if session.replaced then { next with replaced := false } else target
  | .text .before text => next.sayLines plan text
  | .text .behind text => { next with supplements := session.supplements ++ [.text text] }
  | .text .instead text =>
    let isActive := match session.ranges.getD number .waiting with
      | .active _ => true
      | _ => false
    (if isActive then session else session.sayLines plan text).endCycle plan false
  | .lineNumber => next.say plan ((toString session.lineNumber).toList ++ [plan.ending])
  | .fileName => next.say plan ((session.current.getD "-").toList ++ [plan.ending])
  | .list width => next.say plan (visibleText (width.getD plan.width) plan.ending session.pattern.text)
  | .print first =>
    if first then next.writeLine plan (mainOutlet plan) (session.firstPart plan) else next.showPattern plan
  | .delete first =>
    let line := session.firstPart plan
    if first && line.text.length != session.pattern.text.length then
      { session with
        pattern := { session.pattern with text := session.pattern.text.drop (line.text.length + 1) }
        stage := .command 0 }
    else session.endCycle plan false
  | .next joined =>
    let (session, isEnd) := session.isAtEnd plan
    if isEnd then
      session.endCycle plan (!joined || !plan.strict)
    else
      let session := if joined then session else session.showUnlessSilent plan
      let (session, isRead) := session.advance plan joined
      { session with
        stage := if session.stage = .over then .over else if isRead then .command (number + 1) else .reading }
  | .hold joined => { next with held := copied plan joined session.pattern session.held }
  | .fetch joined => { next with pattern := copied plan joined session.held session.pattern }
  | .exchange => { next with pattern := session.held, held := session.pattern }
  | .clear => { next with pattern := { session.pattern with text := [] } }
  | .quit code shown =>
    let session :=
      if shown then (session.showUnlessSilent plan).endLine plan (mainOutlet plan)
      else { session with supplements := [] }
    { session.finish plan with code }
  | .readFile path => { next with supplements := session.supplements ++ [.file path] }
  | .insertFile path => next.insertFile plan path
  | .readLine path =>
    let rest := match session.readers.lookup path with
      | some rest => rest
      | none => session.contentOf path
    let next := if path = "/dev/stdin" then { next with input := .bytes [] } else next
    let (line, behind) := firstLine plan.ending rest
    let text := if line.ended then line.text ++ [plan.ending] else line.text
    { next with
      readers := (path, behind) :: session.readers.filter (·.1 != path)
      supplements := session.supplements ++ if rest.isEmpty then [] else [.text text] }
  | .write first path =>
    next.writeLine plan (outletOf path) (if first then session.firstPart plan else session.pattern)
  | .substitute substitution => next.substitute plan substitution
  | .translate pairs =>
    let table := pairs.reverse
    { next with
      pattern := { session.pattern with text := session.pattern.text.map fun c => (table.lookup c).getD c } }

/-- The command of a number is done if it is for the line; a block that is not is passed over. -/
def command (session : EditSession) (number : Nat) : EditSession :=
  match plan.program.commands[number]? with
  | none => session.endCycle plan true
  | some command =>
    let (session, isFor) := session.isFor plan number command.scope
    if session.stage = .over then session
    else if isFor != command.negated then session.perform plan number command.action
    else
      match command.action with
      | .block behind => { session with stage := .command behind }
      | _ => { session with stage := .command (number + 1) }

/-! ## 8. Runs -/

/-- One step. -/
def step (session : EditSession) : EditSession :=
  let session := { session with effort := session.effort + 1 + session.pattern.text.length }
  match session.stage with
  | .over => session
  | .command number => session.command plan number
  | .reading =>
    let (session, isRead) := session.advance plan false
    if session.stage = .over then session
    else if isRead then { session with stage := .command 0 }
    else session.finish plan

/-- How much a session does before it counts as one without an end. -/
def maxEffort : Nat := 4000000

/-- Steps until the session is over, or has done too much. `fuel` covers the effort. -/
def run : (fuel : Nat) → EditSession → EditSession
  | 0, session => session
  | fuel + 1, session =>
    if session.stage = .over || maxEffort < session.effort then session else run fuel (session.step plan)

end EditSession

end GoldenRun.Machine
