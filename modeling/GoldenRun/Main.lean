import GoldenRun.Machine.Runner
import GoldenRun.Program

/-!
# The command line program

The outer layer: it takes up the current directory, runs the program on the machine with these files,
writes back the files that the run changed, and prints what the program leaves. It decides nothing.

The current directory is taken up without links to directories and without names that are not UTF-8.
-/

namespace GoldenRun.Main

/-- The attributes that a file is taken up with: scripts can be run. -/
def attributesOf (content : Bytes) : Attributes :=
  { mode := if (utf8 "#!").isPrefixOf content then 0o755 else 0o644 }

/-- The nodes of entries that were found in a directory. -/
partial def takeUp (found : Array IO.FS.DirEntry) : IO (List (Bytes × Node)) := do
  let mut entries := []
  for entry in found do
    let node? : Option Node ←
      try
        match (← entry.path.symlinkMetadata).type, (← entry.path.metadata).type with
        | .symlink, .dir => pure none
        | _, .dir => pure (some (.dir .ofDir (← takeUp (← entry.path.readDir))))
        | _, .file =>
          let content := (← IO.FS.readBinFile entry.path).toList
          pure (some (.file (attributesOf content) content))
        | _, _ => pure none
      catch _ => pure none
    if let some node := node? then
      entries := (utf8 entry.fileName, node) :: entries
  return entries

/-- The machine's tree with these entries in its working directory. -/
def treeWith (entries : List (Bytes × Node)) : FileTree :=
  Machine.freshTree.assign Machine.workplace (some (.dir .ofDir entries))

/-- The files of the working directory, by their paths in it. -/
def workFiles (tree : FileTree) : List (Bytes × Bytes) :=
  match tree.at? Machine.workplace with
  | some node => node.files (utf8 ".")
  | none => []

/-- Write the files that a run changed. -/
def writeBack (before after : FileTree) : IO Unit := do
  let old := workFiles before
  for (path, content) in workFiles after do
    unless old.contains (path, content) do
      if let some name := path.decode? then
        IO.FS.writeBinFile name ⟨content.toArray⟩

/-- The environment variables that the program knows, as far as they are set. -/
def environment : IO CommandLine.Environment := do
  let settings := CommandLine.Setting.all.filterMap CommandLine.Setting.envName?
  let switches := CommandLine.Switch.all.filterMap CommandLine.Switch.envName?
  let mut values := []
  for name in "NO_COLOR" :: settings ++ switches do
    if let some value ← IO.getEnv name then
      values := (name, utf8 value) :: values
  let known := values
  return fun name => known.lookup name

/-- The program on the current directory. -/
def run (arguments : List String) : IO UInt32 := do
  let stdout ← IO.getStdout
  let stderr ← IO.getStderr
  let before := treeWith (← takeUp (← (← IO.currentDir).readDir))
  let result := Program.run
    { arguments := arguments.map utf8
      environment := ← environment
      logFilter := (← IO.getEnv "RUST_LOG").map utf8
      terminal := ← stdout.isTty }
    Machine.machineRunner { files := before, memory := () }
  writeBack before result.files
  stdout.write ⟨result.stdout.toArray⟩
  for event in result.log do
    stderr.putStrLn (event.level.name ++ " " ++ event.line)
  stderr.write ⟨result.stderr.toArray⟩
  return UInt32.ofNat result.exitCode.toNat

end GoldenRun.Main

/-- The program. -/
def main (arguments : List String) : IO UInt32 :=
  GoldenRun.Main.run arguments
