import GoldenRun.Files.Tree
import GoldenRun.Machine.Calendar

/-!
# The machine's own files

A fresh machine has devices under `/dev`, programs under `/usr/bin`, where `/bin` leads too, and an
empty directory to work in, which is the current one.

A program's file holds some magic bytes and the program's name.
-/

namespace GoldenRun.Machine

/-- The bytes that a program's file begins with. -/
def magic : Bytes := [0x7F, 0x45, 0x4C, 0x46, 0x02, 0x01, 0x01, 0, 0, 0, 0, 0, 0, 0, 0, 0]

/-- The file of a program. -/
def programFile (name : String) : Node :=
  .file { mode := 0o755 } (magic ++ utf8 name)

/-- The programs of the machine. -/
def programNames : List String :=
  ["sh", "env", "xargs", "find", "timeout", "nohup", "setsid", "stdbuf", "nice", "cat", "echo", "printf", "true", "false", "sleep", "touch", "tr", "cmp", "diff",
    "head", "tail", "sort", "wc", "ls", "test", "[", "rm", "rmdir", "cp", "mv", "mkdir", "basename",
    "dirname", "seq", "tee", "yes", "ln", "chmod", "pwd", "printenv", "cut", "paste", "uniq", "comm", "expr",
    "grep", "egrep", "fgrep", "rgrep", "sed", "tac", "rev", "nl", "fold", "expand", "unexpand", "join",
    "od", "readlink", "realpath", "whoami", "arch", "logname", "tty", "uname", "id", "groups"]

/-- The directory that the machine works in. -/
def workplace : Location := [utf8 "tmp", utf8 "work"]

/-- A fresh machine's file tree. -/
def freshTree : FileTree where
  root := .dir .ofDir [
    (utf8 "bin", .link (utf8 "usr/bin")),
    (utf8 "dev", .dir .ofDir [
      (utf8 "null", .device .null), (utf8 "zero", .device .zero), (utf8 "full", .device .full)]),
    (utf8 "etc", .emptyDir), (utf8 "home", .emptyDir), (utf8 "lib", .link (utf8 "usr/lib")),
    (utf8 "mnt", .emptyDir), (utf8 "opt", .emptyDir), (utf8 "proc", .emptyDir),
    (utf8 "root", .dir { Attributes.ofDir with mode := 0o700 } []), (utf8 "run", .emptyDir),
    (utf8 "sbin", .link (utf8 "usr/sbin")), (utf8 "srv", .emptyDir), (utf8 "sys", .emptyDir),
    (utf8 "tmp", .dir { Attributes.ofDir with mode := 0o1777 } [(utf8 "work", .emptyDir)]),
    (utf8 "usr", .dir .ofDir [
      (utf8 "bin", .dir .ofDir (programNames.map fun name => (utf8 name, programFile name))),
      (utf8 "lib", .emptyDir), (utf8 "local", .dir .ofDir [(utf8 "bin", .emptyDir)]),
      (utf8 "sbin", .emptyDir), (utf8 "share", .emptyDir)]),
    (utf8 "var", .dir .ofDir [(utf8 "tmp", .dir { Attributes.ofDir with mode := 0o1777 } [])])]
  current := workplace
  clock := Calendar.start

end GoldenRun.Machine
