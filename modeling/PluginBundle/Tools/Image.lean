import PluginBundle.Files.Disk
import PluginBundle.Text.Bytes

/-!
# The files of system programs

A system program is known by the contents of its file, so that a copy of the file is the program
too. The programs stand in two directories.
-/

namespace PluginBundle.Tools

/-- What the files of programs start with. -/
def imageMark : List Char := ['\x7f', 'E', 'L', 'F', '\x00']

/-- The contents of the file of a program. -/
def image (name : String) : ByteArray := toBytes (imageMark ++ name.toList)

/-- The names of the system programs. -/
def names : List String :=
  ["sh", "dash", "bash", "[", "base64", "basename", "cat", "chmod", "cmp", "comm", "cp", "cut",
   "dirname", "echo", "egrep", "env", "expr", "false", "fgrep", "find", "fold", "grep", "head",
   "ls", "mkdir", "mktemp", "mv", "nice", "nl", "nohup", "paste", "printenv", "printf", "pwd",
   "readlink", "realpath", "rev", "rm", "rmdir", "sed", "seq", "sha256sum", "sleep", "sort",
   "sync", "tac", "tail", "tee", "test", "timeout", "touch", "tr", "true", "uname", "uniq", "wc",
   "which", "whoami", "xargs", "yes"]

/-- The program of a file. -/
def ofImage? (contents : ByteArray) : Option String :=
  let cs := ofBytes contents
  if imageMark.isPrefixOf cs then
    let name := String.ofList (cs.drop imageMark.length)
    if names.contains name then some name else none
  else none

def isProgram (contents : ByteArray) : Bool := (ofImage? contents).isSome

/-- The directories of system programs with the programs in them. -/
def entries : List (Place × Entry) :=
  let programs (dir : Place) := names.map fun name => (dir ++ [name], Entry.file (image name) true)
  [(["bin"], .directory), (["usr"], .directory), (["usr", "bin"], .directory)]
    ++ programs ["bin"] ++ programs ["usr", "bin"]

end PluginBundle.Tools
