/-!
# Why a file operation failed

The causes that the operating system reports, with their numbers and texts, and the ones that are
found without asking it.
-/

namespace PluginBundle

/-- A cause reported by the operating system. -/
inductive SystemCause where
  | notFound
  | argumentsTooLong
  | execFormat
  | permissionDenied
  | alreadyExists
  | notADirectory
  | isADirectory
  | nameTooLong
  | directoryNotEmpty
  | tooManyLinks
  deriving DecidableEq, Repr

namespace SystemCause

def code : SystemCause → Nat
  | .notFound => 2
  | .argumentsTooLong => 7
  | .execFormat => 8
  | .permissionDenied => 13
  | .alreadyExists => 17
  | .notADirectory => 20
  | .isADirectory => 21
  | .nameTooLong => 36
  | .directoryNotEmpty => 39
  | .tooManyLinks => 40

def describe : SystemCause → String
  | .notFound => "No such file or directory"
  | .argumentsTooLong => "Argument list too long"
  | .execFormat => "Exec format error"
  | .permissionDenied => "Permission denied"
  | .alreadyExists => "File exists"
  | .notADirectory => "Not a directory"
  | .isADirectory => "Is a directory"
  | .nameTooLong => "File name too long"
  | .directoryNotEmpty => "Directory not empty"
  | .tooManyLinks => "Too many levels of symbolic links"

end SystemCause

/-- Why a file could not be read, written, removed or run. -/
inductive IoError where
  | system (cause : SystemCause)
  /-- A text was wanted and the bytes are none. -/
  | notText
  /-- The path holds the character that ends a name. -/
  | nulInPath
  /-- A text for a process holds that character. -/
  | nulInData
  /-- A cause with a text of its own. -/
  | denied (reason : String)
  deriving DecidableEq, Repr

def IoError.message : IoError → String
  | .system cause => cause.describe ++ " (os error " ++ Nat.repr cause.code ++ ")"
  | .notText => "stream did not contain valid UTF-8"
  | .nulInPath => "file name contained an unexpected NUL byte"
  | .nulInData => "nul byte found in provided data"
  | .denied reason => reason

end PluginBundle
