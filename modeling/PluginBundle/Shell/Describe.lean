import PluginBundle.Shell.Builtin
import PluginBundle.Shell.Lookup

/-!
# What names stand for

A name may stand for a word of the language, another text, a function, a command of the shell or a
program, and the first of these that there is counts.
-/

namespace PluginBundle.Shell

/-- What a name stands for. -/
inductive Meaning where
  | keyword
  | shorthand (text : List Char)
  | function
  | builtin (special : Bool)
  | program (path : List Char)
  | nothing
  deriving DecidableEq, Repr

/-- The words of the language. -/
def keywords : List String :=
  ["!", "case", "do", "done", "elif", "else", "esac", "fi", "for", "if", "in", "then", "until",
   "while", "\x7b", "\x7d"]

def extendedKeywords : List String := ["[[", "]]", "function", "select", "time", "coproc"]

namespace State

def isKeyword (s : State) (name : List Char) : Bool :=
  let text := String.ofList name
  keywords.contains text || (!s.isPlain && extendedKeywords.contains text)

/-- The program that a name stands for, if its file can be run. -/
def programMeaning (s : State) (name : List Char) : Meaning :=
  match s.program name with
  | .found file =>
      if s.world.disk.isExecutableFile s.cwd (path file) then .program file
      else if s.isPlain && s.world.disk.resolve s.cwd (path file) matches .ok _ then .program file
      else .nothing
  | _ => .nothing

def meaning (s : State) (name : List Char) : Meaning :=
  if s.isKeyword name then .keyword
  else
    match s.aliases.lookup name, s.functions.lookup name with
    | some text, _ => .shorthand text
    | none, some _ => .function
    | none, none =>
        if isBuiltin s name then .builtin (isSpecial s name) else s.programMeaning name

end State

namespace Builtin

/-- A meaning in words. -/
def meaningText (s : State) (name : List Char) (m : Meaning) : List Char :=
  name ++
    match m with
    | .keyword => ofText " is a shell keyword"
    | .shorthand text =>
        if s.isPlain then ofText " is an alias for " ++ text
        else ofText " is aliased to \x60" ++ text ++ ofText "'"
    | .function => ofText (if s.isPlain then " is a shell function" else " is a function")
    | .builtin special =>
        ofText (if special then " is a special shell builtin" else " is a shell builtin")
    | .program path => ofText " is " ++ path
    | .nothing => ofText ": not found"

/-- The kind of a meaning in one word. -/
def meaningKind : Meaning → String
  | .keyword => "keyword"
  | .shorthand _ => "alias"
  | .function => "function"
  | .builtin _ => "builtin"
  | .program _ => "file"
  | .nothing => ""

/-- Says what a name stands for in words. -/
def describe (name : List Char) : Act Unit := do
  let s ← get
  let m := s.meaning name
  if m = .nothing && !s.isPlain then
    Act.complain (name ++ ofText ": not found")
    Act.setStatus 1
  else
    Act.print (meaningText s name m ++ ['\n'])
    if m = .nothing then Act.setStatus 127

/-- Says how a name would be called. -/
def nameCall (name : List Char) : Act Unit := do
  let s ← get
  match s.meaning name with
  | .shorthand text => Act.print (ofText "alias " ++ name ++ ['='] ++ inQuotes text ++ ['\n'])
  | .program path => Act.print (path ++ ['\n'])
  | .nothing => Act.setStatus (if s.isPlain then 127 else 1)
  | _ => Act.print (name ++ ['\n'])

/-- Says in words what names stand for. -/
def typeNames (words : List (List Char)) : Act Unit := do
  let (letters, names) ←
    if (← get).isPlain then pure ([], words)
    else options "afptP".toList [] (optionFuel words) words
  succeed
  for name in names do
    let s ← get
    let m := s.meaning name
    if letters.any (·.1 == 't') then
      if m = .nothing then Act.setStatus 1
      else Act.print (ofText (meaningKind m) ++ ['\n'])
    else if letters.any fun l => l.1 == 'p' || l.1 == 'P' then
      match m with
      | .program path => Act.print (path ++ ['\n'])
      | _ => if m = .nothing then Act.setStatus 1
    else describe name

/-- Says what a name stands for. The plain dialect looks at the first name only. -/
def commandNames (words : List (List Char)) : Act Unit := do
  let (letters, names) ← options ['p', 'v', 'V'] [] (optionFuel words) words
  let names := if (← get).isPlain then names.take 1 else names
  succeed
  for name in names do
    if letters.any (·.1 == 'V') then describe name
    else if letters.any (·.1 == 'v') then nameCall name

end Builtin

end PluginBundle.Shell
