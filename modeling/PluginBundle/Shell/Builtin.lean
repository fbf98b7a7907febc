import PluginBundle.Shell.Builtin.Input
import PluginBundle.Shell.Builtin.Process
import PluginBundle.Shell.Builtin.Variables

/-!
# The table of the shell's own commands

Commands that run other ones are not in the table; their names are listed beside it.
-/

namespace PluginBundle.Shell

namespace Builtin

/-- The commands of both dialects. -/
def table : List (String × Builtin) :=
  [(":", ⟨true, fun _ => succeed⟩), ("true", ⟨false, fun _ => succeed⟩),
   ("false", ⟨false, fun _ => Act.setStatus 1⟩), ("echo", ⟨false, echo⟩),
   ("printf", ⟨false, printf⟩), ("test", ⟨false, testWords⟩), ("[", ⟨false, bracketTest⟩),
   ("read", ⟨false, readLine⟩), ("export", ⟨true, markExported⟩),
   ("readonly", ⟨true, markReadonly⟩), ("unset", ⟨true, unsetNames⟩),
   ("local", ⟨true, keepLocal⟩), ("shift", ⟨true, shiftArguments⟩), ("set", ⟨true, changeOptions⟩),
   ("getopts", ⟨false, getopts⟩), ("cd", ⟨false, changeDirectory⟩),
   ("chdir", ⟨false, changeDirectory⟩), ("pwd", ⟨false, printDirectory⟩),
   ("kill", ⟨false, sendSignals⟩), ("trap", ⟨true, trap⟩), ("wait", ⟨false, wait⟩),
   ("umask", ⟨false, umask⟩), ("ulimit", ⟨false, ulimit⟩), ("times", ⟨true, fun _ => succeed⟩),
   ("hash", ⟨false, findPrograms⟩), ("jobs", ⟨false, fun _ => succeed⟩),
   ("bg", ⟨false, noJob⟩), ("fg", ⟨false, noJob⟩), ("alias", ⟨false, aliasNames⟩),
   ("unalias", ⟨false, unaliasNames⟩)]

/-- More commands of the larger dialect. Those for work at a terminal do nothing. -/
def extendedTable : List (String × Builtin) :=
  [("declare", ⟨false, declare⟩), ("typeset", ⟨false, declare⟩), ("let", ⟨false, calculateAll⟩),
   ("mapfile", ⟨false, readLines⟩), ("readarray", ⟨false, readLines⟩),
   ("pushd", ⟨false, pushDirectory⟩), ("popd", ⟨false, popDirectory⟩),
   ("dirs", ⟨false, listDirectories⟩), ("shopt", ⟨false, changeSwitches⟩),
   ("caller", ⟨false, showCaller⟩), ("disown", ⟨false, fun _ => succeed⟩),
   ("enable", ⟨false, fun _ => succeed⟩), ("bind", ⟨false, fun _ => succeed⟩),
   ("compgen", ⟨false, fun _ => succeed⟩), ("complete", ⟨false, fun _ => succeed⟩),
   ("compopt", ⟨false, fun _ => succeed⟩), ("fc", ⟨false, fun _ => succeed⟩),
   ("help", ⟨false, fun _ => succeed⟩), ("history", ⟨false, fun _ => succeed⟩),
   ("logout", ⟨false, fun _ => succeed⟩), ("suspend", ⟨false, fun _ => succeed⟩)]

/-- Commands that run other ones, or decide how the script goes on. -/
def runningNames : List String :=
  ["eval", "exec", ".", "command", "exit", "return", "break", "continue", "type"]

def specialRunning : List String :=
  ["eval", "exec", ".", "exit", "return", "break", "continue"]

end Builtin

/-- The command of a name that is in the table. -/
def builtin? (s : State) (name : List Char) : Option Builtin :=
  let text := String.ofList name
  if s.isPlain then Builtin.table.lookup text
  else if text = "chdir" then none
  else Builtin.extendedTable.lookup text <|> Builtin.table.lookup text

/-- The name is that of a command of the shell itself. -/
def isBuiltin (s : State) (name : List Char) : Bool :=
  (builtin? s name).isSome || Builtin.runningNames.contains (String.ofList name)
    || (!s.isPlain && (name == "source".toList || name == "builtin".toList))

/-- An error of the command ends the script. -/
def isSpecial (s : State) (name : List Char) : Bool :=
  let isRunning := Builtin.specialRunning.contains (String.ofList name)
  s.isPlain && ((builtin? s name).any (·.special) || isRunning)

end PluginBundle.Shell
