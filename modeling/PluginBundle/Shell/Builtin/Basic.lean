import PluginBundle.Shell.State

/-!
# Commands of the shell itself

Such a command is an action on its arguments. An error of a special one ends the script; an error of
another one only fails it.
-/

namespace PluginBundle.Shell

structure Builtin where
  special : Bool
  run : List (List Char) → Act Unit

namespace Builtin

/-- Ends well. -/
def succeed : Act Unit := Act.setStatus 0

/-- A failure with a message that does not end the script. -/
def fail (status : Nat) (text : List Char) : Act Unit := do
  Act.complain text
  Act.setStatus status

/-- A number that is not negative. -/
def count (word : List Char) : Act Nat :=
  if !word.isEmpty && word.all Char.isDigit then
    return word.foldl (fun n c => n * 10 + (c.toNat - 48)) 0
  else Act.raise (ofText "Illegal number: " ++ word)

/-- How commands of the larger dialect are used. -/
def usages : List (String × String) :=
  [("cd", "[-L|[-P [-e]] [-@]] [dir]"), ("pwd", "[-LP]"),
   ("read", "[-ers] [-a array] [-d delim] [-i text] [-n nchars] [-N nchars] [-p prompt] " ++
      "[-t timeout] [-u fd] [name ...]"),
   ("export", "[-fn] [name[=value] ...] or export -p"),
   ("readonly", "[-aAf] [name[=value] ...] or readonly -p"),
   ("unset", "[-f] [-v] [-n] [name ...]"), ("local", "[option] name[=value] ..."),
   ("declare", "[-aAfFgiIlnrtux] [name[=value] ...] or declare -p [-aAfFilnrtux] [name ...]"),
   ("typeset", "[-aAfFgiIlnrtux] name[=value] ... or typeset -p [-aAfFilnrtux] [name ...]"),
   ("trap", "[-lp] [[arg] signal_spec ...]"), ("umask", "[-p] [-S] [mode]"),
   ("type", "[-afptP] name [name ...]"), ("command", "[-pVv] command [arg ...]"),
   ("shopt", "[-pqsu] [-o] [optname ...]"), ("dirs", "[-clpv] [+N] [-N]"),
   ("pushd", "[-n] [+N | -N | dir]"), ("popd", "[-n] [+N | -N]"),
   ("mapfile", "[-d delim] [-n count] [-O origin] [-s count] [-t] [-u fd] [-C callback] " ++
      "[-c quantum] [array]"),
   ("readarray", "[-d delim] [-n count] [-O origin] [-s count] [-t] [-u fd] [-C callback] " ++
      "[-c quantum] [array]")]

/-- Refuses an option in the larger dialect. -/
def refuseOption {α : Type} (text : List Char) : Act α := do
  fail 2 text
  let name := ((← get).command).getD []
  match usages.lookup (String.ofList name) with
  | some usage =>
      Act.printError (name ++ ofText ": usage: " ++ name ++ ' ' :: ofText usage ++ ['\n'])
  | none => pure ()
  throw .discarded

/-- The letters of options at the front, each with its argument if it takes one, and the words
behind them. -/
def options (known takesArgument : List Char) :
    Nat → List (List Char) → Act (List (Char × List Char) × List (List Char))
  | 0, words => return ([], words)
  | fuel + 1, words =>
      match words with
      | ['-', '-'] :: rest => return ([], rest)
      | ('-' :: c :: letters) :: rest => do
          if takesArgument.contains c then
            match letters, rest with
            | [], argument :: rest =>
                let (more, rest) ← options known takesArgument fuel rest
                return ((c, argument) :: more, rest)
            | [], [] =>
                if (← get).isPlain then
                  Act.raise (ofText "No arg for -" ++ [c] ++ ofText " option")
                else refuseOption (['-', c] ++ ofText ": option requires an argument")
            | argument, rest =>
                let (more, rest) ← options known takesArgument fuel rest
                return ((c, argument) :: more, rest)
          else if known.contains c then
            let rest := if letters.isEmpty then rest else ('-' :: letters) :: rest
            let (more, rest) ← options known takesArgument fuel rest
            return ((c, []) :: more, rest)
          else if (← get).isPlain then Act.raise (ofText "Illegal option -" ++ [c])
          else refuseOption (['-', c] ++ ofText ": invalid option")
      | rest => return ([], rest)

/-- More options than words can spell. -/
def optionFuel (words : List (List Char)) : Nat := words.flatten.length + words.length + 1

end Builtin

end PluginBundle.Shell
