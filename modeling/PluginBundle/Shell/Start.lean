import PluginBundle.Shell.Run

/-!
# Starting a shell

A shell takes options, and then a script: a text behind `-c`, the file that the first argument
names, or its input.
-/

namespace PluginBundle.Shell

/-- What a shell was asked for. -/
structure Request where
  /-- The script is an argument. -/
  fromText : Bool
  arguments : List (List Char)

namespace Act

/-- The options at the front of the arguments of a shell. Each round takes an argument, so `fuel`
beyond their number is never used up. -/
def startOptions : Nat → Bool → List (List Char) → Act Request
  | 0, fromText, words => return ⟨fromText, words⟩
  | fuel + 1, fromText, words => do
      match words with
      | ['-'] :: rest => return ⟨fromText, rest⟩
      | ['-', '-'] :: rest => return ⟨fromText, rest⟩
      | ('-' :: '-' :: _) :: rest =>
          -- Long options of the larger dialect only say what is read beside the script.
          startOptions fuel fromText rest
      | (sign :: letters) :: rest =>
          if (sign = '-' || sign = '+') && !letters.isEmpty then
            for c in letters do
              if c != 'o' && c != 'c' && !(c = 's' || c = 'l') then
                Builtin.setOption (sign == '-') c
            let fromText := fromText || letters.contains 'c'
            match letters.contains 'o', rest with
            | true, name :: rest =>
                Builtin.setNamedOption (sign == '-') name
                startOptions fuel fromText rest
            | _, rest => startOptions fuel fromText rest
          else return ⟨fromText, words⟩
      | words => return ⟨fromText, words⟩

/-- Sets the variables that a shell starts with. -/
def startVariables : Act Unit := do
  let s ← get
  let set (name : String) (value : List Char) (exported : Bool) : Act Unit :=
    modify fun s => s.setVariable name.toList (.holding value exported)
  set "IFS" [' ', '\t', '\n'] false
  set "OPTIND" ['1'] false
  set "PS4" ['+', ' '] false
  set "PPID" ['1'] false
  set "PWD" (Builtin.placeText s.cwd) true
  if !s.isPlain then
    modify fun s => { s with switches := Builtin.startSwitches }
    set "BASH" "/bin/bash".toList false
    set "BASH_VERSION" "5.2.21(1)-release".toList false
    set "EUID" ['0'] false
    set "UID" ['0'] false
    set "HOSTTYPE" "x86_64".toList false
    set "MACHTYPE" "x86_64-pc-linux-gnu".toList false
    set "OSTYPE" "linux-gnu".toList false
    set "OPTERR" ['1'] false
    set "SHLVL" (Nat.toDigits 10 (((number? (s.value "SHLVL")).getD 0).toNat + 1)) true
  if (s.value? "PATH".toList).isNone then
    set "PATH" "/usr/local/sbin:/usr/local/bin:/usr/sbin:/usr/bin:/sbin:/bin".toList false

/-- The text of the script that a shell was asked to run. -/
def scriptText (r : Request) : Act (List Char) := do
  match r.fromText, r.arguments with
  | true, [] => raise (ofText "-c requires an argument")
  | true, text :: rest =>
      modify fun s => { s with name := rest.headD s.name, arguments := rest.drop 1 }
      return text
  | false, [] =>
      modify fun s => { s with arguments := [] }
      takeInput
  | false, file :: rest =>
      let s ← get
      match s.world.disk.read s.cwd (State.path file) with
      | .ok contents =>
          set { s with name := file, arguments := rest }
          return ofBytes contents
      | .error e =>
          if s.isPlain then
            raise (ofText "cannot open " ++ file ++ ofText ": " ++ ofText (openingCause e))
          else
            printError (s.name ++ [':', ' '] ++ file ++ ofText ": No such file or directory\n")
            setStatus 127
            throw .exit
where
  openingCause : IoError → String
    | .system .notFound => "No such file"
    | .system .notADirectory => "No such file"
    | .system cause => cause.describe
    | e => e.message

/-- What a shell does. -/
def shell (again : Runner) (dialect : Dialect) (words : List (List Char)) : Act Unit := do
  modify fun s => { s with
    dialect := dialect, name := words.headD [], arguments := words.drop 1 }
  startVariables
  toEnd again do
    let r ← startOptions words.length false (words.drop 1)
    let text ← scriptText r
    runText again (if r.fromText then ": -c" else "") 1 text

end Act

end PluginBundle.Shell
