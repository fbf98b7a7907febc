import PluginBundle.Shell.Arithmetic
import PluginBundle.Shell.Builtin.Basic
import PluginBundle.Shell.Glob
import PluginBundle.Shell.Printing

/-!
# Variables, arguments and options

Commands that set variables and mark them, replace the arguments, and turn options on and off.
-/

namespace PluginBundle.Shell.Builtin

/-- A word with a name in front of an equals sign, and the value behind it if there is one. -/
def splitEquals (word : List Char) : List Char × Option (List Char) :=
  let name := word.takeWhile (· != '=')
  (name, if name.length < word.length then some (word.drop (name.length + 1)) else none)

/-- A text between single quotes. -/
def inQuotes (cs : List Char) : List Char :=
  ['\''] ++ cs.flatMap (fun c => if c = '\'' then "'\"'\"'".toList else [c]) ++ ['\'']

/-- Sorts by names. -/
def byName {α : Type} (xs : List (List Char × α)) : List (List Char × α) :=
  xs.mergeSort fun a b => lessBytes a.1 b.1

/-- A text between double quotes. -/
def inDoubleQuotes (cs : List Char) : List Char :=
  let guarded (c : Char) : Bool := c == '"' || c == '$' || c == '\x60' || c == '\\'
  ['"'] ++ cs.flatMap (fun c => if guarded c then ['\\', c] else [c]) ++ ['"']

/-- A value as a declaration shows it. -/
def shownValue (cs : List Char) : List Char :=
  if cs.any fun c => c.toNat < 32 then
    let shown (c : Char) : List Char :=
      match c with
      | '\n' => ['\\', 'n']
      | '\t' => ['\\', 't']
      | '\'' => ['\\', '\'']
      | '\\' => ['\\', '\\']
      | c =>
          let digits := Nat.toDigits 8 c.toNat
          if c.toNat < 32 then '\\' :: (List.replicate (3 - digits.length) '0' ++ digits) else [c]
    ofText "$'" ++ cs.flatMap shown ++ ['\'']
  else inDoubleQuotes cs

/-- The letters of what a variable is marked with. -/
def markLetters (v : Variable) : List Char :=
  let names :=
    match v.names with
    | .single => []
    | .numbers => ['a']
    | .texts => ['A']
  let kind (k : ValueKind) (c : Char) : List Char := if v.kind = k then [c] else []
  names ++ kind .number 'i' ++ (if v.readonly then ['r'] else [])
    ++ (if v.exported then ['x'] else []) ++ kind .lower 'l' ++ kind .upper 'u'

/-- A variable as the command of the larger dialect that declares it. -/
def declaration (name : List Char) (v : Variable) : List Char :=
  let letters := markLetters v
  let letters := if letters.isEmpty then ['-'] else letters
  let element (x : ElementKey × List Char) : List Char :=
    let key := x.1.shown
    let isPlain := !key.isEmpty && key.all fun c => c.isAlphanum || "_-+./:,@%^~".toList.contains c
    ['['] ++ (if isPlain then key else inDoubleQuotes key) ++ ofText "]=" ++ shownValue x.2
  let value :=
    match v.names, v.items with
    | _, [] => []
    | .single, x :: _ => '=' :: shownValue x.2
    | .numbers, _ => ofText "=(" ++ [' '].intercalate (v.elements.map element) ++ [')']
    | .texts, _ => ofText "=(" ++ v.elements.flatMap (fun x => element x ++ [' ']) ++ [')']
  ofText "declare -" ++ letters ++ ' ' :: name ++ value ++ ['\n']

/-- Prints variables as commands that set them. -/
def listVariables (front : String) (kept : Variable → Bool) : Act Unit := do
  let s ← get
  for (name, v) in byName (s.bindings.filter fun b => kept b.2) do
    let value :=
      match v.value? with
      | some text => '=' :: inQuotes text
      | none => []
    if s.isPlain || front.isEmpty then Act.print (front.toList ++ name ++ value ++ ['\n'])
    else Act.print (declaration name v)
  succeed

/-- Refuses what cannot be the name of a variable. -/
def checkName (name shown : List Char) : Act Unit := do
  if !isName name then
    if (← get).isPlain then Act.raise (name ++ ofText ": bad variable name")
    else fail 1 ('\x60' :: shown ++ ofText "': not a valid identifier")

/-- Refuses to change a variable that must stay as it is. -/
def refuseReadonly {α : Type} (name : List Char) : Act α := do
  let outer := (← get).command
  modify fun s => { s with command := none }
  Act.complain (name ++ ofText ": readonly variable")
  modify fun s => { s with command := outer, status := 1 }
  throw .discarded

/-- Gives a variable a value that may be added to the one it has. -/
def giveValue (name : List Char) (text : List Char) : Act Unit := do
  let s ← get
  let v := (s.binding? name).getD .missing
  if v.readonly && !s.isPlain then refuseReadonly name
  else
    let text ←
      match v.kind with
      | .anything => pure text
      | .number => pure (numberText (← Act.calculation text))
      | .upper => pure (text.map Char.toUpper)
      | .lower => pure (text.map Char.toLower)
      | .reference => pure text
    Act.assign name text

/-- The name of a word like an assignment, whether its value is added, and the value. -/
def splitWord (plain : Bool) (word : List Char) : List Char × Bool × Option (List Char) :=
  let (name, value) := splitEquals word
  if !plain && value.isSome && name.getLast? == some '+' then (name.dropLast, true, value)
  else (name, false, value)

/-- Marks variables, with values that may be given. -/
def markVariables (mark : Variable → Variable) (words : List (List Char)) : Act Unit := do
  succeed
  for word in words do
    let (name, added, value) := splitWord (← get).isPlain word
    checkName name word
    if isName name then
      match value with
      | some text =>
          let before := ((← get).value? name).getD []
          giveValue name (if added then before ++ text else text)
      | none => pure ()
      let v := ((← get).binding? name).getD .missing
      modify fun s => s.setVariable name (mark v)

def markExported (words : List (List Char)) : Act Unit := do
  let (letters, rest) ← options ['p', 'n', 'f'] [] (optionFuel words) words
  if letters.any (·.1 == 'f') then succeed
  else if letters.any (·.1 == 'n') then
    markVariables (fun v => { v with exported := false }) rest
  else if rest.isEmpty then listVariables "export " (·.exported)
  else markVariables (fun v => { v with exported := true }) rest

def markReadonly (words : List (List Char)) : Act Unit := do
  let (letters, rest) ← options ['p', 'a', 'A', 'f'] [] (optionFuel words) words
  if rest.isEmpty then listVariables "readonly " (·.readonly)
  else
    let names (v : Variable) : ElementNames :=
      if letters.any (·.1 == 'a') then .numbers
      else if letters.any (·.1 == 'A') then .texts
      else v.names
    markVariables (fun v => { v with readonly := true, names := names v }) rest

/-- The name and the subscript of an element. -/
def splitElement? (word : List Char) : Option (List Char × List Char) :=
  let name := word.takeWhile isNamePart
  match word.drop name.length with
  | '[' :: r =>
      if isName name && r.getLast? == some ']' then some (name, r.dropLast) else none
  | _ => none

/-- Takes an element out of a variable. -/
def unsetElement (name index : List Char) : Act Unit := do
  match (← get).binding? name with
  | none => return ()
  | some v =>
      if index = ['@'] || index = ['*'] then modify (·.unset name)
      else
        let key ← if v.names = .texts then pure (ElementKey.text index)
          else pure (ElementKey.number (v.place (← Act.calculation index)))
        modify fun s => s.setVariable name (v.withoutElement key)

def unsetNames (words : List (List Char)) : Act Unit := do
  let (letters, rest) ← options ['f', 'v'] [] (optionFuel words) words
  succeed
  for name in rest do
    let s ← get
    let element := if s.isPlain then none else splitElement? name
    if letters.any (·.1 == 'f') then
      set { s with functions := s.functions.filter (·.1 != name) }
    else
      match element with
      | some (name, index) => unsetElement name index
      | none =>
          if s.isPlain then checkName name name
          if (s.binding? name).any (·.readonly) then
            if s.isPlain then Act.raise (name ++ ofText ": is read only")
            else fail 1 (name ++ ofText ": cannot unset: readonly variable")
          else
            if !s.isPlain && (s.binding? name).isNone then
              modify fun s => { s with functions := s.functions.filter (·.1 != name) }
            modify (·.unset name)

/-- Keeps a variable of a function apart from the one outside. -/
def keepApart (name : List Char) (fresh : Bool) : Act Unit := do
  let s ← get
  if !s.saved.any (·.1 == name) then
    set { s with saved := (name, s.bindings.lookup name) :: s.saved }
    if fresh then modify (·.unset name)

/-- The variable as the letters of a declaration mark it. -/
def declared (has : Char → Bool) (v : Variable) : Variable :=
  let names : ElementNames :=
    if has 'A' then .texts else if has 'a' then .numbers else v.names
  let kind : ValueKind :=
    if has 'i' then .number else if has 'u' then .upper else if has 'l' then .lower else v.kind
  { v with exported := v.exported || has 'x', names := names, kind := kind }

/-- Declares variables of the larger dialect. -/
def declareAll (apart : Bool) (has : Char → Bool) (words : List (List Char)) : Act Unit := do
  succeed
  for word in words do
    let (name, added, value) := splitWord false word
    checkName name word
    if isName name then
      if apart then keepApart name true
      match has 'n', value with
      | true, some other =>
          modify fun s => s.setOwn name { Variable.holding other false with kind := .reference }
      | _, _ => giveDeclared has name added value
where
  /-- Marks a variable and gives it its value. -/
  giveDeclared (has : Char → Bool) (name : List Char) (added : Bool)
      (value : Option (List Char)) : Act Unit := do
    let v := ((← get).binding? name).getD .missing
    modify fun s => s.setVariable name (declared has v)
    match value with
    | some text =>
        let before := ((← get).value? name).getD []
        giveValue name (if added then before ++ text else text)
    | none => pure ()
    if has 'r' then
      let v := ((← get).binding? name).getD .missing
      modify fun s => s.setVariable name { v with readonly := true }

/-- Keeps variables of a function apart from those outside. -/
def keepLocal (words : List (List Char)) : Act Unit := do
  let s ← get
  if s.calls = 0 then
    if s.isPlain then Act.raise (ofText "not in a function")
    else fail 1 (ofText "can only be used in a function")
  else if s.isPlain then
    succeed
    for word in words do
      let (name, value) := splitEquals word
      checkName name word
      keepApart name false
      match value with
      | some text => Act.assign name text
      | none => pure ()
  else
    let (letters, words) ← options "aAilnrtux".toList [] (optionFuel words) words
    declareAll true (fun c => letters.any (·.1 == c)) words

/-- Prints declarations of variables by their names. -/
def showDeclarations (names : List (List Char)) : Act Unit := do
  succeed
  for name in names do
    match (← get).binding? name with
    | some v => Act.print (declaration name v)
    | none => fail 1 (name ++ ofText ": not found")

/-- Says which names are those of functions. -/
def showFunctions (names : List (List Char)) : Act Unit := do
  succeed
  for name in names do
    if (← get).functions.any (·.1 == name) then Act.print (name ++ ['\n']) else Act.setStatus 1

/-- Sets and marks variables of the larger dialect. -/
def declare (words : List (List Char)) : Act Unit := do
  let (letters, rest) ← options "aAfFgilnprtux".toList [] (optionFuel words) words
  let has (c : Char) := letters.any (·.1 == c)
  if has 'F' || has 'f' then
    if rest.isEmpty then
      for (name, _) in byName (← get).functions do
        Act.print (ofText "declare -f " ++ name ++ ['\n'])
      succeed
    else showFunctions rest
  else if has 'p' && !rest.isEmpty then showDeclarations rest
  else if rest.isEmpty then
    if has 'x' then listVariables "export " (·.exported)
    else if has 'r' then listVariables "readonly " (·.readonly)
    else listVariables "declare " fun _ => true
  else declareAll ((← get).calls > 0 && !has 'g') has rest

/-- Calculates, and fails if the last result is zero. -/
def calculateAll (words : List (List Char)) : Act Unit := do
  Act.setStatus 1
  for word in words do
    let n ← Act.calculation word
    Act.setStatus (if n = 0 then 1 else 0)

/-- A number that an argument of the larger dialect spells. -/
def argumentNumber (word : List Char) : Act Int := do
  match number? word with
  | some n => return n
  | none => Act.raise (word ++ ofText ": numeric argument required")

def shiftArguments (words : List (List Char)) : Act Unit := do
  let plain := (← get).isPlain
  let n ←
    match words with
    | [] => pure 1
    | word :: _ =>
        if plain then count word
        else
          let n ← argumentNumber word
          if n < 0 then Act.raise (word ++ ofText ": shift count out of range")
          pure n.toNat
  let s ← get
  if n > s.arguments.length then
    if s.isPlain then Act.raise (ofText "can't shift that many") else Act.setStatus 1
  else set { s with arguments := s.arguments.drop n, status := 0 }

/-! ## Options -/

/-- The options that have names, with their letters. -/
def optionNames : List (String × Char) :=
  [("errexit", 'e'), ("noglob", 'f'), ("ignoreeof", 'I'), ("interactive", 'i'), ("monitor", 'm'),
   ("noexec", 'n'), ("stdin", 's'), ("xtrace", 'x'), ("verbose", 'v'), ("vi", 'V'),
   ("emacs", 'E'), ("noclobber", 'C'), ("allexport", 'a'), ("notify", 'b'), ("nounset", 'u'),
   ("nolog", 'L'), ("debug", 'D')]

/-- Turns an option on or off. -/
def setLetter (on : Bool) (c : Char) : Act Unit :=
  modify fun s =>
    let others := s.options.filter (· != c)
    { s with options := if on then c :: others else others }

/-- Turns an option on or off by its letter. -/
def setOption (on : Bool) (c : Char) : Act Unit := do
  let known := if (← get).isPlain then "efImnsxvVECabuiLD" else "aefhkmnptuvxBCEHPT"
  if known.toList.contains c then setLetter on c
  else if (← get).isPlain then Act.raise (ofText "Illegal option -" ++ [c])
  else
    fail 2 (['-', c] ++ ofText ": invalid option")
    Act.printError (ofText "set: usage: set [-abefhkmnptuvxBCEHPT] [-o option-name] [--] [-] "
      ++ ofText "[arg ...]\n")
    throw .discarded

def setNamedOption (on : Bool) (name : List Char) : Act Unit := do
  let s ← get
  if !s.isPlain && name = "pipefail".toList then set { s with pipeFails := on }
  else
    match optionNames.lookup (String.ofList name) with
    | some c => setLetter on c
    | none =>
        if s.isPlain then Act.raise (ofText "Illegal option -o " ++ name)
        else if ["posix", "physical", "history", "braceexpand", "errtrace", "functrace",
            "hashall"].contains (String.ofList name) then
          return ()
        else
          fail 2 (name ++ ofText ": invalid option name")
          throw .discarded

/-- Prints the options that have names. -/
def listOptions : Act Unit := do
  let s ← get
  Act.print (ofText "Current option settings\n")
  for (name, c) in optionNames do
    let pad := List.replicate (16 - name.length) ' '
    Act.print (name.toList ++ pad ++ ofText (if s.option c then "on\n" else "off\n"))

/-- Options at the front, and behind them new arguments; nothing if none are given. -/
def takeOptions : Nat → List (List Char) → Act (Option (List (List Char)))
  | 0, _ => return none
  | fuel + 1, words =>
      match words with
      | [] => return none
      | ['-', '-'] :: rest => return some rest
      | ['-'] :: rest => do
          setLetter false 'x'
          setLetter false 'v'
          return if rest.isEmpty then none else some rest
      | (sign :: letters) :: rest =>
          if (sign = '-' || sign = '+') && !letters.isEmpty then do
            let on := sign == '-'
            for c in letters do
              if c != 'o' then setOption on c
            if letters.contains 'o' then
              match rest with
              | name :: rest =>
                  setNamedOption on name
                  takeOptions fuel rest
              | [] =>
                  listOptions
                  return none
            else takeOptions fuel rest
          else return some words
      | words => return some words

def changeOptions (words : List (List Char)) : Act Unit := do
  if words.isEmpty then listVariables "" fun v => !v.items.isEmpty
  else
    match ← takeOptions (words.length + 1) words with
    | some arguments => modify fun s => { s with arguments := arguments }
    | none => return ()
    succeed

/-- The options of the larger dialect that have names only. -/
def switchNames : List String :=
  ["autocd", "assoc_expand_once", "cdable_vars", "cdspell", "checkhash", "checkjobs",
   "checkwinsize", "cmdhist", "compat31", "compat32", "compat40", "compat41", "compat42",
   "compat43", "compat44", "complete_fullquote", "direxpand", "dirspell", "dotglob", "execfail",
   "expand_aliases", "extdebug", "extglob", "extquote", "failglob", "force_fignore",
   "globasciiranges", "globskipdots", "globstar", "gnu_errfmt", "histappend", "histreedit",
   "histverify", "hostcomplete", "huponexit", "inherit_errexit", "interactive_comments",
   "lastpipe", "lithist", "localvar_inherit", "localvar_unset", "login_shell", "mailwarn",
   "no_empty_cmd_completion", "nocaseglob", "nocasematch", "noexpand_translation", "nullglob",
   "patsub_replacement", "progcomp", "progcomp_alias", "promptvars", "restricted_shell",
   "shift_verbose", "sourcepath", "varredir_close", "xpg_echo"]

/-- Those that are on from the start. -/
def startSwitches : List String :=
  ["checkwinsize", "cmdhist", "complete_fullquote", "extquote", "force_fignore",
   "globasciiranges", "globskipdots", "hostcomplete", "interactive_comments",
   "patsub_replacement", "progcomp", "promptvars", "sourcepath"]

/-- Turns such options on or off, or shows them. -/
def changeSwitches (words : List (List Char)) : Act Unit := do
  let (letters, names) ← options "supqo".toList [] (optionFuel words) words
  let has (c : Char) := letters.any (·.1 == c)
  succeed
  let names := names.map String.ofList
  let wanted := if names.isEmpty then switchNames else names
  for name in wanted do
    let s ← get
    let on := s.switch name
    if has 'o' then setNamedOption (has 's') name.toList
    else if !switchNames.contains name then
      fail 1 (name.toList ++ ofText ": invalid shell option name")
    else if has 's' && !names.isEmpty then
      set { s with switches := name :: s.switches.filter (· != name) }
    else if has 'u' && !names.isEmpty then
      set { s with switches := s.switches.filter (· != name) }
    else
      if !on && !names.isEmpty then Act.setStatus 1
      let listed := if has 's' then on else if has 'u' then !on else true
      if listed && !has 'q' then
        let pad := List.replicate (15 - name.length) ' '
        Act.print (if has 'p' then
            ofText (if on then "shopt -s " else "shopt -u ") ++ name.toList ++ ['\n']
          else name.toList ++ pad ++ ofText (if on then "\ton\n" else "\toff\n"))

/-- Says where the present function was called. -/
def showCaller (words : List (List Char)) : Act Unit := do
  let s ← get
  let n := ((words.head?.bind number?).getD 0).toNat
  if s.frames.length ≤ n then
    if words.isEmpty then Act.print (ofText "0 NULL\n")
    Act.setStatus (if words.isEmpty then 0 else 1)
  else
    let line := Nat.toDigits 10 s.line
    let name := (s.frames[n + 1]?).getD "main".toList
    Act.print (line ++ ' ' :: (if words.isEmpty then [] else name ++ [' ']) ++ s.name ++ ['\n'])
    succeed

/-- Sets variables to what parsing the next option of words gives. -/
def getopts (words : List (List Char)) : Act Unit := do
  match words with
  | letters :: name :: given =>
      let s ← get
      let words := if given.isEmpty then s.arguments else given
      let silent := letters.head? == some ':'
      let place := max 1 ((number? (s.value "OPTIND")).getD 1).toNat
      let finish (place taken : Nat) (found : List Char) (argument : Option (List Char))
          (status : Nat) : Act Unit := do
        Act.assign "OPTIND".toList (Nat.toDigits 10 place)
        modify fun s => { s with optionsTaken := taken }
        match argument with
        | some text => Act.assign "OPTARG".toList text
        | none => modify (·.unset "OPTARG".toList)
        Act.assign name found
        Act.setStatus status
      let ends (place : Nat) : Act Unit := finish place 0 ['?'] none 1
      match words[place - 1]? with
      | none => ends place
      | some word =>
          if s.optionsTaken = 0 && (word.head? != some '-' || word.length < 2) then ends place
          else if s.optionsTaken = 0 && word = ['-', '-'] then ends (place + 1)
          else
            let taken := s.optionsTaken + 1
            let c := (word[taken]?).getD '?'
            let behind := word.drop (taken + 1)
            -- Where the next option is looked for.
            let (next, nextTaken) := if behind.isEmpty then (place + 1, 0) else (place, taken)
            let told (text : String) : Act Unit := do
              let front := if s.isPlain then [] else s.name ++ [':', ' ']
              Act.printError (front ++ ofText text ++ ['\n'])
            match (letters.dropWhile (· == ':')).dropWhile (· != c) with
            | [] =>
                if silent then finish next nextTaken ['?'] (some [c]) 0
                else
                  told (if s.isPlain then "Illegal option -" ++ String.singleton c
                    else "illegal option -- " ++ String.singleton c)
                  finish next nextTaken ['?'] none 0
            | _ :: ':' :: _ =>
                if !behind.isEmpty then finish (place + 1) 0 [c] (some behind) 0
                else
                  match words[place]? with
                  | some argument => finish (place + 2) 0 [c] (some argument) 0
                  | none =>
                      if silent then finish (place + 1) 0 [':'] (some [c]) 0
                      else
                        told (if s.isPlain then
                            "No arg for -" ++ String.singleton c ++ " option"
                          else "option requires an argument -- " ++ String.singleton c)
                        finish (place + 1) 0 ['?'] none 0
            | _ => finish next nextTaken [c] none 0
  | _ =>
      if (← get).isPlain then Act.raise (ofText "Usage: getopts optstring var [arg...]")
      else
        Act.printError (ofText "getopts: usage: getopts optstring name [arg ...]\n")
        Act.setStatus 2

end PluginBundle.Shell.Builtin
