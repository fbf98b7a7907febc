import PluginBundle.Shell.Arithmetic
import PluginBundle.Shell.Braces
import PluginBundle.Shell.Glob

/-!
# Expansion of words

Parameters, calculations and nested scripts are replaced by what they stand for. What comes of them
without quotes is split into fields at the separators that the shell is set to, and fields with
signs of patterns stand for the files that match.
-/

namespace PluginBundle.Shell

/-- A value, with whether it is quoted and whether it may be split, or the border between two
fields. -/
inductive Segment where
  | text (value : List Char) (quoted splits : Bool)
  | border
  deriving DecidableEq, Repr

/-- What a word is expanded for. -/
structure Purpose where
  /-- For fields; else for one text. -/
  fields : Bool
  /-- Text of the script itself may be split, since it stands behind the name of a parameter. -/
  loose : Bool
  /-- A tilde may follow each colon. -/
  assigned : Bool

/-- How what is nested is run and expanded. A nested script is run as a process of its own. -/
structure Engine where
  nest : Command → Act Unit
  segments : Purpose → Word → Act (List Segment)

namespace Expand

/-! ## Values -/

/-- What a parameter stands for. -/
inductive Value where
  | missing
  | single (text : List Char)
  /-- Several values, which quotes leave apart or join. -/
  | several (texts : List (List Char)) (joined : Bool)

/-- The text between values that are joined. -/
def joint (s : State) : List Char :=
  match s.value? "IFS".toList with
  | none => [' ']
  | some ifs => ifs.take 1

def Value.text (s : State) : Value → List Char
  | .missing => []
  | .single text => text
  | .several texts joined => (if joined then joint s else [' ']).intercalate texts

/-- The letters of the options that are on. -/
def optionLetters (s : State) : List Char :=
  let order := "efhimnxvVabuBC".toList
  let on := if s.isPlain then s.options else 'h' :: 'B' :: s.options
  order.filter on.contains

/-- The value of a variable of the larger dialect that the shell itself keeps. -/
def extendedValue? (s : State) (name : String) : Option Value :=
  let number (n : Nat) : Option Value := some (.single (Nat.toDigits 10 n))
  match name with
  | "LINENO" => number s.line
  | "BASHPID" => number s.process
  | "BASH_SUBSHELL" => number s.depth
  | "SECONDS" => number 0
  | "RANDOM" => number (s.world.steps % 32768)
  | "PIPESTATUS" => number (s.pipeStatuses.headD 0)
  | "FUNCNAME" => some (match s.frames with
      | name :: _ => .single name
      | [] => .missing)
  | _ => none

/-- The elements of such a variable that is a list. -/
def extendedList? (s : State) (name : List Char) : Option (List (List Char)) :=
  if s.isPlain then none
  else
    match String.ofList name with
    | "PIPESTATUS" => some (s.pipeStatuses.map (Nat.toDigits 10))
    | "FUNCNAME" => some (if s.frames.isEmpty then [] else s.frames ++ ["main".toList])
    | "BASH_SOURCE" => some ((s.frames ++ [[]]).map fun _ => s.name)
    | "BASH_VERSINFO" =>
        some (["5", "2", "21", "1", "release", "x86_64-pc-linux-gnu"].map String.toList)
    | "DIRSTACK" => some (((s.cwd :: s.stacked).map fun p => ofText (Path.ofNames true p).text))
    | _ => none

/-- The variable of a name, with the lists that the shell itself keeps. -/
def binding (s : State) (name : List Char) : Variable :=
  match extendedList? s name with
  | some texts => .ofList texts
  | none => (s.binding? name).getD .missing

/-- The value of a parameter that is no variable. -/
def specialValue? (s : State) (name : List Char) : Option Value :=
  match name with
  | ['#'] => some (.single (Nat.toDigits 10 s.arguments.length))
  | ['?'] => some (.single (Nat.toDigits 10 s.status))
  | ['$'] => some (.single (Nat.toDigits 10 s.process))
  | ['0'] => some (.single s.name)
  | ['@'] => some (if s.arguments.isEmpty then .missing else .several s.arguments false)
  | ['*'] => some (if s.arguments.isEmpty then .missing else .several s.arguments true)
  | ['-'] => some (.single (optionLetters s))
  | ['!'] => some (match s.background with
      | some process => .single (Nat.toDigits 10 process)
      | none => .missing)
  | c :: _ =>
      if c.isDigit then
        some (match s.arguments[Reader.numberIn 10 name - 1]? with
          | some text => .single text
          | none => .missing)
      else if s.isPlain then none
      else extendedValue? s (String.ofList name)
  | [] => none

def namedValue (s : State) (name : List Char) : Value :=
  match specialValue? s name with
  | some v => v
  | none =>
      match s.value? name with
      | some text => .single text
      | none => .missing

/-- The text of a word. -/
def wholeText (again : Engine) (w : Word) : Act (List Char) := do
  let found ← again.segments ⟨false, false, false⟩ w
  return found.flatMap fun x =>
    match x with
    | .text value _ _ => value
    | .border => [' ']

/-- A word as a pattern, in which quoted characters mean themselves. -/
def patternOf (again : Engine) (w : Word) : Act (List PatternItem) := do
  let found ← again.segments ⟨false, false, false⟩ w
  return pattern (found.flatMap fun x =>
    match x with
    | .text value quoted _ => marked quoted value
    | .border => [(' ', false)])

/-- A word as the pattern of a condition or a choice. -/
def choicePattern (again : Engine) (w : Word) : Act (List PatternItem) := do
  let items ← patternOf again w
  let s ← get
  return if s.switch "nocasematch" then items.map .caseless else items

/-- The key of an element of a variable. The subscript of a table is a text, else a calculation. -/
def elementKey (again : Engine) (v : Variable) (index : Word) : Act ElementKey := do
  let text ← wholeText again index
  if v.names = .texts then return .text text
  else return .number (v.place (← Act.calculation text))

def Value.ofOption : Option (List Char) → Value
  | some text => .single text
  | none => .missing

/-- The value of an element. -/
def elementValue (again : Engine) (name : List Char) (index : Word) : Act Value := do
  let v := binding (← get) name
  return .ofOption (v.items.lookup (← elementKey again v index))

/-- The value of what a text names: a parameter, an element, or all elements. -/
def spelledValue (again : Engine) (text : List Char) : Act Value := do
  let s ← get
  let name := text.takeWhile isNamePart
  match text.drop name.length with
  | '[' :: r =>
      let index := r.takeWhile (· != ']')
      if index = ['@'] || index = ['*'] then
        return .several ((binding s name).elements.map (·.2)) (index = ['*'])
      else elementValue again name [.literal index true]
  | _ => return namedValue s text

/-- The value of what an expansion names. -/
def targetValue (again : Engine) : Target → Act Value
  | .named name => return namedValue (← get) name
  | .element name index => elementValue again name index
  | .elements name joined => do
      return .several ((binding (← get) name).elements.map (·.2)) joined
  | .indices name => do
      return .several ((binding (← get) name).elements.map (·.1.shown)) false
  | .indirect name => do
      let s ← get
      spelledValue again ((namedValue s name).text s)
  | .indirectElement name index => do
      let v ← elementValue again name index
      spelledValue again (v.text (← get))
  | .namesFrom start joined => do
      let names := ((← get).bindings.map (·.1)).filter start.isPrefixOf
      return .several (names.mergeSort lessBytes) joined
  | .malformed => do
      Act.raise (ofText (if (← get).isPlain then "Bad substitution" else "bad substitution"))

/-- The name of what an expansion takes the value of, for messages. -/
def targetName : Target → List Char
  | .named name => name
  | .element name _ => name
  | .elements name _ => name ++ "[@]".toList
  | .indices name => name
  | .indirect name => name
  | .indirectElement name _ => name
  | .namesFrom start _ => start
  | .malformed => []

/-! ## Edits -/

def Value.isMissing (s : State) (emptyToo : Bool) (v : Value) : Bool :=
  match v with
  | .missing => true
  | .several [] _ => true
  | v => emptyToo && (v.text s).isEmpty

/-- A value with each of its texts changed. -/
def Value.map (f : List Char → List Char) : Value → Value
  | .missing => .single (f [])
  | .single text => .single (f text)
  | .several texts joined => .several (texts.map f) joined

/-- A text with matches of a pattern exchanged. Each round takes a character, so `fuel` beyond the
length of the text is never used up. -/
def exchanged (all : Bool) (items : List PatternItem) (new : List Char) :
    Nat → List Char → List Char
  | 0, cs => cs
  | fuel + 1, cs =>
      match frontLength? true items cs, cs with
      | some (n + 1), cs =>
          new ++ (if all then exchanged all items new fuel (cs.drop (n + 1)) else cs.drop (n + 1))
      | _, c :: r => c :: exchanged all items new fuel r
      | _, [] => []

/-- A text with the match of a pattern at its front or back exchanged. -/
def exchangedAt (front : Bool) (items : List PatternItem) (new cs : List Char) : List Char :=
  if front then
    match frontLength? true items cs with
    | some n => new ++ cs.drop n
    | none => cs
  else
    match frontLength? true items.reverse cs.reverse with
    | some n => cs.take (cs.length - n) ++ new
    | none => cs

/-- A part of a list, from a place on, and so long; negative numbers count from behind. -/
def slice {α : Type} (offset : Int) (length : Option Int) (xs : List α) : List α :=
  let size : Int := xs.length
  let start := if offset < 0 then size + offset else offset
  if start < 0 then []
  else
    match length with
    | none => xs.drop start.toNat
    | some n =>
        let count := if n < 0 then size + n - start else n
        (xs.drop start.toNat).take count.toNat

def recased (upper all : Bool) (cs : List Char) : List Char :=
  let change (c : Char) := if upper then c.toUpper else c.toLower
  match cs with
  | [] => []
  | c :: r => if all then cs.map change else change c :: r

/-- A text between single quotes, in which a quote is written outside of them. -/
def requoted (cs : List Char) : List Char :=
  ['\''] ++ cs.flatMap (fun c => if c = '\'' then "'\\''".toList else [c]) ++ ['\'']

/-- The message for a value that is missing but demanded. -/
def demandMessage (emptyToo plain : Bool) : String :=
  if plain then if emptyToo then "parameter not set or null" else "parameter not set"
  else if emptyToo then "parameter null or not set" else "parameter not set"

/-- A value that may be missing, for the edits that need one. -/
def demanded (target : Target) (v : Value) : Act Value := do
  let s ← get
  match v, target with
  | .missing, .named ['@'] => return v
  | .missing, .named ['*'] => return v
  | .missing, target =>
      if s.option 'u' then
        let text := if s.isPlain then ": parameter not set" else ": unbound variable"
        Act.abandon (targetName target ++ ofText text)
      else return v
  | v, _ => return v

/-- The segments of a value. -/
def valueSegments (purpose : Purpose) (quoted : Bool) (v : Value) : Act (List Segment) := do
  let s ← get
  let splits := purpose.fields && !quoted
  let one (text : List Char) : Segment := .text text quoted splits
  match v with
  | .missing => return [one []]
  | .single text => return [one text]
  | .several texts joined =>
      if purpose.fields && !(quoted && joined) then
        return (texts.map one).intersperse .border
      else return [one (v.text s)]

/-- Gives the value that was missing to what an expansion names. -/
def assignMissing (target : Target) (text : List Char) : Act Unit :=
  match target with
  | .named name =>
      if isName name then Act.assign name text
      else Act.raise (name ++ ofText ": bad variable name")
  | _ => return ()

/-- The segments of what an expansion stands for. -/
def parameterSegments (again : Engine) (purpose : Purpose) (target : Target) (edit : Edit)
    (quoted : Bool) : Act (List Segment) := do
  let v ← targetValue again target
  let s ← get
  -- Behind the name of a parameter, text takes part in the splitting.
  let inside (w : Word) : Act (List Segment) := again.segments { purpose with loose := !quoted } w
  let changed (f : List Char → List Char) : Act (List Segment) := do
    valueSegments purpose quoted ((← demanded target v).map f)
  match edit with
  | .plain =>
      match ← demanded target v, target with
      | .missing, .named ['@'] => return []
      | .missing, .named ['*'] =>
          if quoted then valueSegments purpose quoted (.single []) else return []
      | .several [] joined, _ =>
          if quoted && joined then valueSegments purpose quoted (.single []) else return []
      | v, _ => valueSegments purpose quoted v
  | .length =>
      let n :=
        match ← demanded target v, target with
        | .several texts _, .elements _ _ => texts.length
        | .missing, .named ['@'] => 0
        | .several texts _, .named _ => if s.isPlain then (v.text s).length else texts.length
        | v, _ => (v.text s).length
      valueSegments purpose quoted (.single (Nat.toDigits 10 n))
  | .cut front longest w =>
      let items ← patternOf again w
      changed (cutMatch front longest items)
  | .fallback emptyToo assigned w =>
      if v.isMissing s emptyToo then
        if assigned then
          let text ← wholeText again w
          assignMissing target text
          valueSegments purpose quoted (.single text)
        else inside w
      else valueSegments purpose quoted v
  | .replacement emptyToo w =>
      if v.isMissing s emptyToo then valueSegments purpose quoted (.single []) else inside w
  | .demand emptyToo w =>
      if v.isMissing s emptyToo then
        let text ← wholeText again w
        let text := if w.isEmpty then ofText (demandMessage emptyToo s.isPlain) else text
        Act.abandon (targetName target ++ [':', ' '] ++ text)
      else valueSegments purpose quoted v
  | .slice offset length =>
      let start ← Act.calculation (← wholeText again offset)
      let count ←
        match length with
        | none => pure none
        | some w => pure (some (← Act.calculation (← wholeText again w)))
      match v, target with
      | .several texts joined, .named _ =>
          -- The arguments of a script are counted from one.
          let texts := slice start count (s.name :: texts)
          valueSegments purpose quoted (.several texts joined)
      | .several texts joined, _ =>
          valueSegments purpose quoted (.several (slice start count texts) joined)
      | _, _ => changed (slice start count)
  | .exchange scope pattern w =>
      let items ← patternOf again pattern
      let new ← wholeText again w
      match scope with
      | .front => changed (exchangedAt true items new)
      | .back => changed (exchangedAt false items new)
      | .first => changed fun cs => exchanged false items new (cs.length + 1) cs
      | .all => changed fun cs => exchanged true items new (cs.length + 1) cs
  | .recase upper all => changed (recased upper all)
  | .requote =>
      match v with
      | .missing => valueSegments purpose quoted v
      | v => valueSegments purpose quoted (v.map requoted)
  | .unescape => changed fun cs => Reader.unescaped cs.length cs

/-! ## Words -/

/-- What the nested script prints. -/
def substituted (again : Engine) (script : Command) : Act (List Char) := do
  let s ← get
  let (id, w) := s.world.connect (.collected [])
  let options := if s.isPlain then s.options else s.options.filter (· != 'e')
  set ({ s with
    world := w, tested := false, options := options, levels := s.levels + 1 }.setStream 1 id)
  again.nest script
  let t ← get
  let printed := t.world.collection id
  -- In the larger dialect the status of the nested script can be asked for at once.
  let status := if s.isPlain then s.status else t.status
  set { t with
    world := t.world.close id, streams := s.streams, tested := s.tested, options := s.options
    status := status, nested := t.status, levels := s.levels }
  let kept := printed.filter (· != '\x00')
  return (kept.reverse.dropWhile (· == '\n')).reverse

/-- The highest number of a stream that is free. -/
def freeStream (s : State) : Nat :=
  ((List.range 50).map (63 - ·)).find? (fun n => (s.channel? n).isNone) |>.getD 63

/-- The name of a stream that holds what a script prints, or whose text a script reads later. -/
def connected (again : Engine) (script : Command) (reads : Bool) : Act (List Char) := do
  let s ← get
  let stream := freeStream s
  let (id, w) := s.world.connect (.collected [])
  if reads then
    set { (({ s with world := w } : State).setStream stream id) with
      drains := s.drains ++ [(id, script, s.streams)] }
  else
    set ({ s with world := w, tested := false }.setStream 1 id)
    again.nest script
    let t ← get
    let printed := t.world.collection id
    let t := { t with
      world := t.world.setChannel id (.waiting printed), streams := s.streams
      status := s.status, tested := s.tested }
    set (t.setStream stream id)
  return ofText "/dev/fd/" ++ Nat.toDigits 10 stream

/-- The segments of a part of a word. -/
def partSegments (again : Engine) (purpose : Purpose) : WordPart → Act (List Segment)
  | .literal text quoted => return [.text text quoted (purpose.fields && purpose.loose && !quoted)]
  | .parameter target edit quoted => parameterSegments again purpose target edit quoted
  | .arithmetic source quoted => do
      let n ← Act.calculation (← wholeText again source)
      valueSegments purpose quoted (.single (numberText n))
  | .substitution script quoted => do
      let printed ← substituted again script
      valueSegments purpose quoted (.single printed)
  | .connection script reads => do
      let name ← connected again script reads
      return [.text name true false]
  | .elements _ => return []

/-- The home directory of a user. -/
def homeOf? (s : State) (user : List Char) : Option (List Char) :=
  if user.isEmpty then s.value? "HOME".toList
  else if user = "root".toList then some "/root".toList
  else none

/-- The tilde at the front of literal text, if what it names is spelled out. -/
def tilde? (s : State) (assigned atEnd : Bool) (cs : List Char) : Option (List Char × List Char) :=
  match cs with
  | '~' :: r =>
      let user := r.takeWhile fun c => c != '/' && !(assigned && c == ':')
      let rest := r.drop user.length
      if rest.isEmpty && !atEnd then none
      else (homeOf? s user).map fun home => (home, rest)
  | _ => none

/-- Literal text at the front of a word, with tildes replaced. -/
def tildeSegments (s : State) (purpose : Purpose) (atEnd : Bool) :
    Nat → List Char → List Segment
  | 0, cs => [.text cs false false]
  | fuel + 1, cs =>
      let splits := purpose.fields && purpose.loose
      let (front, rest) :=
        match tilde? s purpose.assigned atEnd cs with
        | some (home, rest) => ([Segment.text home true false], rest)
        | none => ([], cs)
      if !purpose.assigned then
        front ++ (if rest.isEmpty && !front.isEmpty then [] else [.text rest false splits])
      else
        let piece := rest.takeWhile (· != ':')
        match rest.drop piece.length with
        | [] => front ++ [.text piece false splits]
        | c :: more =>
            front ++ .text (piece ++ [c]) false splits :: tildeSegments s purpose atEnd fuel more

/-- The segments of parts in order. -/
def allSegments (again : Engine) (purpose : Purpose) : Word → Act (List Segment)
  | [] => return []
  | part :: rest => do
      let first ← partSegments again purpose part
      return first ++ (← allSegments again purpose rest)

/-- The segments of a word. -/
def wordSegments (again : Engine) (purpose : Purpose) (w : Word) : Act (List Segment) := do
  let s ← get
  match w with
  | .literal text false :: rest =>
      let first := tildeSegments s purpose rest.isEmpty (text.length + 1) text
      return first ++ (← allSegments again purpose rest)
  | w => allSegments again purpose w

/-! ## Fields -/

/-- Fields under way: those that are complete, last one first, the one that is being filled, and
whether the last separator was blank. -/
structure Filling where
  done : List MarkedText
  field : MarkedText
  /-- The field exists even if it is empty. -/
  begun : Bool
  afterBlank : Bool

namespace Filling

def none : Filling := ⟨[], [], false, false⟩

def finish (f : Filling) : Filling := ⟨f.field.reverse :: f.done, [], false, false⟩

/-- Ends the field if there is one. -/
def settle (f : Filling) : Filling := if f.begun then f.finish else f

def push (f : Filling) (c : Char) (quoted : Bool) : Filling :=
  { f with field := (c, quoted) :: f.field, begun := true, afterBlank := false }

/-- A separator ends a field. Blank ones count as one, together with another one among them. -/
def separate (f : Filling) (c : Char) : Filling :=
  if c = ' ' ∨ c = '\t' ∨ c = '\n' then
    if f.begun then { f.finish with afterBlank := true } else f
  else if f.begun then f.finish
  else if f.afterBlank then { f with afterBlank := false }
  else f.finish

def take (ifs : List Char) (f : Filling) : Segment → Filling
  | .border => f.settle
  | .text value quoted splits =>
      let filled := value.foldl (fun f c =>
        if splits && ifs.contains c then f.separate c else f.push c quoted) f
      if quoted then { filled with begun := true } else filled

end Filling

/-- The fields that segments make. -/
def fieldsOf (ifs : List Char) (found : List Segment) : List MarkedText :=
  (found.foldl (Filling.take ifs) .none).settle.done.reverse

/-- The files that a field stands for, or else its text. -/
def filesOf (s : State) (field : MarkedText) : List (List Char) :=
  if s.option 'f' || !hasSigns field then [unmarked field]
  else
    match glob s.world.disk s.cwd s.isPlain (s.switch "dotglob") field with
    | [] => if s.switch "nullglob" then [] else [unmarked field]
    | files => files

/-- The fields of a word. -/
def wordFields (again : Engine) (w : Word) : Act (List (List Char)) := do
  let found ← again.segments ⟨true, false, false⟩ w
  let s ← get
  return (fieldsOf s.separators found).flatMap (filesOf s)

/-- The fields of words. -/
def allFields (again : Engine) : List Word → Act (List (List Char))
  | [] => return []
  | w :: rest => do
      let plain := (← get).isPlain
      let words := if plain then [w] else braceWords w
      let fields ← words.mapM (wordFields again)
      return fields.flatten ++ (← allFields again rest)

/-- The text that a variable is given. -/
def assignedText (again : Engine) (w : Word) : Act (List Char) := do
  let found ← again.segments ⟨false, false, true⟩ w
  return found.flatMap fun x =>
    match x with
    | .text value _ _ => value
    | .border => [' ']

end Expand

end PluginBundle.Shell
