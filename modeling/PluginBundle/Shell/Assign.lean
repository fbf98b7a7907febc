import PluginBundle.Shell.Expand

/-!
# Assignments

Variables get their values one after the other. Those that are given to one command only are put
back behind it.
-/

namespace PluginBundle.Shell

def Assignment.name : Assignment → List Char
  | .assign name _ _ _ => name

namespace Assign

/-- The kind of a variable makes something of the value that it gets. -/
def shaped (v : Variable) (text : List Char) : Act (List Char) := do
  match v.kind with
  | .anything => return text
  | .number => return numberText (← Act.calculation text)
  | .upper => return text.map Char.toUpper
  | .lower => return text.map Char.toLower
  | .reference => return text

/-- A value that is added to another one: behind it, or to its number. -/
def joined (v : Variable) (old text : List Char) : Act (List Char) := do
  if v.kind = .number then
    return numberText ((← Act.calculation old) + (← Act.calculation text))
  else return old ++ text

/-- Gives a variable that is a list or a table its elements, and keeps those that it has if they are
added. -/
def setElements (again : Engine) (name : List Char) (added : Bool)
    (items : List (Option Word × Word)) : Act Unit := do
  let old := ((← get).binding? name).getD .missing
  let names := if old.names = .texts then .texts else .numbers
  let mut v := { old with names := names, items := if added then old.items else [] }
  let mut next := v.nextNumber
  for (index, w) in items do
    match index with
    | some index =>
        let key ← Expand.elementKey again v index
        v := v.withElement key (← shaped v (← Expand.assignedText again w))
        next := match key with
          | .number n => n + 1
          | .text _ => next
    | none =>
        for text in ← Expand.allFields again [w] do
          v := v.withElement (.number next) (← shaped v text)
          next := next + 1
  modify fun s => s.setVariable name v

/-- Gives a variable its value. The result is the assignment as it is shown. -/
def one (again : Engine) : Assignment → Act (List Char)
  | .assign name none added (.single w) => do
      let text ← Expand.assignedText again w
      let v := ((← get).binding? name).getD .missing
      let new ← if added then joined v (v.value?.getD []) text else pure text
      Act.assign name (← shaped v new)
      return name ++ ofText (if added then "+=" else "=") ++ text
  | .assign name (some index) added (.single w) => do
      let v := ((← get).binding? name).getD .missing
      let key ← Expand.elementKey again v index
      let text ← Expand.assignedText again w
      let new ← if added then joined v ((v.items.lookup key).getD []) text else pure text
      let new ← shaped v new
      if v.readonly then Act.raise (name ++ ofText ": readonly variable")
      modify fun s => s.setElement name key new
      return name ++ ['['] ++ key.shown ++ ofText "]=" ++ text
  | .assign name _ added (.list items) => do
      if ((← get).binding? name).any (·.readonly) then
        Act.raise (name ++ ofText ": readonly variable")
      setElements again name added items
      let v := ((← get).binding? name).getD .missing
      return name ++ '=' :: '(' :: [' '].intercalate (v.elements.map (·.2)) ++ [')']

/-- Gives a variable the list that a command was given for it. -/
def giveList (again : Engine) : Assignment → Act Unit
  | .assign name _ added (.list items) => setElements again name added items
  | .assign _ _ _ (.single _) => return ()

/-- Gives variables their values in order. -/
def all (again : Engine) (assignments : List Assignment) : Act (List (List Char)) :=
  assignments.mapM (one again)

/-- Gives variables their values, which programs inherit. -/
def exported (again : Engine) (assignments : List Assignment) : Act (List (List Char)) :=
  assignments.mapM fun a => do
    let shown ← one again a
    modify fun s =>
      match s.binding? a.name with
      | some v => s.setVariable a.name { v with exported := true }
      | none => s
    return shown

/-- Variables as they were in another state. -/
def restore (before : State) (names : List (List Char)) (s : State) : State :=
  names.foldl (fun s name =>
    match before.binding? name with
    | some v => s.setVariable name v
    | none => s.unset name) s

end Assign

/-- A word looks like an assignment. -/
def looksAssigned : Word → Bool
  | .literal text false :: _ =>
      let name := text.takeWhile isNamePart
      isName name && (text.drop name.length).head? == some '='
  | _ => false

end PluginBundle.Shell
