import PluginBundle.Toml.Moment
import PluginBundle.Toml.Value

/-!
# Moments that are written as tables

A moment becomes a table with one member of a private name, and the same table in a document is
taken for a moment. The first key of a table decides, and what follows it is dropped. The outermost
table is never a moment.
-/

namespace PluginBundle.Toml

/-- The moment that a value under the private name spells. -/
def momentOf? : Value → Option Value
  | .string s => (Moment.read? s.toList).map fun m => .moment m.text
  | _ => none

/-- The value under the private name, if that is the first key. -/
def privateMember? : List (String × Value) → Option Value
  | (key, value) :: _ => if key = momentKey then some value else none
  | [] => none

mutual

/-- The value with its tables that stand for moments replaced; none if one of them spells none. -/
def Value.recognize? : Value → Option Value
  | .array items => (recognizeItems? items).map .array
  | .table entries =>
      match privateMember? entries with
      | some value => momentOf? value
      | none => (recognizeEntries? entries).map .table
  | leaf => some leaf

def recognizeItems? : List Value → Option (List Value)
  | [] => some []
  | v :: rest =>
      match v.recognize?, recognizeItems? rest with
      | some v, some rest => some (v :: rest)
      | _, _ => none

def recognizeEntries? : List (String × Value) → Option (List (String × Value))
  | [] => some []
  | (k, v) :: rest =>
      match v.recognize?, recognizeEntries? rest with
      | some v, some rest => some ((k, v) :: rest)
      | _, _ => none

end

end PluginBundle.Toml
