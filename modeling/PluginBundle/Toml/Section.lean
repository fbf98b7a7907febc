import PluginBundle.Keyed
import PluginBundle.Toml.Value

/-!
# Tables under construction

While a document is read, its tables stay open: a later line may add to them or not, depending on
what opened them. A table that only lies on the way to another one may still get a header, and one
that dotted keys made may get more dotted keys. What is written as a value is closed.
-/

namespace PluginBundle.Toml

/-- What opened a table. -/
inductive Origin where
  /-- It lies on the way to a header. -/
  | implied
  | dotted
  | header
  deriving DecidableEq, Repr

/-- A value, an open table, or the open tables of an array. -/
inductive Node where
  | closed (value : Value)
  | section (origin : Origin) (entries : List (String × Node))
  | sections (tables : List (List (String × Node)))

abbrev Entries := List (String × Node)

mutual

/-- The value that a node stands for. -/
def Node.toValue : Node → Value
  | .closed value => value
  | .section _ entries => .table (entryValues entries)
  | .sections tables => .array (tableValues tables)

def entryValues : List (String × Node) → List (String × Value)
  | [] => []
  | (k, n) :: rest => (k, n.toValue) :: entryValues rest

def tableValues : List (List (String × Node)) → List Value
  | [] => []
  | entries :: rest => .table (entryValues entries) :: tableValues rest

end

/-- Changes the entries of the table at the end of a path of headers. Missing tables on the way are
made, and an array of tables stands for its last one. -/
def updateAt (f : Entries → Option Entries) : List String → Entries → Option Entries
  | [], entries => f entries
  | key :: path, entries =>
      match Keyed.find? key entries with
      | none => do return Keyed.set key (.section .implied (← updateAt f path [])) entries
      | some (.closed _) => none
      | some (.section origin inner) => do
          return Keyed.set key (.section origin (← updateAt f path inner)) entries
      | some (.sections tables) =>
          match tables.getLast? with
          | none => none
          | some last => do
              return Keyed.set key (.sections (tables.dropLast ++ [← updateAt f path last])) entries

/-- Opens a table by its header. One that was implied so far moves to the end. -/
def openTable (key : String) (entries : Entries) : Option Entries :=
  match Keyed.find? key entries with
  | none => some (Keyed.set key (.section .header []) entries)
  | some (.section .implied inner) =>
      some (entries.filter (·.1 != key) ++ [(key, .section .header inner)])
  | some _ => none

/-- Opens one more table of an array. -/
def openElement (key : String) (entries : Entries) : Option Entries :=
  match Keyed.find? key entries with
  | none => some (Keyed.set key (.sections [[]]) entries)
  | some (.sections tables) => some (Keyed.set key (.sections (tables ++ [[]])) entries)
  | some _ => none

/-- Gives a new key its value. -/
def addKey (key : String) (value : Value) (entries : Entries) : Option Entries :=
  match Keyed.find? key entries with
  | none => some (Keyed.set key (.closed value) entries)
  | some _ => none

/-- Gives a dotted key its value. Tables on the way must not have a header, and the last one must
come from dotted keys. -/
def addDotted (value : Value) (last : String) : List String → Entries → Option Entries
  | [], entries => addKey last value entries
  | key :: path, entries =>
      match Keyed.find? key entries with
      | none => do return Keyed.set key (.section .dotted (← addDotted value last path [])) entries
      | some (.closed _) => none
      | some (.section origin inner) =>
          -- A header closes its table to dotted keys from elsewhere.
          if origin = .header ∨ (path.isEmpty ∧ origin ≠ .dotted) then none
          else do return Keyed.set key (.section origin (← addDotted value last path inner)) entries
      | some (.sections tables) =>
          match tables.getLast? with
          | none => none
          | some inner =>
              if path.isEmpty then none
              else do
                return Keyed.set key
                  (.sections (tables.dropLast ++ [← addDotted value last path inner])) entries

end PluginBundle.Toml
