import PluginBundle.Json.Value

/-!
# TOML values

The leaves, arrays and tables of a TOML document, and the JSON value that each becomes. A moment in
time has no counterpart in JSON and becomes an object with one member of a private name; a float
that is no number becomes null.
-/

namespace PluginBundle.Toml

/-- A TOML value. Moments are kept as their normal text. -/
inductive Value where
  | string (value : String)
  | integer (value : Int) (fits : Json.IsWhole value)
  | float (value : Float)
  | boolean (value : Bool)
  | moment (text : String)
  | array (items : List Value)
  | table (entries : List (String × Value))

/-- The name of the only member of a moment. -/
def momentKey : String := "$__toml_private_datetime"

mutual

/-- The JSON value for a TOML value. -/
def Value.toJson : Value → Json.Value
  | .string s => .string s
  | .integer i fits => .number (.whole i fits)
  | .float x => if h : x.isFinite = true then .number (.float x h) else .null
  | .boolean b => .bool b
  | .moment text => .object [(momentKey, .string text)]
  | .array items => .array (itemsToJson items)
  | .table entries => .object (entriesToJson entries)

def itemsToJson : List Value → List Json.Value
  | [] => []
  | v :: rest => v.toJson :: itemsToJson rest

def entriesToJson : List (String × Value) → List (String × Json.Value)
  | [] => []
  | (k, v) :: rest => (k, v.toJson) :: entriesToJson rest

end

end PluginBundle.Toml
