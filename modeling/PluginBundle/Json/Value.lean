/-!
# JSON values

The data model that configurations share: numbers keep whether they were whole, and objects keep
the order in which their keys first appeared. An object built by `Members.insert` holds a key once.
-/

namespace PluginBundle

namespace Json

/-- The range of whole numbers: those of 64 bits, signed or unsigned. -/
def IsWhole (i : Int) : Prop := -9223372036854775808 ≤ i ∧ i < 18446744073709551616

instance (i : Int) : Decidable (IsWhole i) := inferInstanceAs (Decidable (_ ∧ _))

/-- A number is whole, or a finite double. -/
inductive Number where
  | whole (value : Int) (fits : IsWhole value)
  | float (value : Float) (finite : value.isFinite = true)

/-- A JSON value. -/
inductive Value where
  | null
  | bool (value : Bool)
  | number (value : Number)
  | string (value : String)
  | array (items : List Value)
  | object (members : List (String × Value))

instance : Inhabited Value := ⟨.null⟩

/-- Induction over values: an array by its items, an object by the values of its members. -/
@[elab_as_elim]
theorem Value.inductionOn {P : Value → Prop} (null : P .null) (bool : ∀ b, P (.bool b))
    (number : ∀ n, P (.number n)) (string : ∀ s, P (.string s))
    (array : ∀ items, (∀ v ∈ items, P v) → P (.array items))
    (object : ∀ members, (∀ p ∈ members, P p.2) → P (.object members)) (v : Value) : P v := by
  refine @Value.rec P (fun items => ∀ v ∈ items, P v) (fun members => ∀ p ∈ members, P p.2)
    (fun p => P p.2) null bool number string array object ?_ ?_ ?_ ?_ ?_ v
  · simp
  · intro v items hv hitems
    exact List.forall_mem_cons.2 ⟨hv, hitems⟩
  · simp
  · intro p members hp hmembers
    exact List.forall_mem_cons.2 ⟨hp, hmembers⟩
  · intro key v hv
    exact hv

/-- The six kinds of value. -/
inductive Kind where
  | null
  | boolean
  | number
  | string
  | array
  | object
  deriving DecidableEq, Repr

/-- The kind with its article, as messages name it. -/
def Kind.describe : Kind → String
  | .null => "null"
  | .boolean => "a boolean"
  | .number => "a number"
  | .string => "a string"
  | .array => "an array"
  | .object => "an object"

def Value.kind : Value → Kind
  | .null => .null
  | .bool _ => .boolean
  | .number _ => .number
  | .string _ => .string
  | .array _ => .array
  | .object _ => .object

end Json

end PluginBundle
