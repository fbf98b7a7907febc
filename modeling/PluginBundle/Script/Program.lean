import PluginBundle.Json.Value

/-!
# Entry scripts as statements

The script that a bundle starts from, as a list of blocks of statements. Names and values are kept
apart here; how they are written is said by the module on rendering.
-/

namespace PluginBundle

/-- How modules are imported. -/
inductive ImportStyle where
  | commonJs
  | esm
  deriving DecidableEq, Repr

/-- Which export of a module a variable is bound to. -/
inductive Export where
  | default
  | named (name : String)
  deriving DecidableEq, Repr

/-- A value in a table or a declaration. -/
inductive Expr where
  /-- Data, written as JSON. -/
  | json (value : Json.Value)
  /-- Source text, written as it is. -/
  | raw (source : String)
  /-- A variable. -/
  | ident (name : String)

/-- A call of the runtime's `initialize`, with its arguments as source text. -/
structure InitializeCall where
  runtime : String
  args : List String
  deriving DecidableEq, Repr

/-- When the call is made: at once, or by a continuation that is handed to a hook. -/
inductive Initialization where
  | immediate (call : InitializeCall)
  | deferred (hook : String) (hookArgs : List String) (call : InitializeCall)
  deriving DecidableEq, Repr

/-- A statement of the script. -/
inductive Statement where
  | importModule (binding module : String) (exported : Export)
  | declare (name : String) (value : Expr)
  | table (name : String) (entries : List (String × Expr))
  | start (how : Initialization)

/-- Blocks of statements in the order in which they are written. -/
structure Program where
  blocks : List (List Statement)

namespace Program

def empty : Program := ⟨[]⟩

/-- The program with one more block at its end. -/
def push (p : Program) (block : List Statement) : Program := ⟨p.blocks ++ [block]⟩

/-- All statements in order. -/
def statements (p : Program) : List Statement := p.blocks.flatten

end Program

end PluginBundle
