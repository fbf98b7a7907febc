import PluginBundle.Json.Text
import PluginBundle.Script.Program

/-!
# The text of entry scripts

Every statement ends its own line, and an empty line stands between blocks. Keys, module names and
data are written as JSON, which is also source text; rules, hooks and arguments are written as they
are. The import style decides the text of imports and of nothing else.
-/

namespace PluginBundle

def Expr.text : Expr → String
  | .json value => value.text
  | .raw source => source
  | .ident name => name

def InitializeCall.text (call : InitializeCall) : String :=
  call.runtime ++ ".initialize(" ++ ", ".intercalate call.args ++ ")"

/-- The line that binds an export of a module. -/
def importText (style : ImportStyle) (binding module : String) : Export → String
  | .default =>
      match style with
      | .commonJs => "var " ++ binding ++ " = require(" ++ Json.quote module ++ ").default;\n"
      | .esm => "import " ++ binding ++ " from " ++ Json.quote module ++ ";\n"
  | .named name =>
      match style with
      | .commonJs =>
          "var " ++ binding ++ " = require(" ++ Json.quote module ++ ")." ++ name ++ ";\n"
      | .esm =>
          let names := if name = binding then name else name ++ " as " ++ binding
          "import \x7b " ++ names ++ " \x7d from " ++ Json.quote module ++ ";\n"

/-- The line of a table entry. -/
def entryText (entry : String × Expr) : String :=
  "  " ++ Json.quote entry.1 ++ ": " ++ entry.2.text ++ ",\n"

def tableText (name : String) (entries : List (String × Expr)) : String :=
  if entries.isEmpty then "var " ++ name ++ " = \x7b\x7d;\n"
  else "var " ++ name ++ " = \x7b\n" ++ String.join (entries.map entryText) ++ "\x7d;\n"

def Initialization.text : Initialization → String
  | .immediate call => call.text ++ ";\n"
  | .deferred hook hookArgs call =>
      "(" ++ hook ++ ")(" ++ ", ".intercalate hookArgs ++ ", function () \x7b\n"
        ++ "  " ++ call.text ++ ";\n" ++ "\x7d);\n"

def Statement.text (style : ImportStyle) : Statement → String
  | .importModule binding module exported => importText style binding module exported
  | .declare name value => "var " ++ name ++ " = " ++ value.text ++ ";\n"
  | .table name entries => tableText name entries
  | .start how => how.text

/-- The lines of a block. -/
def blockText (style : ImportStyle) (block : List Statement) : String :=
  String.join (block.map (·.text style))

/-- The source text of a program. -/
def Program.render (style : ImportStyle) (p : Program) : String :=
  "\n".intercalate (p.blocks.map (blockText style))

end PluginBundle
