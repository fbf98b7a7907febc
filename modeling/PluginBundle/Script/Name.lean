import PluginBundle.Text.Letter

/-!
# Names of variables

A plugin is named like a module and bound like a variable. Normalization replaces the three
separators of module names by underscores and touches nothing else, so a name that is no variable
for another reason stays none.
-/

namespace PluginBundle

/-- A hyphen, slash or dot becomes an underscore. -/
def normalizeChar (c : Char) : Char :=
  if c = '-' ∨ c = '/' ∨ c = '.' then '_' else c

/-- The variable name for a plugin. -/
def normalizeName (name : String) : String := String.ofList (name.toList.map normalizeChar)

/-- Words that no variable may be called. -/
def reservedWords : List String :=
  ["await", "break", "case", "catch", "class", "const", "continue", "debugger", "default",
   "delete", "do", "else", "enum", "export", "extends", "false", "finally", "for", "function",
   "if", "implements", "import", "in", "instanceof", "interface", "let", "new", "null",
   "package", "private", "protected", "public", "return", "static", "super", "switch", "this",
   "throw", "true", "try", "typeof", "var", "void", "while", "with", "yield"]

/-- A character that a variable may start with. -/
def isNameStart (c : Char) : Bool := isAlphabetic c || c == '_' || c == '$'

/-- A character that a variable may go on with. -/
def isNamePart (c : Char) : Bool := isAlphanumeric c || c == '_' || c == '$'

/-- A text that can be bound as a variable. -/
def isIdentifier (name : String) : Bool :=
  match name.toList with
  | [] => false
  | first :: rest => isNameStart first && rest.all isNamePart && !reservedWords.contains name

end PluginBundle
