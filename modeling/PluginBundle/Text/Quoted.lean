import PluginBundle.Text.Printable

/-!
# Texts in messages

A text that a message quotes is shown between quotation marks, with every character that could not
be seen written as an escape.
-/

namespace PluginBundle

/-- A quoted character: as it is, by a short escape, or by its number. -/
def showChar (c : Char) : List Char :=
  match c with
  | '"' => ['\\', '"']
  | '\\' => ['\\', '\\']
  | '\n' => ['\\', 'n']
  | '\r' => ['\\', 'r']
  | '\t' => ['\\', 't']
  | '\x00' => ['\\', '0']
  | c =>
      if isPrintable c then [c]
      else ['\\', 'u', '{'] ++ Nat.toDigits 16 c.toNat ++ ['}']

/-- The text as a message quotes it. -/
def showQuoted (s : String) : String :=
  "\"" ++ String.ofList (s.toList.flatMap showChar) ++ "\""

end PluginBundle
