import PluginBundle.Regex.Posix
import PluginBundle.Shell.Expand
import PluginBundle.Shell.Test

/-!
# Conditions of the larger dialect

Conditions compare words with patterns and regular expressions, and test files and numbers. What
does not decide the result is not looked at.
-/

namespace PluginBundle.Shell

namespace Condition

/-- The signs of regular expressions. -/
def isExpressionSign (c : Char) : Bool := "\\[]()\x7b\x7d.*+?^$|".toList.contains c

/-- A word as a regular expression, in which quoted characters mean themselves. -/
def expressionText (again : Engine) (w : Word) : Act (List Char) := do
  let found ← again.segments ⟨false, false, false⟩ w
  return found.flatMap fun x =>
    match x with
    | .text value true _ => value.flatMap fun c => if isExpressionSign c then ['\\', c] else [c]
    | .text value false _ => value
    | .border => [' ']

/-- A word matches a regular expression. What its groups matched is put into a list. -/
def matchesExpression (text expression : List Char) : Act Bool := do
  match Regex.ofPosix ⟨true, (← get).switch "nocasematch"⟩ expression with
  | .error _ =>
      Act.setStatus 2
      return false
  | .ok r =>
      let found := r.find? (.start text)
      let items :=
        match found with
        | none => []
        | some m =>
            let last := m.stop.groups.foldl (fun n g => max n g.1) 0
            (List.range (last + 1)).map m.group
      modify fun s => s.setVariable "BASH_REMATCH".toList (.ofList items)
      return found.isSome

/-- A number in a condition is a calculation. -/
def compare (left right : List Char) (holds : Int → Int → Bool) : Act Bool := do
  let n ← Act.calculation left
  let m ← Act.calculation right
  return holds n m

/-- A word as a condition shows it. -/
def shownWord (text : List Char) : List Char := if text.isEmpty then ['\'', '\''] else text

/-- The text of a pattern with its quoted characters marked by backslashes. -/
def shownPattern (again : Engine) (w : Word) : Act (List Char) := do
  let found ← again.segments ⟨false, false, false⟩ w
  return found.flatMap fun x =>
    match x with
    | .text value true _ => value.flatMap fun c => ['\\', c]
    | .text value false _ => value
    | .border => [' ']

/-- A condition of two words. -/
def holdsBetween (again : Engine) (tell : List Char → Act Unit) (left : Word)
    (operator : List Char) (right : Word) : Act Bool := do
  let text ← Expand.wholeText again left
  let told (shown : List Char) : Act Unit :=
    tell (shownWord text ++ ' ' :: operator ++ ' ' :: shownWord shown)
  let number (holds : Int → Int → Bool) : Act Bool := do
    let other ← Expand.wholeText again right
    told other
    compare text other holds
  let alike : Act Bool := do
    let items ← Expand.choicePattern again right
    told (← shownPattern again right)
    return matchesPattern items text
  match String.ofList operator with
  | "=" => alike
  | "==" => alike
  | "!=" => return !(← alike)
  | "=~" => do
      let expression ← expressionText again right
      told expression
      matchesExpression text expression
  | "-eq" => number (· == ·)
  | "-ne" => number (· != ·)
  | "-lt" => number (· < ·)
  | "-le" => number (· ≤ ·)
  | "-gt" => number (· > ·)
  | "-ge" => number (· ≥ ·)
  | _ => do
      let other ← Expand.wholeText again right
      told other
      match testBinary (← get) text operator other with
      | .ok b => return b
      | .error _ => return false

/-- The result of a condition. Each part is told of before it is decided. -/
def holds (again : Engine) (tell : List Char → Act Unit) : Condition → Act Bool
  | .word w => do
      let text ← Expand.wholeText again w
      tell (ofText "-n " ++ shownWord text)
      return !text.isEmpty
  | .unary operator w => do
      let text ← Expand.wholeText again w
      tell (operator ++ ' ' :: shownWord text)
      return testUnary (← get) operator text
  | .binary left operator right => holdsBetween again tell left operator right
  | .negated c => return !(← holds again (fun text => tell ('!' :: ' ' :: text)) c)
  | .both first second => do
      if ← holds again tell first then holds again tell second else return false
  | .either first second => do
      if ← holds again tell first then return true else holds again tell second

end Condition

end PluginBundle.Shell
