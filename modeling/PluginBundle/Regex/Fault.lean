/-!
# What is wrong with a pattern

A fault names a problem and the part of the pattern that has it. The message shows the pattern with
that part marked below.
-/

namespace PluginBundle.Regex

/-- Why a text is no pattern. -/
inductive Problem where
  | classEscape
  | classRange
  | classRangeBound
  | classUnclosed
  | hexEmpty
  | hexValue
  | hexDigit
  | escapeEnd
  | escapeUnknown
  | flagNegationDangling
  | flagNegationRepeated
  | flagDuplicate
  | flagEnd
  | flagUnknown
  | groupNameEmpty
  | groupNameInvalid
  | groupNameEnd
  | groupUnclosed
  | groupUnopened
  | countRange
  | countEmpty
  | countUnclosed
  | repetitionMissing
  | propertyUnknown
  | classTable
  | caseTable
  | borderTable
  | backreference
  | lookAround
  deriving DecidableEq, Repr

def Problem.describe : Problem → String
  | .classEscape => "invalid escape sequence found in character class"
  | .classRange => "invalid character class range, the start must be <= the end"
  | .classRangeBound => "invalid range boundary, must be a literal"
  | .classUnclosed => "unclosed character class"
  | .hexEmpty => "hexadecimal literal empty"
  | .hexValue => "hexadecimal literal is not a Unicode scalar value"
  | .hexDigit => "invalid hexadecimal digit"
  | .escapeEnd => "incomplete escape sequence, reached end of pattern prematurely"
  | .escapeUnknown => "unrecognized escape sequence"
  | .flagNegationDangling => "dangling flag negation operator"
  | .flagNegationRepeated => "flag negation operator repeated"
  | .flagDuplicate => "duplicate flag"
  | .flagEnd => "expected flag but got end of regex"
  | .flagUnknown => "unrecognized flag"
  | .groupNameEmpty => "empty capture group name"
  | .groupNameInvalid => "invalid capture group character"
  | .groupNameEnd => "unclosed capture group name"
  | .groupUnclosed => "unclosed group"
  | .groupUnopened => "unopened group"
  | .countRange => "invalid repetition count range, the start must be <= the end"
  | .countEmpty => "repetition quantifier expects a valid decimal"
  | .countUnclosed => "unclosed counted repetition"
  | .repetitionMissing => "repetition operator missing expression"
  | .propertyUnknown => "Unicode property not found"
  | .classTable =>
      "Unicode-aware Perl class not found (make sure the unicode-perl feature is enabled)"
  | .caseTable =>
      "Unicode-aware case insensitivity matching is not available "
        ++ "(make sure the unicode-case feature is enabled)"
  | .borderTable => "error building NFA"
  | .backreference => "backreferences are not supported"
  | .lookAround => "look-around, including look-ahead and look-behind, is not supported"

/-- A problem, and the characters of the pattern that have it. -/
structure Fault where
  problem : Problem
  start : Nat
  stop : Nat
  deriving DecidableEq, Repr

/-- The message for a fault of a pattern. A fault at a single place is marked there, and word
borders that there is no table for are not marked at all. -/
def Fault.message (f : Fault) (pattern : String) : String :=
  let marks := List.replicate f.start ' ' ++ List.replicate (max 1 (f.stop - f.start)) '^'
  if f.problem = .borderTable then f.problem.describe
  else
    "regex parse error:\n    " ++ pattern ++ "\n    " ++ String.ofList marks ++ "\nerror: "
      ++ f.problem.describe

end PluginBundle.Regex
