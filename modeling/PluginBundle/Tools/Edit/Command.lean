import PluginBundle.Regex.Posix

/-!
# Commands that edit lines

A script is a list of commands. Each one may be limited to some lines. A command that opens a block
knows where the block ends, and one that jumps knows where it goes on.
-/

namespace PluginBundle.Tools.Edit

/-- A line, or lines. -/
inductive Address where
  | line (n : Nat)
  | last
  /-- Lines that match; without an expression, the one that was used last. -/
  | matching (r : Option Regex)
  /-- Every so many lines from one on. -/
  | every (first step : Nat)

/-- Where a range ends. -/
inductive RangeEnd where
  | atLine (address : Address)
  | behind (lines : Nat)
  /-- At the next line whose number can be divided. -/
  | multiple (n : Nat)

/-- The lines that a command is for. -/
inductive Selection where
  | all
  | one (address : Address)
  | range (start : Address) (stop : RangeEnd)

/-- How the case of letters in a replacement is changed. -/
inductive CaseChange where
  | upper
  | lower
  | upperNext
  | lowerNext
  | asIs
  deriving DecidableEq, Repr

/-- A piece of a replacement. -/
inductive ReplacementPart where
  | text (cs : List Char)
  /-- What a group matched; group zero is the whole match. -/
  | group (number : Nat)
  | recase (change : CaseChange)
  deriving DecidableEq, Repr

structure Substitution where
  expression : Option Regex
  replacement : List ReplacementPart
  /-- The first match that is replaced, and whether those behind it are replaced too. -/
  first : Nat
  all : Bool
  prints : Bool
  file : Option (List Char)

inductive Action where
  | openBlock (close : Nat)
  | closeBlock
  | substitute (s : Substitution)
  | exchange (pairs : List (Char × Char))
  | delete
  | deleteFirst
  | print
  | printFirst
  | next
  | appendNext
  | toHold
  | appendToHold
  | fromHold
  | appendFromHold
  | swapHold
  | printNumber
  | display
  | quit (status : Nat) (silent : Bool)
  | append (text : List Char)
  | insert (text : List Char)
  | change (text : List Char)
  | readFile (name : List Char)
  | writeFile (name : List Char) (firstOnly : Bool)
  | label (name : List Char)
  /-- Jumps to a label, or to the end of the script. -/
  | branch (label : List Char)
  | branchIf (label : List Char)
  | branchUnless (label : List Char)
  | empty
  | nothing

structure Command where
  selection : Selection
  negated : Bool
  action : Action

end PluginBundle.Tools.Edit
