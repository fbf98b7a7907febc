import PluginBundle.Log.Record
import PluginBundle.Regex.Reader

/-!
# Which log records are shown

A filter is a list of directives: a least level for all parts of the program, or for the parts whose
names start with a text. The directive with the longest text decides. A pattern may be set besides,
which the messages must hold.

A text that spells a filter has directives between commas and the pattern after a slash. What makes
no sense in it is left out and reported.
-/

namespace PluginBundle

/-- The least level that is shown, or none at all. -/
inductive LogThreshold where
  | off
  | atLeast (weight : Nat)
  deriving DecidableEq, Repr

/-- A threshold for all parts, or for those whose names start with a text. -/
structure LogDirective where
  target : Option String
  threshold : LogThreshold
  deriving DecidableEq, Repr

namespace LogDirective

/-- The length of the text of a directive, by which directives compete. -/
def reach (d : LogDirective) : Nat := (d.target.getD "").utf8ByteSize

/-- A directive is meant for a part. -/
def covers (d : LogDirective) (part : String) : Bool :=
  match d.target with
  | none => true
  | some target => target.toList.isPrefixOf part.toList

end LogDirective

structure LogFilter where
  directives : List LogDirective
  pattern : Option Regex

/-- What makes no sense in the text of a filter. -/
inductive LogFilterFault where
  | tooManySlashes (text : String)
  | unknownLevel (name : String)
  | malformedDirective (piece : String)
  | malformedPattern (pattern : String) (fault : Regex.Fault)
  deriving DecidableEq, Repr

namespace LogFilterFault

def message : LogFilterFault → String
  | .tooManySlashes text => "invalid logging spec '" ++ text ++ "' (too many '/'s)"
  | .unknownLevel name => "invalid logging spec '" ++ name ++ "'"
  | .malformedDirective piece => "invalid logging spec '" ++ piece ++ "'"
  | .malformedPattern pattern fault => "invalid regex filter - " ++ fault.message pattern

/-- The line that is shown for a fault. -/
def line (f : LogFilterFault) : String := "warning: " ++ f.message ++ ", ignoring it\n"

end LogFilterFault

namespace LogFilter

/-! ## Filters as text -/

/-- The threshold of a level's name, in letters of either case. -/
def threshold? (name : String) : Option LogThreshold :=
  match name.map Char.toLower with
  | "off" => some .off
  | "error" => some (.atLeast 3)
  | "warn" => some (.atLeast 2)
  | "info" => some (.atLeast 1)
  | "debug" => some (.atLeast 0)
  | "trace" => some (.atLeast 0)
  | _ => none

/-- The threshold that shows everything. -/
def everything : LogThreshold := .atLeast 0

/-- Everything of a level, and what weighs more. -/
def ofLevel (level : LogLevel) : LogFilter := ⟨[⟨none, .atLeast level.weight⟩], none⟩

/-- The pieces of a text between marks. -/
def splitAt (mark : Char) : List Char → List (List Char)
  | [] => [[]]
  | c :: cs =>
      if c = mark then [] :: splitAt mark cs
      else
        match splitAt mark cs with
        | [] => [[c]]
        | piece :: pieces => (c :: piece) :: pieces

/-- A level, a part, or a part with a level. -/
def readDirective (piece : List Char) : Except LogFilterFault LogDirective :=
  match (splitAt '=' piece).map String.ofList with
  | [name] =>
      match threshold? name with
      -- A level by itself is meant for every part.
      | some threshold => .ok ⟨none, threshold⟩
      | none => .ok ⟨some name, everything⟩
  | [name, level] =>
      let level := trim level
      if level.isEmpty then .ok ⟨some name, everything⟩
      else
        match threshold? level with
        | some threshold => .ok ⟨some name, threshold⟩
        | none => .error (.unknownLevel level)
  | _ => .error (.malformedDirective (String.ofList piece))

/-- The directives of pieces, and the faults. -/
def readDirectives : List (List Char) → List LogDirective × List LogFilterFault
  | [] => ([], [])
  | piece :: rest =>
      let (directives, faults) := readDirectives rest
      let piece := trimChars piece
      if piece.isEmpty then (directives, faults)
      else
        match readDirective piece with
        | .ok d => (d :: directives, faults)
        | .error f => (directives, f :: faults)

/-- A directive takes the place of an earlier one for the same parts. -/
def replace (directives : List LogDirective) (d : LogDirective) : List LogDirective :=
  if directives.any (·.target == d.target) then
    directives.map fun old => if old.target == d.target then d else old
  else directives ++ [d]

/-- Errors only, which are shown where no directive is given. -/
def errorsOnly : List LogDirective := [⟨none, .atLeast 3⟩]

/-- The pattern after the slash. -/
def readPattern : List (List Char) → Except LogFilterFault (Option Regex)
  | [] => .ok none
  | pattern :: _ =>
      let pattern := String.ofList pattern
      match Regex.parse pattern with
      | .ok r => .ok (some r)
      | .error fault => .error (.malformedPattern pattern fault)

/-- The filter that a text spells, with what makes no sense in it. -/
def parse (text : String) : LogFilter × List LogFilterFault :=
  match splitAt '/' text.toList with
  | _ :: _ :: _ :: _ => (⟨errorsOnly, none⟩, [.tooManySlashes text])
  | parts =>
      let (given, faults) := readDirectives (splitAt ',' (parts.head?.getD []))
      let directives := given.foldl replace []
      let directives := if directives.isEmpty then errorsOnly else directives
      match readPattern (parts.drop 1) with
      | .ok pattern => (⟨directives, pattern⟩, faults)
      | .error fault => (⟨directives, none⟩, faults ++ [fault])

/-! ## Filtering -/

/-- The directive for a part: the one with the longest text, and of two such the later one. -/
def decisive (directives : List LogDirective) (part : String) : Option LogDirective :=
  directives.foldl (fun best d =>
    if d.covers part && (best.all fun (b : LogDirective) => b.reach ≤ d.reach) then some d
    else best) none

/-- The filter lets records of a level from a part pass. -/
def passes (filter : LogFilter) (level : LogLevel) (part : String) : Bool :=
  match decisive filter.directives part with
  | none => false
  | some ⟨_, .off⟩ => false
  | some ⟨_, .atLeast weight⟩ => weight ≤ level.weight

/-- The filter shows the record. -/
def shows (filter : LogFilter) (r : LogRecord) : Bool :=
  filter.passes r.level r.source.name
    && filter.pattern.all fun p => p.occursIn r.message.toList

end LogFilter

end PluginBundle
