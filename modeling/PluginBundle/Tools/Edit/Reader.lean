import PluginBundle.Tools.Basic
import PluginBundle.Tools.Edit.Command

/-!
# Reading scripts that edit lines

A script is read from pieces, one for each option that gives a part of it. A message about a fault
tells the piece and the number of characters that were read of it.
-/

namespace PluginBundle.Tools.Edit

open PluginBundle.Shell

/-- What is left of a piece of a script, and what was read so far of all of it. -/
structure ScriptSource where
  total : Nat
  rest : List Char
  /-- The blocks that are open, by the places of their commands. -/
  blocks : List Nat
  extended : Bool

/-- A fault with the number of characters that were read; none if that makes no sense. -/
structure ScriptFault where
  place : Option Nat
  text : List Char

abbrev ScriptReader := StateT ScriptSource (Except ScriptFault)

namespace ScriptReader

def refuse {α : Type} (text : List Char) : ScriptReader α := fun s =>
  .error ⟨some (s.total - s.rest.length), text⟩

def peek? : ScriptReader (Option Char) := fun s => .ok (s.rest.head?, s)

def take? : ScriptReader (Option Char) := fun s =>
  .ok (s.rest.head?, { s with rest := s.rest.drop 1 })

/-- Takes characters from the front as long as they are accepted. -/
def takeWhile (accepts : Char → Bool) : ScriptReader (List Char) := fun s =>
  let front := s.rest.takeWhile accepts
  .ok (front, { s with rest := s.rest.drop front.length })

def skipBlanks : ScriptReader Unit := do let _ ← takeWhile fun c => c == ' ' || c == '\t'

def skipSpace : ScriptReader Unit := do let _ ← takeWhile isSpaceChar

def number : ScriptReader Nat := do
  let digits ← takeWhile Char.isDigit
  return digits.foldl (fun n c => n * 10 + (c.toNat - 48)) 0

/-! ## Texts between delimiters -/

/-- How much of a text stands between brackets, from behind the opening one on; the closing one is
counted. Nothing if it is missing. -/
def bracketLength? (cs : List Char) : Option Nat :=
  let (front, r) : Nat × List Char :=
    match cs with
    | '^' :: ']' :: r => (2, r)
    | '^' :: r => (1, r)
    | ']' :: r => (1, r)
    | r => (0, r)
  go (r.length + 1) front r
where
  go : Nat → Nat → List Char → Option Nat
    | 0, _, _ => none
    | _, _, [] => none
    | _, _, '\n' :: _ => none
    | _, n, ']' :: _ => some (n + 1)
    | fuel + 1, n, '[' :: ':' :: r =>
        let name := r.takeWhile (· != ':')
        go fuel (n + 2 + name.length) (r.drop name.length)
    | fuel + 1, n, _ :: r => go fuel (n + 1) r

/-- The text up to a delimiter; nothing if it is missing. Each round takes a character, so `fuel`
beyond the length of the text is never used up. -/
def delimited (stop : Char) (isExpression : Bool) :
    Nat → List Char → ScriptReader (Option (List Char))
  | 0, _ => return none
  | fuel + 1, before => do
      match ← take? with
      | none => return none
      | some c =>
          if c = stop then return some before.reverse
          else if c = '\n' && isExpression then return none
          else if c = '\\' then
            match ← take? with
            | none => return none
            | some d =>
                if d = stop && !(!isExpression && d = '&') then
                  delimited stop isExpression fuel (d :: before)
                else if d = 'n' && isExpression then
                  delimited stop isExpression fuel ('\n' :: before)
                else delimited stop isExpression fuel (d :: '\\' :: before)
          else if c = '[' && isExpression then
            let rest := (← get).rest
            match bracketLength? rest with
            | some n =>
                let inside := expandInside (rest.take n)
                modify fun s => { s with rest := s.rest.drop n }
                delimited stop isExpression fuel (inside.reverse ++ c :: before)
            | none => delimited stop isExpression fuel (c :: before)
          else delimited stop isExpression fuel (c :: before)
where
  /-- Line ends and tabs may be written with a backslash between brackets, too. -/
  expandInside : List Char → List Char
    | '\\' :: 'n' :: r => '\n' :: expandInside r
    | '\\' :: 't' :: r => '\t' :: expandInside r
    | c :: r => c :: expandInside r
    | [] => []

/-- An expression with the signs for characters that are hard to write replaced. -/
def withControls : List Char → List Char
  | '\\' :: 't' :: r => '\t' :: withControls r
  | '\\' :: 'f' :: r => '\x0c' :: withControls r
  | '\\' :: 'v' :: r => '\x0b' :: withControls r
  | '\\' :: 'a' :: r => '\x07' :: withControls r
  | '\\' :: 'r' :: r => '\r' :: withControls r
  | '\\' :: c :: r => '\\' :: c :: withControls r
  | c :: r => c :: withControls r
  | [] => []

/-- The anchors at the ends of a text hold at the ends of lines, too. -/
def byLines : Regex → Regex
  | .sequence a b => .sequence (byLines a) (byLines b)
  | .either a b => .either (byLines a) (byLines b)
  | .repeated r least most greedy => .repeated (byLines r) least most greedy
  | .group n r => .group n (byLines r)
  | .anchor .textStart => .anchor .lineStart
  | .anchor .textEnd => .anchor .lineEnd
  | r => r

/-- The expression that a text spells; an empty one stands for the one that was used last. -/
def expression (text : List Char) (ignoreCase lines : Bool) : ScriptReader (Option Regex) := do
  if text.isEmpty then return none
  else
    match Regex.ofPosix ⟨(← get).extended, ignoreCase⟩ (withControls text) with
    | .ok r => return some (if lines then byLines r else r)
    | .error f => refuse (ofText f.message)

/-! ## Addresses -/

/-- The letters behind an expression. -/
def expressionFlags : ScriptReader (Bool × Bool) := do
  let letters ← takeWhile fun c => c == 'I' || c == 'M'
  return (letters.contains 'I', letters.contains 'M')

/-- An address, if there is one. -/
def address? : ScriptReader (Option Address) := do
  let matching (stop : Char) : ScriptReader (Option Address) := do
    let rounds := (← get).rest.length + 1
    match ← delimited stop true rounds [] with
    | none => refuse (ofText "unterminated address regex")
    | some text =>
        let (ignoreCase, lines) ← expressionFlags
        return some (.matching (← expression text ignoreCase lines))
  match ← peek? with
  | some '$' =>
      let _ ← take?
      return some .last
  | some '/' =>
      let _ ← take?
      matching '/'
  | some '\\' =>
      let _ ← take?
      match ← take? with
      | some stop => matching stop
      | none => refuse (ofText "unexpected \x60,'")
  | some c =>
      if c.isDigit then
        let n ← number
        if (← peek?) == some '~' then
          let _ ← take?
          return some (.every n (← number))
        else return some (.line n)
      else return none
  | none => return none

/-- Where a range ends, behind its comma. -/
def rangeEnd : ScriptReader RangeEnd := do
  skipBlanks
  match ← peek? with
  | some '+' =>
      let _ ← take?
      return .behind (← number)
  | some '~' =>
      let _ ← take?
      return .multiple (← number)
  | _ =>
      match ← address? with
      | some a => return .atLine a
      | none => refuse (ofText "unexpected \x60,'")

def selection : ScriptReader Selection := do
  if (← peek?) == some '+' || (← peek?) == some '~' then
    let _ ← take?
    let _ ← number
    refuse (ofText "invalid usage of +N or ~N as first address")
  match ← address? with
  | none => return .all
  | some a =>
      skipBlanks
      let isRange := (← peek?) == some ','
      let isZero := a matches .line 0
      if !isRange then
        if isZero then
          let _ ← take?
          refuse (ofText "invalid usage of line address 0")
        return .one a
      else
        let _ ← take?
        let stop ← rangeEnd
        if isZero && !(stop matches .atLine (.matching _)) then
          refuse (ofText "invalid usage of line address 0")
        return .range a stop

/-! ## Arguments -/

/-- The end of a command. -/
def commandEnd : ScriptReader Unit := do
  skipBlanks
  match ← peek? with
  | none => return ()
  | some '\x7d' => return ()
  | some '#' => return ()
  | some c =>
      let _ ← take?
      if c != '\n' && c != ';' then refuse (ofText "extra characters after command")

/-- The rest of the line. -/
def restOfLine : ScriptReader (List Char) := do
  let text ← takeWhile (· != '\n')
  let _ ← take?
  return text

def fileName : ScriptReader (List Char) := do
  skipBlanks
  let name ← restOfLine
  if name.isEmpty then refuse (ofText "missing filename in r/R/w/W commands")
  return name

def labelName : ScriptReader (List Char) := do
  skipBlanks
  let name ← takeWhile fun c => c != '\n' && c != ';' && !isSpaceChar c && c != '\x7d'
  return name

/-- Text up to the end of a line, in which a backslash takes the next character along. -/
def textLines : Nat → List Char → ScriptReader (List Char)
  | 0, before => return before.reverse
  | fuel + 1, before => do
      match ← take? with
      | none => return before.reverse
      | some '\n' => return before.reverse
      | some '\\' =>
          match ← take? with
          | none => return before.reverse
          | some c => textLines fuel (c :: before)
      | some c => textLines fuel (c :: before)

/-- The text of a command that adds text. -/
def addedText : ScriptReader (List Char) := do
  skipBlanks
  match ← peek? with
  | none => refuse (ofText "expected \\ after \x60a', \x60c' or \x60i'")
  | some '\\' =>
      let _ ← take?
      let blanks ← takeWhile fun c => c == ' ' || c == '\t'
      let rounds := (← get).rest.length + 1
      if (← peek?) == some '\n' then
        let _ ← take?
        return (← textLines rounds []) ++ ['\n']
      else return (← textLines rounds blanks.reverse) ++ ['\n']
  | some _ =>
      let rounds := (← get).rest.length + 1
      return (← textLines rounds []) ++ ['\n']

/-! ## Substitutions -/

/-- A piece of a replacement put in front of others. Text is joined. -/
def cons (p : ReplacementPart) (rest : List ReplacementPart) : List ReplacementPart :=
  match p, rest with
  | .text a, .text b :: rest => .text (a ++ b) :: rest
  | p, rest => p :: rest

/-- The pieces of a replacement. -/
def replacementParts : List Char → List ReplacementPart
  | [] => []
  | '&' :: r => .group 0 :: replacementParts r
  | '\\' :: c :: r =>
      if c.isDigit then .group (c.toNat - 48) :: replacementParts r
      else
        match c with
        | 'n' => cons (.text ['\n']) (replacementParts r)
        | 't' => cons (.text ['\t']) (replacementParts r)
        | 'r' => cons (.text ['\r']) (replacementParts r)
        | 'f' => cons (.text ['\x0c']) (replacementParts r)
        | 'v' => cons (.text ['\x0b']) (replacementParts r)
        | 'a' => cons (.text ['\x07']) (replacementParts r)
        | 'U' => .recase .upper :: replacementParts r
        | 'L' => .recase .lower :: replacementParts r
        | 'u' => .recase .upperNext :: replacementParts r
        | 'l' => .recase .lowerNext :: replacementParts r
        | 'E' => .recase .asIs :: replacementParts r
        | c => cons (.text [c]) (replacementParts r)
  | c :: r => cons (.text [c]) (replacementParts r)

/-- The number of groups of an expression. -/
def groupCount : Regex → Nat
  | .sequence a b => max (groupCount a) (groupCount b)
  | .either a b => max (groupCount a) (groupCount b)
  | .repeated r _ _ _ => groupCount r
  | .group n r => max n (groupCount r)
  | _ => 0

/-- What the letters behind a substitution say. -/
structure SubstitutionFlags where
  first : Option Nat
  all : Bool
  prints : Bool
  ignoreCase : Bool
  lines : Bool
  file : Option (List Char)

/-- The letters behind a substitution. Each round takes one, so `fuel` beyond the length of the rest
is never used up. -/
def substitutionFlags : Nat → SubstitutionFlags → ScriptReader SubstitutionFlags
  | 0, f => return f
  | fuel + 1, f => do
      match ← peek? with
      | some 'g' =>
          let _ ← take?
          if f.all then refuse (ofText "multiple \x60g' options to \x60s' command")
          substitutionFlags fuel { f with all := true }
      | some 'p' =>
          let _ ← take?
          if f.prints then refuse (ofText "multiple \x60p' options to \x60s' command")
          substitutionFlags fuel { f with prints := true }
      | some 'i' => do
          let _ ← take?
          substitutionFlags fuel { f with ignoreCase := true }
      | some 'I' => do
          let _ ← take?
          substitutionFlags fuel { f with ignoreCase := true }
      | some 'm' => do
          let _ ← take?
          substitutionFlags fuel { f with lines := true }
      | some 'M' => do
          let _ ← take?
          substitutionFlags fuel { f with lines := true }
      | some 'w' => do
          let _ ← take?
          return { f with file := some (← fileName) }
      | some c =>
          if c.isDigit then
            let n ← number
            if n = 0 then refuse (ofText "number option to \x60s' command may not be zero")
            if f.first.isSome then refuse (ofText "multiple number options to \x60s' command")
            substitutionFlags fuel { f with first := some n }
          else if c = '\n' || c = ';' then
            let _ ← take?
            return f
          else if c = '\x7d' || c = '#' then return f
          else if c = ' ' || c = '\t' || c = '\r' then
            let _ ← take?
            substitutionFlags fuel f
          else
            let _ ← take?
            refuse (ofText "unknown option to \x60s'")
      | none => return f

def substitution : ScriptReader Action := do
  let unterminated : ScriptReader Action := refuse (ofText "unterminated \x60s' command")
  match ← take? with
  | none => unterminated
  | some stop =>
      let rounds := (← get).rest.length + 1
      match ← delimited stop true rounds [] with
      | none => unterminated
      | some pattern =>
          match ← delimited stop false rounds [] with
          | none => unterminated
          | some text =>
              let f ← substitutionFlags rounds ⟨none, false, false, false, false, none⟩
              let r ← expression pattern f.ignoreCase f.lines
              let parts := replacementParts text
              let largest := parts.foldl (fun n p =>
                match p with
                | .group k => max n k
                | _ => n) 0
              match r with
              | some r =>
                  if largest > groupCount r then
                    refuse (ofText "invalid reference \\" ++ Nat.toDigits 10 largest
                      ++ ofText " on \x60s' command's RHS")
              | none => pure ()
              return .substitute ⟨r, parts, f.first.getD 1, f.all, f.prints, f.file⟩

/-- The characters of a list in an exchange. -/
def exchangeChars : List Char → List Char
  | '\\' :: 'n' :: r => '\n' :: exchangeChars r
  | '\\' :: 't' :: r => '\t' :: exchangeChars r
  | '\\' :: '\\' :: r => '\\' :: exchangeChars r
  | c :: r => c :: exchangeChars r
  | [] => []

def exchange : ScriptReader Action := do
  let unterminated : ScriptReader Action := refuse (ofText "unterminated \x60y' command")
  match ← take? with
  | none => unterminated
  | some stop =>
      let rounds := (← get).rest.length + 1
      match ← delimited stop false rounds [] with
      | none => unterminated
      | some old =>
          match ← delimited stop false rounds [] with
          | none => unterminated
          | some new =>
              let old := exchangeChars old
              let new := exchangeChars new
              if old.length != new.length then
                refuse (ofText "strings for \x60y' command are different lengths")
              commandEnd
              return .exchange (old.zip new)

/-! ## Commands -/

/-- A command by its letter. `place` is the number of commands before it. -/
def action (place : Nat) (c : Char) : ScriptReader Action := do
  let ended (a : Action) : ScriptReader Action := do
    commandEnd
    return a
  let status : ScriptReader Nat := do
    skipBlanks
    number
  match c with
  | '\x7b' => do
      modify fun s => { s with blocks := place :: s.blocks }
      return .openBlock 0
  | '\x7d' => do
      match (← get).blocks with
      | [] => refuse (ofText "unexpected \x60\x7d'")
      | _ :: outer =>
          modify fun s => { s with blocks := outer }
          ended .closeBlock
  | '#' => do
      let _ ← restOfLine
      return .empty
  | ':' => do
      skipBlanks
      let name ← takeWhile fun c => c != '\n' && c != ';' && !isSpaceChar c
      if name.isEmpty then refuse (ofText "\":\" lacks a label")
      return .label name
  | 's' => substitution
  | 'y' => exchange
  | 'd' => ended .delete
  | 'D' => ended .deleteFirst
  | 'p' => ended .print
  | 'P' => ended .printFirst
  | 'n' => ended .next
  | 'N' => ended .appendNext
  | 'h' => ended .toHold
  | 'H' => ended .appendToHold
  | 'g' => ended .fromHold
  | 'G' => ended .appendFromHold
  | 'x' => ended .swapHold
  | '=' => ended .printNumber
  | 'z' => ended .empty
  | 'F' => ended .empty
  | 'l' => do
      let _ ← status
      ended .display
  | 'q' => do
      let n ← status
      ended (.quit n false)
  | 'Q' => do
      let n ← status
      ended (.quit n true)
  | 'a' => return .append (← addedText)
  | 'i' => return .insert (← addedText)
  | 'c' => return .change (← addedText)
  | 'r' => return .readFile (← fileName)
  | 'w' => return .writeFile (← fileName) false
  | 'W' => return .writeFile (← fileName) true
  | 'b' => do
      let name ← labelName
      ended (.branch name)
  | 't' => do
      let name ← labelName
      ended (.branchIf name)
  | 'T' => do
      let name ← labelName
      ended (.branchUnless name)
  | c => refuse (ofText "unknown command: \x60" ++ [c, '\''])

/-- The commands of a script, behind those that were read. Each round takes a character, so `fuel`
beyond the length of the script is never used up. -/
def commands : Nat → List Command → ScriptReader (List Command)
  | 0, before => return before.reverse
  | fuel + 1, before => do
      let _ ← takeWhile fun c => isSpaceChar c || c == ';'
      match ← peek? with
      | none => return before.reverse
      | some _ =>
          let selected ← selection
          skipSpace
          let bangs ← takeWhile (· == '!')
          if bangs.length > 1 then refuse (ofText "multiple \x60!'s")
          skipSpace
          match ← take? with
          | none => refuse (ofText "missing command")
          | some c =>
              let isBare := selected matches .all
              if c = '\x7d' && !isBare then
                refuse (ofText "\x7d doesn't want any addresses")
              if c = ':' && !isBare then refuse (ofText ": doesn't want any addresses")
              if c = '#' && !isBare then refuse (ofText "comments don't accept any addresses")
              let a ← action before.length c
              commands fuel (⟨selected, !bangs.isEmpty, a⟩ :: before)

end ScriptReader

/-- The commands with each block knowing where it ends. -/
def closeBlocks (commands : List Command) : List Command :=
  let numbered := (List.range commands.length).zip commands
  numbered.map fun (place, c) =>
    match c.action with
    | .openBlock _ => { c with action := .openBlock (closing commands (place + 1) 0) }
    | _ => c
where
  /-- The place behind the end of the block that is open. -/
  closing (commands : List Command) (place depth : Nat) : Nat :=
    let (found, _, _) := (commands.drop place).foldl (fun (found, n, depth) c =>
      match found with
      | some _ => (found, n, depth)
      | none =>
          match c.action with
          | .openBlock _ => (none, n + 1, depth + 1)
          | .closeBlock => if depth = 0 then (some (n + 1), n + 1, 0) else (none, n + 1, depth - 1)
          | _ => (none, n + 1, depth)) ((none : Option Nat), place, depth)
    found.getD commands.length

/-- The commands of pieces of a script. -/
def readScript (extended : Bool) (pieces : List (List Char)) :
    Except (List Char) (List Command) := do
  let rec go (n : Nat) (blocks : List Nat) (before : List Command) :
      List (List Char) → Except (List Char) (List Command × List Nat)
    | [] => .ok (before, blocks)
    | piece :: rest =>
        let source : ScriptSource := ⟨piece.length, piece, blocks, extended⟩
        match ScriptReader.commands (piece.length + 2) before.reverse source with
        | .ok (commands, s) => go (n + 1) s.blocks commands rest
        | .error f =>
            .error (ofText "-e expression #" ++ Nat.toDigits 10 n ++ ofText ", char "
              ++ Nat.toDigits 10 (f.place.getD 0) ++ [':', ' '] ++ f.text)
  let (commands, blocks) ← go 1 [] [] pieces
  if !blocks.isEmpty then
    throw (ofText "-e expression #" ++ Nat.toDigits 10 pieces.length
      ++ ofText ", char 0: unmatched \x60\x7b'")
  let labels := commands.filterMap fun c =>
    match c.action with
    | .label name => some name
    | _ => none
  for c in commands do
    let target :=
      match c.action with
      | .branch name => name
      | .branchIf name => name
      | .branchUnless name => name
      | _ => []
    if !target.isEmpty && !labels.contains target then
      throw (ofText "can't find label for jump to \x60" ++ target ++ ['\''])
  return closeBlocks commands

end PluginBundle.Tools.Edit
