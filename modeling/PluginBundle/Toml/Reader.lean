import PluginBundle.Toml.Recognize
import PluginBundle.Toml.Scalar
import PluginBundle.Toml.Section

/-!
# Reading TOML

A document is read line by line into a tree of open tables, which is closed at the end. Reading says
only whether a text is a document, and of which value; it does not say what is wrong with one that
is none.
-/

namespace PluginBundle.Toml

/-- Reads from the front of a text and returns what was not read. -/
abbrev Reader (α : Type) := List Char → Option (α × List Char)

def isSpace (c : Char) : Bool := c == ' ' || c == '\t'

def skipSpace (cs : List Char) : List Char := cs.dropWhile isSpace

/-- Skips a comment up to the end of its line. -/
def skipComment (cs : List Char) : List Char :=
  match cs with
  | '#' :: r => r.dropWhile isTextChar
  | r => r

/-- Skips blanks, comments and line breaks. Each round ends a line, so `fuel` beyond the length of
the text is never used up. -/
def skipLines : Nat → List Char → List Char
  | 0, cs => cs
  | fuel + 1, cs =>
      match skipComment (skipSpace cs) with
      | '\n' :: r => skipLines fuel r
      | '\r' :: '\n' :: r => skipLines fuel r
      | r => r

def skipGap (cs : List Char) : List Char := skipLines cs.length cs

/-- What follows the end of a line. -/
def endLine? (cs : List Char) : Option (List Char) :=
  match skipComment (skipSpace cs) with
  | [] => some []
  | '\n' :: r => some r
  | '\r' :: '\n' :: r => some r
  | _ => none

/-! ## Keys -/

def isBareChar (c : Char) : Bool := c.isAlphanum || c == '-' || c == '_'

/-- One part of a key. -/
def readKeyPart : Reader String := fun cs =>
  match cs with
  | '"' :: r => (readBasic 0 r).map fun p => (String.ofList p.1, p.2)
  | '\'' :: r => (readLiteral r).map fun p => (String.ofList p.1, p.2)
  | cs =>
      let bare := cs.takeWhile isBareChar
      if bare.isEmpty then none else some (String.ofList bare, cs.dropWhile isBareChar)

/-- The parts of a key, at most so many, with dots between them: those before the last, and the
last. -/
def readKeyParts : Nat → Reader (List String × String)
  | 0, _ => none
  | most + 1, cs => do
      let (part, cs) ← readKeyPart (skipSpace cs)
      match skipSpace cs with
      | '.' :: r => do
          let ((path, last), cs) ← readKeyParts most r
          return ((part :: path, last), cs)
      | r => return (([], part), r)

/-- The deepest nesting of values and the longest keys that are read. -/
def depthLimit : Nat := 80

def readKey : Reader (List String × String) := readKeyParts depthLimit

/-! ## Values -/

/-- The elements of an array after its bracket or a comma. -/
def readItems (element : Reader Value) : Nat → Reader (List Value)
  | 0, _ => none
  | fuel + 1, cs =>
      match skipGap cs with
      | ']' :: r => some ([], r)
      | cs => do
          let (v, cs) ← element cs
          match skipGap cs with
          | ',' :: r => do
              let (vs, cs) ← readItems element fuel r
              return (v :: vs, cs)
          | ']' :: r => return ([v], r)
          | _ => none

/-- The entries of an inline table after its brace or a comma, added to those before them. -/
def readInline (element : Reader Value) : Nat → Entries → Reader Entries
  | 0, _, _ => none
  | fuel + 1, entries, cs =>
      match skipGap cs with
      | '}' :: r => some (entries, r)
      | cs => do
          let ((path, last), cs) ← readKey cs
          match skipGap cs with
          | '=' :: r => do
              let (v, cs) ← element (skipGap r)
              let entries ← addDotted v last path entries
              match skipGap cs with
              | ',' :: r => readInline element fuel entries r
              | '}' :: r => return (entries, r)
              | _ => none
          | _ => none

/-- A value that nests at most `depth` arrays and inline tables. -/
def readValue : Nat → Reader Value
  | depth, cs =>
      match cs with
      | '"' :: _ => (readString? cs).map fun p => (.string (String.ofList p.1), p.2)
      | '\'' :: _ => (readString? cs).map fun p => (.string (String.ofList p.1), p.2)
      | '[' :: r =>
          match depth with
          | 0 => none
          | depth + 1 =>
              (readItems (readValue depth) (r.length + 1) r).map fun p => (.array p.1, p.2)
      | '{' :: r =>
          match depth with
          | 0 => none
          | depth + 1 =>
              (readInline (readValue depth) (r.length + 1) [] r).map fun p =>
                (.table (entryValues p.1), p.2)
      | cs =>
          let (scalar, rest) := spanScalar cs
          (readScalar? scalar).map fun v => (v, rest)

/-! ## Documents -/

/-- The tables so far, and the path of the one that is being filled. -/
structure Progress where
  root : Entries
  current : List String

/-- A header: a table between single brackets, or one more of an array between double ones. -/
def readHeader (cs : List Char) (p : Progress) : Option (Progress × List Char) :=
  match cs with
  | '[' :: '[' :: r => do
      let ((path, last), cs) ← readKey r
      let cs ← after? ']' (← after? ']' cs)
      let root ← updateAt (openElement last) path p.root
      return (⟨root, path ++ [last]⟩, cs)
  | '[' :: r => do
      let ((path, last), cs) ← readKey r
      let cs ← after? ']' cs
      let root ← updateAt (openTable last) path p.root
      return (⟨root, path ++ [last]⟩, cs)
  | _ => none

/-- A key with its value. -/
def readPair (cs : List Char) (p : Progress) : Option (Progress × List Char) := do
  let ((path, last), cs) ← readKey cs
  let cs ← after? '=' cs
  let (value, cs) ← readValue depthLimit (skipSpace cs)
  let root ← updateAt (addDotted value last path) p.current p.root
  return ({ p with root := root }, cs)

/-- Reads lines to the end of the text. Each round takes a character. -/
def readLinesOf : Nat → Progress → List Char → Option Progress
  | 0, p, cs => if cs.isEmpty then some p else none
  | fuel + 1, p, cs =>
      match skipGap cs with
      | [] => some p
      | c :: r => do
          let (p, cs) ← if c = '[' then readHeader (c :: r) p else readPair (c :: r) p
          readLinesOf fuel p (← endLine? cs)

/-- The entries of the document that a text spells. A mark of the byte order in front is skipped. -/
def read? (text : String) : Option (List (String × Value)) :=
  let cs :=
    match text.toList with
    | c :: r => if c = Char.ofNat 0xFEFF then r else c :: r
    | [] => []
  (readLinesOf (cs.length + 1) ⟨[], []⟩ cs).bind fun p => recognizeEntries? (entryValues p.root)

end PluginBundle.Toml
