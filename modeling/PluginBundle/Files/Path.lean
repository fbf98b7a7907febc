/-!
# Paths as text

A path is kept exactly as it was written. Joining only puts a slash between two texts where one is
wanted; nothing is normalized. The components that a path names are read off the text when they are
needed, with empty ones and single dots left out.
-/

namespace PluginBundle

/-- A path as it was written. -/
structure Path where
  text : String
  deriving DecidableEq, Repr

instance : Inhabited Path := ⟨⟨""⟩⟩

namespace Path

/-- The pieces of a text between slashes. -/
def splitSlash : List Char → List (List Char)
  | [] => [[]]
  | c :: cs =>
      if c = '/' then [] :: splitSlash cs
      else
        match splitSlash cs with
        | [] => [[c]]
        | piece :: pieces => (c :: piece) :: pieces

def chars (p : Path) : List Char := p.text.toList

def isEmpty (p : Path) : Bool := p.chars.isEmpty

/-- A path from the root. -/
def isAbsolute (p : Path) : Bool := p.chars.head? == some '/'

def endsWithSlash (p : Path) : Bool := p.chars.getLast? == some '/'

/-- The path `q` as seen from `p`: an absolute path replaces it, and otherwise a slash is put
between them unless the left text is empty or ends in one. -/
def join (p q : Path) : Path :=
  if q.isAbsolute then q
  else if p.isEmpty || p.endsWithSlash then ⟨p.text ++ q.text⟩
  else ⟨p.text ++ "/" ++ q.text⟩

/-- The path with text put behind it. -/
def withSuffix (p : Path) (suffix : String) : Path := ⟨p.text ++ suffix⟩

/-- The names on the way, with `..` among them and without empty pieces and single dots. -/
def names (p : Path) : List String :=
  ((splitSlash p.chars).filter fun piece => !piece.isEmpty && piece != ['.']).map String.ofList

/-- A path whose text ends in a slash or a lone dot can only be a directory. -/
def namesDirectory (p : Path) : Bool :=
  match (splitSlash p.chars).getLast? with
  | some piece => piece.isEmpty || piece == ['.'] || piece == ['.', '.']
  | none => false

/-- The last name, unless the path ends at the root, at a dot or at two dots. -/
def fileName? (p : Path) : Option String :=
  match p.names.getLast? with
  | some name => if name = ".." then none else some name
  | none => none

/-- What stands behind the last dot of the file name. A name that starts with its only dot has no
extension. -/
def extension? (p : Path) : Option String :=
  match p.fileName? with
  | none => none
  | some name =>
      let backwards := name.toList.reverse
      match backwards.dropWhile (· != '.') with
      | [] => none
      | [_] => none
      | _ :: _ => some (String.ofList (backwards.takeWhile (· != '.')).reverse)

/-- The text of a list of names, from the root or not. -/
def ofNames (absolute : Bool) (names : List String) : Path :=
  ⟨(if absolute then "/" else "") ++ "/".intercalate names⟩

/-- The path without its last component; none at the root and for the empty path. A leading dot is
a component of its own. -/
def parent? (p : Path) : Option Path :=
  let names := p.names
  let dotted := !p.isAbsolute && (splitSlash p.chars).head? == some ['.']
  match names.reverse with
  | [] => if dotted then some ⟨""⟩ else none
  | _ :: front =>
      if front.isEmpty && dotted then some ⟨"."⟩ else some (ofNames p.isAbsolute front.reverse)

end Path

end PluginBundle
