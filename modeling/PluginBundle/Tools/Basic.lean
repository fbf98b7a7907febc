import PluginBundle.Shell.Process
import PluginBundle.Shell.Redirect

/-!
# System programs

A system program is an action on its arguments, in the process that it runs in. Its options stand
anywhere among the arguments; two dashes end them.

The system programs are what the script of a bundler may call. Like the shell they only stand in for
started processes, and are no part of the tool.
-/

namespace PluginBundle.Tools

open PluginBundle.Shell

/-- What a program does with its arguments, given how other programs are run. -/
abbrev Tool := Runner → List (List Char) → Act Unit

/-- The options of a program. -/
structure Options where
  /-- The letters of options without an argument, and of those with one. -/
  plain : String
  withArgument : String
  /-- Long names for letters. -/
  names : List (String × Char)
  /-- Options may stand behind arguments. -/
  mixed : Bool
  /-- The status of a call that makes no sense. -/
  trouble : Nat

/-- Options that were given, and the other arguments. -/
structure Given where
  options : List (Char × List Char)
  arguments : List (List Char)

namespace Given

def has (g : Given) (letter : Char) : Bool := g.options.any (·.1 == letter)

/-- The argument of an option. If it is given more than once, the last one counts. -/
def value? (g : Given) (letter : Char) : Option (List Char) := g.options.reverse.lookup letter

/-- The arguments of all options of a letter. -/
def values (g : Given) (letter : Char) : List (List Char) :=
  g.options.filterMap fun o => if o.1 = letter then some o.2 else none

/-- The last one of some letters that is given. -/
def last? (g : Given) (letters : List Char) : Option Char :=
  (g.options.reverse.find? fun o => letters.contains o.1).map (·.1)

end Given

/-- A message of the program. -/
def complain (text : List Char) : Act Unit := do
  Act.printError ((← get).name ++ [':', ' '] ++ text ++ ['\n'])

/-- A failure that does not end the program. -/
def fail (text : List Char) : Act Unit := do
  complain text
  Act.setStatus 1

/-- Ends the program with a message. -/
def stop {α : Type} (status : Nat) (text : List Char) : Act α := do
  complain text
  Act.setStatus status
  throw .exit

/-- Ends the program with a hint. -/
def hint {α : Type} (status : Nat) : Act α := do
  let name := (← get).name
  Act.printError (ofText "Try '" ++ name ++ ofText " --help' for more information.\n")
  Act.setStatus status
  throw .exit

/-- Ends the program with a message and a hint. -/
def misuse {α : Type} (status : Nat) (text : List Char) : Act α := do
  complain text
  hint status

/-- The text between quotes. -/
def inMarks (cs : List Char) : List Char := ['\''] ++ cs ++ ['\'']

/-- Runs a program. At its end it says so if something could not be printed. -/
def runTool (act : Act Unit) : Act Unit := do
  act
  let s ← get
  if s.muted then
    let cause :=
      if lastName s.name = "cat".toList then "standard output: " else "write error: "
    fail (ofText (cause ++ "Bad file descriptor"))
where
  lastName (cs : List Char) : List Char := (cs.reverse.takeWhile (· != '/')).reverse

namespace Options

/-- The letter of a long option. A name may be cut short as long as it is clear. -/
def letter? (o : Options) (name : List Char) : Option Char :=
  match o.names.find? fun n => n.1.toList == name with
  | some n => some n.2
  | none =>
      match o.names.filter fun n => name.isPrefixOf n.1.toList with
      | [n] => some n.2
      | _ => none

/-- The option of a long name with the words behind it. -/
def readLong (o : Options) (text : List Char) (rest : List (List Char)) :
    Act ((Char × List Char) × List (List Char)) := do
  let name := text.takeWhile (· != '=')
  match o.letter? name with
  | none => misuse o.trouble (ofText "unrecognized option '--" ++ text ++ ['\''])
  | some letter =>
      if name.length < text.length then return ((letter, text.drop (name.length + 1)), rest)
      else if !o.withArgument.toList.contains letter then return ((letter, []), rest)
      else
        match rest with
        | value :: rest => return ((letter, value), rest)
        | [] => misuse o.trouble (ofText "option '--" ++ name ++ ofText "' requires an argument")

/-- Reads the options among words. Each round takes a letter or a word, so `fuel` beyond their
number is never used up. -/
def read (o : Options) : Nat → Given → List (List Char) → Act Given
  | 0, g, _ => return g
  | fuel + 1, g, words => do
      match words with
      | [] => return g
      | ['-', '-'] :: rest => return { g with arguments := g.arguments ++ rest }
      | ('-' :: '-' :: text) :: rest =>
          let (found, rest) ← o.readLong text rest
          o.read fuel { g with options := g.options ++ [found] } rest
      | ('-' :: c :: letters) :: rest =>
          if o.withArgument.toList.contains c then
            match letters, rest with
            | [], value :: rest =>
                o.read fuel { g with options := g.options ++ [(c, value)] } rest
            | [], [] => misuse o.trouble (ofText "option requires an argument -- '" ++ [c, '\''])
            | value, rest => o.read fuel { g with options := g.options ++ [(c, value)] } rest
          else if o.plain.toList.contains c then
            let rest := if letters.isEmpty then rest else ('-' :: letters) :: rest
            o.read fuel { g with options := g.options ++ [(c, [])] } rest
          else misuse o.trouble (ofText "invalid option -- '" ++ [c, '\''])
      | word :: rest =>
          if o.mixed then o.read fuel { g with arguments := g.arguments ++ [word] } rest
          else return { g with arguments := g.arguments ++ words }

/-- The options and arguments among words. -/
def take (o : Options) (words : List (List Char)) : Act Given :=
  o.read (words.flatten.length + words.length + 1) ⟨[], []⟩ words

end Options

/-! ## Input -/

/-- The cause of a failure as messages show it. -/
def causeText : IoError → List Char
  | .system cause => ofText cause.describe
  | e => ofText e.message

/-- The text of the input. -/
def takeInput : Act (List Char) := Act.takeInput

/-- The text of a stream, unless it leads to a directory. -/
def readStream (stream : Nat) : Act (Except IoError (List Char)) := do
  let s ← get
  match (s.channel? stream).bind s.world.channel? with
  | some .directory => return .error (.system .isADirectory)
  | _ => return .ok (← Act.takeAllFrom stream)

/-- The text of a file; a dash stands for the input. -/
def readFile (name : List Char) : Act (Except IoError (List Char)) := do
  if name = ['-'] then readStream 0
  else
    match specialFile? name with
    | some (.stream n) => readStream n
    | some .sink => return .ok []
    | none =>
        let s ← get
        return (s.world.disk.read s.cwd (State.path name)).map ofBytes

/-- The files that a program is to read: those that are named, else its input. -/
def inputNames (arguments : List (List Char)) : List (List Char) :=
  if arguments.isEmpty then [['-']] else arguments

/-- The pieces of a text that a character ends, and whether the last one has an end. -/
def piecesOf (stop : Char) (cs : List Char) : List (List Char) × Bool :=
  let (done, unended) := cs.foldl (fun (done, piece) c =>
    if c = stop then (piece.reverse :: done, []) else (done, c :: piece)) ([], [])
  if unended.isEmpty then (done.reverse, true) else ((unended.reverse :: done).reverse, false)

/-- Lines without their ends, and whether the last one has an end. -/
def linesOf (cs : List Char) : List (List Char) × Bool := piecesOf '\n' cs

/-- The text of lines. -/
def ofLines (lines : List (List Char)) (ended : Bool) : List Char :=
  let text := lines.flatMap fun line => line ++ ['\n']
  if ended then text else text.dropLast

/-- A number at its shortest. -/
def natural? (cs : List Char) : Option Nat :=
  if !cs.isEmpty && cs.all Char.isDigit then
    some (cs.foldl (fun n c => n * 10 + (c.toNat - 48)) 0)
  else none

/-- A number in a column, with blanks in front of it. -/
def column (width n : Nat) : List Char :=
  let digits := Nat.toDigits 10 n
  List.replicate (width - digits.length) ' ' ++ digits

end PluginBundle.Tools
