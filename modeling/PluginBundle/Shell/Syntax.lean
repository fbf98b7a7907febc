/-!
# The syntax of scripts

The words of a shell script with the expansions in them, redirections, and the ways of putting
commands together. The larger one of the two dialects adds lists, calculations and conditions as
commands, and a few edits of values.

All texts hold one character for each byte, so that a script can print bytes which are no text.

The shell only stands in for the processes that a run starts, see `Shell.programs`. It is no part of
the tool.
-/

namespace PluginBundle.Shell

/-- The dialects of scripts. -/
inductive Dialect where
  | plain
  | extended
  deriving DecidableEq, Repr

/-- How a redirection opens its file. -/
inductive Opening where
  | input
  | output
  | append
  | overwrite
  | both
  deriving DecidableEq, Repr

/-- Which matches of a pattern are exchanged. -/
inductive ExchangeScope where
  | first
  | all
  | front
  | back
  deriving DecidableEq, Repr

/-- How a choice goes on behind the branch that it took. -/
inductive AfterBranch where
  | ends
  /-- The next branch is run as well. -/
  | fallsThrough
  /-- Other branches are looked at as well. -/
  | looksOn
  deriving DecidableEq, Repr

mutual

/-- A part of a word. Quoted parts are not split into fields. -/
inductive WordPart where
  | literal (text : List Char) (quoted : Bool)
  | parameter (target : Target) (edit : Edit) (quoted : Bool)
  | arithmetic (source : List WordPart) (quoted : Bool)
  | substitution (script : Command) (quoted : Bool)
  /-- The name of a stream from which a script can be read, or which it reads. -/
  | connection (script : Command) (reads : Bool)
  /-- The elements that a variable is given by a command. -/
  | elements (items : List (Option (List WordPart) × List WordPart))

/-- What an expansion takes the value of. -/
inductive Target where
  | named (name : List Char)
  | element (name : List Char) (index : List WordPart)
  /-- All elements of a list, as fields of their own or joined. -/
  | elements (name : List Char) (joined : Bool)
  | indices (name : List Char)
  /-- The variable whose name is the value of another one. -/
  | indirect (name : List Char)
  | indirectElement (name : List Char) (index : List WordPart)
  /-- The names of variables that start so. -/
  | namesFrom (start : List Char) (joined : Bool)
  /-- The text between the braces names nothing. -/
  | malformed

/-- What is made of a value before it is used. -/
inductive Edit where
  | plain
  /-- The number of characters stands for the value. -/
  | length
  /-- The shortest or longest match of a pattern is cut off the front or the back. -/
  | cut (front longest : Bool) (pattern : List WordPart)
  /-- Another text is used where the value is missing, and being empty may count as missing. The
  text may also become the value. -/
  | fallback (emptyToo assigned : Bool) (text : List WordPart)
  /-- Another text is used where the value is not missing. -/
  | replacement (emptyToo : Bool) (text : List WordPart)
  /-- The script ends with a message where the value is missing. -/
  | demand (emptyToo : Bool) (message : List WordPart)
  | slice (offset : List WordPart) (length : Option (List WordPart))
  | exchange (scope : ExchangeScope) (pattern text : List WordPart)
  /-- The first letter or all letters change their case. -/
  | recase (upper all : Bool)
  /-- The value is written so that a script can read it. -/
  | requote
  /-- Escapes in the value are replaced. -/
  | unescape

/-- What a variable is given. -/
inductive AssignedValue where
  | single (word : List WordPart)
  /-- Elements, some with their subscripts. -/
  | list (items : List (Option (List WordPart) × List WordPart))

/-- A variable, or an element of a list, with what it is given or what is added to it. -/
inductive Assignment where
  | assign (name : List Char) (index : Option (List WordPart)) (added : Bool)
      (value : AssignedValue)

/-- Where a stream leads. -/
inductive Redirection where
  | file (stream : Nat) (opening : Opening) (name : List WordPart)
  /-- To where another stream leads, or nowhere. -/
  | duplicate (stream : Nat) (target : List WordPart)
  /-- The input is written out in the script. -/
  | inline (stream : Nat) (text : List WordPart)
  /-- Both streams for output. -/
  | outputs (opening : Opening) (name : List WordPart)

/-- A condition of the larger dialect. -/
inductive Condition where
  | word (w : List WordPart)
  | unary (operator : List Char) (w : List WordPart)
  | binary (left : List WordPart) (operator : List Char) (right : List WordPart)
  | negated (condition : Condition)
  | both (first second : Condition)
  | either (first second : Condition)

/-- A command, with the line on which it starts where messages may tell. -/
inductive Command where
  | nothing
  | simple (line : Nat) (assignments : List Assignment) (words : List (List WordPart))
      (redirections : List Redirection)
  | redirected (line : Nat) (command : Command) (redirections : List Redirection)
  | sequence (first second : Command)
  | both (first second : Command)
  | either (first second : Command)
  | negated (command : Command)
  | pipe (commands : List Command)
  | background (command : Command)
  | conditional (condition yes : Command) (no : Option Command)
  | loop (whileTrue : Bool) (condition body : Command)
  | forEach (line : Nat) (name : List Char) (words : List (List WordPart)) (body : Command)
  | forCount (start test step : List WordPart) (body : Command)
  /-- The first branch that has a matching pattern is run. -/
  | choose (line : Nat) (subject : List WordPart)
      (branches : List (List (List WordPart) × Command × AfterBranch))
  | define (line : Nat) (name : List Char) (body : Command)
  | subshell (line : Nat) (command : Command) (redirections : List Redirection)
  | calculation (line : Nat) (source : List WordPart)
  | condition (line : Nat) (test : Condition)
  /-- Prints a file. -/
  | printFile (line : Nat) (name : List WordPart)
  /-- Says how long a command took. -/
  | timed (command : Command)

end

abbrev Word := List WordPart

instance : Inhabited Command := ⟨.nothing⟩

/-- The text of literal parts; nothing if a word has other ones. -/
def literalText? : Word → Option (List Char)
  | [] => some []
  | .literal text _ :: rest => (literalText? rest).map (text ++ ·)
  | _ :: _ => none

end PluginBundle.Shell
