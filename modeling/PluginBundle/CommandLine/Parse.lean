import PluginBundle.CommandLine.Arguments
import PluginBundle.CommandLine.Switch

/-!
# Words of a command line

Options are written long or short, and short ones may be joined. A value follows an option in the
same word or in the next one, unless that starts with a hyphen. A value in the next word is only
looked at when the next option comes, or at the end, so a word that is no option at all is
complained about first. What the command line leaves open, the environment may give.
-/

namespace PluginBundle

/-- Why a command line is not carried out. -/
inductive UsageError where
  | unknownArgument
  | invalidValue
  | valueValidation
  | tooManyValues
  | argumentConflict
  /-- Help is asked for: all of it, or a summary. -/
  | displayHelp (isFull : Bool)
  | displayVersion
  deriving DecidableEq, Repr

/-- Asking for help or the version is no failure. -/
def UsageError.exitCode : UsageError → Nat
  | .displayHelp _ => 0
  | .displayVersion => 0
  | _ => 2

/-! ## Values -/

/-- A path must not be empty. -/
def pathValue (value : String) : Except UsageError Path :=
  if value.isEmpty then .error .invalidValue else .ok ⟨value⟩

def bundlerValue (value : String) : Except UsageError BundlerKind :=
  match BundlerKind.all.find? (·.program == value) with
  | some kind => .ok kind
  | none => .error .invalidValue

def styleValue (value : String) : Except UsageError ImportStyle :=
  match [ImportStyle.commonJs, ImportStyle.esm].find? (·.word == value) with
  | some style => .ok style
  | none => .error .invalidValue

/-- Decimal digits, with a plus sign in front or not, of a number of sixty-four bits. -/
def secondsValue (value : String) : Except UsageError Nat :=
  let digits :=
    match value.toList with
    | '+' :: r => r
    | r => r
  let n := digits.foldl (fun n c => n * 10 + (c.toNat - 48)) 0
  if !digits.isEmpty && digits.all Char.isDigit && n < 18446744073709551616 then .ok n
  else .error .valueValidation

/-- The arguments with the value of an option. -/
def Arguments.set (a : Arguments) (switch : Switch) (value : String) :
    Except UsageError Arguments :=
  match switch with
  | .config => (pathValue value).map fun p => { a with configFile := some p }
  | .baseDir => (pathValue value).map fun p => { a with baseDir := some p }
  | .outputPath => (pathValue value).map fun p => { a with outputPath := some p }
  | .outputFilename => .ok { a with outputFilename := some value }
  | .bundler => (bundlerValue value).map fun kind => { a with bundler := some kind }
  | .bundlerBin => (pathValue value).map fun p => { a with bundlerBin := some p }
  | .timeout => (secondsValue value).map fun n => { a with timeout := some n }
  | .moduleFormat => (styleValue value).map fun style => { a with moduleFormat := style }
  | .debug => .ok { a with debug := true }
  | .emitScript => .ok { a with emitScript := true }
  | .verbose => .ok { a with verbose := true }
  | .help => .error (.displayHelp true)
  | .version => .error .displayVersion

/-! ## Words -/

/-- The words so far: the arguments they gave, the options they used, and an option at the end whose
value is not there yet or was not looked at. -/
structure Parsing where
  arguments : Arguments
  used : List Switch
  pending : Option (Switch × Option String)

namespace Parsing

def initial : Parsing := ⟨.empty, [], none⟩

/-- Takes the value of an option that may be used once. -/
def take (p : Parsing) (switch : Switch) (value : String) : Except UsageError Parsing :=
  if p.used.contains switch then .error .argumentConflict
  else (p.arguments.set switch value).map fun a => ⟨a, switch :: p.used, p.pending⟩

/-- Looks at the value of the option at the end. -/
def settle (p : Parsing) : Except UsageError Parsing :=
  match p.pending with
  | none => .ok p
  | some (_, none) => .error .invalidValue
  | some (switch, some value) => ({ p with pending := none }).take switch value

/-- An option with its value. -/
def use (p : Parsing) (switch : Switch) (value : String) : Except UsageError Parsing :=
  match p.settle with
  | .error e => .error e
  | .ok p => p.take switch value

/-- An option that has no value. A summary answers a call for help by letter, and all of it one by
word. -/
def useFlag (p : Parsing) (switch : Switch) (isLong : Bool) : Except UsageError Parsing :=
  match p.settle with
  | .error e => .error e
  | .ok p => if switch = .help then .error (.displayHelp isLong) else p.take switch ""

/-- An option whose value is in the next word. -/
def await (p : Parsing) (switch : Switch) : Except UsageError Parsing :=
  match p.settle with
  | .error e => .error e
  | .ok p => .ok { p with pending := some (switch, none) }

/-- A word that starts with two hyphens, without them. -/
def longWord (p : Parsing) (word : List Char) : Except UsageError Parsing :=
  let name := word.takeWhile (· != '=')
  let rest := word.dropWhile (· != '=')
  match Switch.ofLong? (String.ofList name) with
  | none => .error .unknownArgument
  | some switch =>
      if switch.takesValue then
        match rest with
        | [] => p.await switch
        | _ :: value => p.use switch (String.ofList value)
      else if rest.isEmpty then p.useFlag switch true
      else .error .tooManyValues

/-- The letters after one hyphen. -/
def shortWord (p : Parsing) : List Char → Except UsageError Parsing
  | [] => .ok p
  | letter :: rest =>
      match Switch.ofShort? letter with
      | none => .error .unknownArgument
      | some switch =>
          if switch.takesValue then
            match rest with
            | [] => p.await switch
            | '=' :: value => p.use switch (String.ofList value)
            | value => p.use switch (String.ofList value)
          else
            match p.useFlag switch false with
            | .error e => .error e
            | .ok p => shortWord p rest

/-- Takes the words of a command line in order. There are no arguments besides options, so whatever
follows two lone hyphens is unknown. -/
def words (p : Parsing) : List String → Except UsageError Parsing
  | [] => .ok p
  | word :: rest =>
      match word.toList with
      | ['-', '-'] => if rest.isEmpty then .ok p else .error .unknownArgument
      | '-' :: '-' :: long =>
          match p.longWord long with
          | .error e => .error e
          | .ok p => words p rest
      | '-' :: c :: short =>
          match p.shortWord (c :: short) with
          | .error e => .error e
          | .ok p => words p rest
      | _ =>
          match p.pending with
          -- The value is kept as it is; `settle` looks at it when the next option comes.
          | some (switch, none) => words { p with pending := some (switch, some word) } rest
          | _ => .error .unknownArgument

/-- Takes what the environment gives for options that were not used. -/
def environment (p : Parsing) (lookup : String → Option String) :
    List Switch → Except UsageError Parsing
  | [] => .ok p
  | switch :: rest =>
      match switch.environmentName?.bind lookup with
      | none => environment p lookup rest
      | some value =>
          if p.used.contains switch then environment p lookup rest
          else
            match p.take switch value with
            | .error e => .error e
            | .ok p => environment p lookup rest

end Parsing

/-- The arguments that the words of a command line and the environment give. -/
def Arguments.parse (words : List String) (lookup : String → Option String) :
    Except UsageError Arguments :=
  match Parsing.initial.words words with
  | .error e => .error e
  | .ok p =>
      match p.settle with
      | .error e => .error e
      | .ok p => (p.environment lookup Switch.all).map (·.arguments)

end PluginBundle
