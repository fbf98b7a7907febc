import PluginBundle.CommandLine.Switch
import PluginBundle.Text.Coloring
import PluginBundle.Text.ControlSequence

/-!
# Help

What is shown to a reader who asks for help: what the tool does, how it is used, and its options.
Each option stands on a line, and what it does below it. There is a summary, and the whole text with
blank lines between the options and with what each choice means.
-/

namespace PluginBundle

/-- A piece of a text for help. -/
inductive HelpPiece where
  | plain (text : String)
  | heading (text : String)
  /-- What is typed as it stands. -/
  | literal (text : String)
  deriving DecidableEq, Repr

namespace HelpPiece

def shown (coloring : Coloring) : HelpPiece → String
  | .plain text => text
  | .heading text => if coloring = .colored then highlighted ["1", "4"] text else text
  | .literal text => if coloring = .colored then highlighted ["1"] text else text

end HelpPiece

namespace Switch

/-- A line break, and blanks in front of what is said about an option. -/
def helpIndent : String := "\n          "

/-- The names of an option, and what stands for its value. -/
def helpHead (switch : Switch) : List HelpPiece :=
  let letter :=
    match switch.short? with
    | some c => [.plain "  ", .literal (String.ofList ['-', c]), .plain ", "]
    | none => [HelpPiece.plain "      "]
  let value :=
    match switch.valueName? with
    | some name => [HelpPiece.plain (" <" ++ name ++ ">")]
    | none => []
  letter ++ [.literal ("--" ++ switch.long)] ++ value

/-- What an option does. A call for help in one length leads to the other one. -/
def helpAbout (isFull : Bool) : Switch → String
  | .help =>
      Switch.help.about
        ++ (if isFull then " (see a summary with '-h')" else " (see more with '--help')")
  | switch => switch.about

/-- Where the value of an option may come from, and what it may be if that is not described. -/
def helpNotes (isFull : Bool) (lookup : String → Option String) (switch : Switch) :
    List String :=
  let given := switch.environmentName?.map fun name =>
    "[env: " ++ name ++ "=" ++ (lookup name).getD "" ++ "]"
  let standard := switch.default?.map fun value => "[default: " ++ value ++ "]"
  let choices :=
    if isFull || switch.choices.isEmpty then none
    else some ("[possible values: " ++ ", ".intercalate (switch.choices.map (·.1)) ++ "]")
  given.toList ++ standard.toList ++ choices.toList

/-- The choices for a value, one below the other, with what they mean. -/
def helpChoices (switch : Switch) : List HelpPiece :=
  let width := (switch.choices.map (·.1.length)).foldl max 0
  if switch.choices.isEmpty then []
  else
    .plain ("\n" ++ helpIndent ++ "Possible values:")
      :: switch.choices.flatMap fun (name, meaning) =>
        let padding := String.ofList (List.replicate (width - name.length) ' ')
        [.plain (helpIndent ++ "- "), .literal name, .plain (": " ++ padding ++ meaning)]

/-- All that is said about an option. -/
def helpEntry (isFull : Bool) (lookup : String → Option String) (switch : Switch) :
    List HelpPiece :=
  let notes := switch.helpNotes isFull lookup
  let gap := if notes.isEmpty then "" else if isFull then "\n\n" else " "
  let text := switch.helpAbout isFull ++ gap ++ (if isFull then "\n" else " ").intercalate notes
  let indented := helpIndent.intercalate (text.splitOn "\n")
  switch.helpHead ++ [.plain (helpIndent ++ indented)]
    ++ (if isFull then switch.helpChoices else [])

end Switch

/-- What the tool does, in a line. -/
def toolSummary : String := "Bundles opendatalayer with its configured plugins"

/-- What the tool does, with examples. -/
def toolDescription : String := String.join
  ["Generates the opendatalayer init script from a plugin configuration, bundles it with ",
   "browserify or esbuild, and writes a single standalone file.\n\n",
   "Usage:\n",
   "  odl-builder --config opendatalayer.config.json\n",
   "  odl-builder --output-path build --output-filename odl.js --bundler esbuild\n",
   "  odl-builder --emit-script\n\n",
   "Without --config, opendatalayer.config.json or opendatalayer.config.toml is looked up in the ",
   "base directory."]

/-- The pieces of the text for help. -/
def helpPieces (isFull : Bool) (lookup : String → Option String) : List HelpPiece :=
  let separator : HelpPiece := .plain (if isFull then "\n\n" else "\n")
  let entries := Switch.all.map (Switch.helpEntry isFull lookup)
  [.plain ((if isFull then toolDescription else toolSummary) ++ "\n\n"),
   .heading "Usage:", .plain " ", .literal "odl-builder", .plain " [OPTIONS]\n\n",
   .heading "Options:", .plain "\n"]
    ++ [separator].intercalate entries ++ [.plain "\n"]

/-- What is printed for help. Plain text holds no control sequences. -/
def helpText (isFull : Bool) (lookup : String → Option String) : String :=
  let coloring := Coloring.ofEnvironment lookup
  let text := String.join ((helpPieces isFull lookup).map (HelpPiece.shown coloring))
  if coloring = .colored then text else stripControls text

end PluginBundle
