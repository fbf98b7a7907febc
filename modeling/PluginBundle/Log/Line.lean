import PluginBundle.Log.Filter
import PluginBundle.Text.Coloring
import PluginBundle.Text.ControlSequence

/-!
# Lines for log records

A record is shown with its level, its part and its message, in colours or plain. Further lines of a
message are indented, and plain lines hold no control sequences.
-/

namespace PluginBundle

/-- Log lines have a variable of their own in the environment, which goes before what is said about
colours in general. -/
def Coloring.ofLogEnvironment (lookup : String → Option String) : Coloring :=
  match lookup "RUST_LOG_STYLE" with
  | some "always" => .colored
  | some "never" => .plain
  | _ => .ofEnvironment lookup

/-- The colour of a level. -/
def LogLevel.color : LogLevel → String
  | .debug => "34"
  | .info => "32"
  | .warn => "33"

namespace LogRecord

/-- The message with further lines indented. -/
def indentedMessage (r : LogRecord) : String :=
  String.ofList (r.message.toList.flatMap fun c => if c = '\n' then "\n    ".toList else [c])

/-- The level, padded to five characters. -/
def paddedLevel (r : LogRecord) : String :=
  r.level.name ++ String.ofList (List.replicate (5 - r.level.name.length) ' ')

/-- The line for a record. -/
def line (coloring : Coloring) (r : LogRecord) : String :=
  match coloring with
  | .plain =>
      let head := "[" ++ r.paddedLevel ++ " " ++ r.source.name ++ "] "
      stripControls (head ++ r.indentedMessage ++ "\n")
  | .colored =>
      highlighted ["90"] "[" ++ highlighted [r.level.color] r.paddedLevel ++ " " ++ r.source.name
        ++ highlighted ["90"] "]" ++ " " ++ r.indentedMessage ++ "\n"

end LogRecord

/-- The lines of the records that a filter shows. -/
def LogFilter.lines (filter : LogFilter) (coloring : Coloring) (records : List LogRecord) : String :=
  String.join ((records.filter filter.shows).map (LogRecord.line coloring))

end PluginBundle
