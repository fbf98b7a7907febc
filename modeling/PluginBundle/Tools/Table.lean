import PluginBundle.Tools.Calls
import PluginBundle.Tools.Edit
import PluginBundle.Tools.Files
import PluginBundle.Tools.Find
import PluginBundle.Tools.Image
import PluginBundle.Tools.Lines
import PluginBundle.Tools.Order
import PluginBundle.Tools.Ranges
import PluginBundle.Tools.Search
import PluginBundle.Tools.Translate
import PluginBundle.Tools.Values

/-!
# The table of system programs

What each system program does, by its name. These are the programs that a bundler's script can
count on.
-/

namespace PluginBundle.Tools

/-- The programs that are no shells. -/
def table : List (String × Tool) :=
  [("[", testCondition true), ("base64", base64), ("basename", baseName), ("cat", cat),
   ("chmod", changeModes), ("cmp", compareFiles), ("comm", comm), ("cp", copyFiles), ("cut", cut),
   ("dirname", directoryNames), ("echo", echo), ("egrep", search .extended), ("env", env),
   ("expr", expr), ("false", failing), ("fgrep", search .fixed), ("find", find), ("fold", fold),
   ("grep", search .basic), ("head", head), ("ls", list), ("mkdir", makeDirectories),
   ("mktemp", makeTemporary), ("mv", moveFiles), ("nice", undisturbed), ("nl", nl),
   ("nohup", undisturbed), ("paste", paste), ("printenv", printEnvironment),
   ("printf", printFormat), ("pwd", printWorkingDirectory), ("readlink", readLink),
   ("realpath", realPath false false), ("rev", rev), ("rm", removeFiles),
   ("rmdir", removeDirectories), ("sed", edit), ("seq", sequence), ("sha256sum", checksum),
   ("sleep", sleep), ("sort", sort), ("sync", succeed), ("tac", tac), ("tail", tail), ("tee", tee),
   ("test", testCondition false), ("timeout", timeout), ("touch", touch), ("tr", translate),
   ("true", succeed), ("uname", systemName), ("uniq", uniq), ("wc", wc), ("which", which),
   ("whoami", userName), ("xargs", withArguments), ("yes", yes)]

/-- What the program of a name does. -/
def tool? (name : String) : Option Tool := table.lookup name

end PluginBundle.Tools
