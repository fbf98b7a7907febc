/-!
# Coloured and plain text

Text may be marked by colours and weights. Whether it is, the environment says.
-/

namespace PluginBundle

inductive Coloring where
  | plain
  | colored
  deriving DecidableEq, Repr

/-- What the environment says about colours in general, where the reader is no terminal. -/
def Coloring.ofEnvironment (lookup : String → Option String) : Coloring :=
  if (lookup "NO_COLOR").any (!·.isEmpty) then .plain
  else if (lookup "CLICOLOR_FORCE").any (· != "0") then .colored
  else .plain

/-- Text between the sequences that begin and end some markings. -/
def highlighted (codes : List String) (text : String) : String :=
  String.join (codes.map fun code => "\x1b[" ++ code ++ "m") ++ text ++ "\x1b[0m"

end PluginBundle
