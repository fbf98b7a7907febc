/-!
# Control sequences

Text for a terminal holds sequences that move the cursor or change colours. Taking them out leaves
what a reader sees: the printable characters and the white space.
-/

namespace PluginBundle

/-- What the characters before a place have begun. -/
inductive ControlState where
  | text
  | escape
  /-- An escape of several characters. -/
  | longEscape
  /-- A command with parameters, which a letter or a sign ends. -/
  | command
  /-- A title or a setting, which a bell ends. -/
  | setting
  /-- A text for the terminal. -/
  | message
  deriving DecidableEq, Repr

namespace ControlState

def isPlain (c : Char) : Bool :=
  (0x20 ≤ c.toNat && c.toNat != 0x7F) || c == '\n' || c == '\t' || c == '\r' || c == '\x0c'

/-- The state after a character behind an escape. -/
def afterEscape (c : Char) : ControlState :=
  if c = '[' then .command
  else if c = ']' then .setting
  else if c = 'P' ∨ c = 'X' ∨ c = '^' ∨ c = '_' then .message
  else if c.toNat < 0x20 ∨ 0x7F ≤ c.toNat then .escape
  else if c.toNat < 0x30 then .longEscape
  else .text

/-- White space is shown even inside a sequence that is not closed, which it ends. -/
def interrupts (s : ControlState) (c : Char) : Bool :=
  s != .setting && s != .message && c.toNat < 0x20 && isPlain c

/-- The byte that ends a message can only stand inside the encoding of a character. -/
def endsMessage (c : Char) : Bool := (String.singleton c).toUTF8.toList.contains 0x9C

/-- The state after a character, and whether the character is shown. -/
def next (s : ControlState) (c : Char) : ControlState × Bool :=
  if c = '\x1b' then (.escape, false)
  else if c = '\x18' ∨ c = '\x1a' then (.text, false)
  else if s.interrupts c then (.text, true)
  else
    match s with
    | .text => (.text, isPlain c)
    | .escape => (afterEscape c, false)
    | .longEscape => (if 0x30 ≤ c.toNat ∧ c.toNat < 0x7F then .text else .longEscape, false)
    | .command => (if 0x40 ≤ c.toNat ∧ c.toNat < 0x7F then .text else .command, false)
    | .setting => (if c = '\x07' then .text else .setting, false)
    | .message => (if endsMessage c then .text else .message, false)

/-- What is shown of a text. -/
def shown : ControlState → List Char → List Char
  | _, [] => []
  | s, c :: cs =>
      let (s, visible) := s.next c
      if visible then c :: shown s cs else shown s cs

end ControlState

/-- The text without control sequences. -/
def stripControls (text : String) : String := String.ofList (ControlState.text.shown text.toList)

end PluginBundle
