import PluginBundle.Duration
import PluginBundle.Files.Disk
import PluginBundle.Text.Bytes

/-!
# Channels

What the streams of running commands lead to: text that is collected, text that waits to be read,
and files with a place to go on from. Commands that share a channel go on where the other one
stopped.
-/

namespace PluginBundle.Shell

/-- What a stream leads to. -/
inductive Channel where
  /-- What is written is collected, last piece first. -/
  | collected (pieces : List (List Char))
  /-- Text that waits to be read. -/
  | waiting (text : List Char)
  | file (place : Place) (position : Nat) (append readable writable : Bool)
  | directory
  | nowhere

/-- What all commands share: the disk and the channels by their numbers. -/
structure World where
  disk : Disk
  channels : List (Nat × Channel)
  /-- The number of the next channel. -/
  next : Nat
  /-- The number of the next process. -/
  nextProcess : Nat
  /-- How many steps may still be taken by all processes together. -/
  steps : Nat
  /-- How long processes have waited. -/
  waited : Duration

namespace World

def channel? (w : World) (id : Nat) : Option Channel := w.channels.lookup id

def setChannel (w : World) (id : Nat) (c : Channel) : World :=
  { w with channels := (id, c) :: w.channels.filter (·.1 != id) }

/-- Opens a channel. -/
def connect (w : World) (c : Channel) : Nat × World :=
  (w.next, { w with channels := (w.next, c) :: w.channels, next := w.next + 1 })

def close (w : World) (id : Nat) : World := { w with channels := w.channels.filter (·.1 != id) }

/-- The contents with text from a position on. -/
def overwrite (contents : ByteArray) (position : Nat) (text : ByteArray) : ByteArray :=
  let gap := (List.replicate (position - contents.size) (0 : UInt8)).toByteArray
  contents.extract 0 position ++ gap ++ text
    ++ contents.extract (position + text.size) contents.size

/-- Writes to a channel; nothing if that cannot be. -/
def write? (w : World) (id : Nat) (text : List Char) : Option World :=
  match w.channel? id with
  | some (.collected pieces) => some (w.setChannel id (.collected (text :: pieces)))
  | some .nowhere => some w
  | some (.file place position append readable true) =>
      match w.disk.find? place with
      | some (.file contents executable) =>
          let start := if append then contents.size else position
          let written := overwrite contents start (toBytes text)
          let w := { w with disk := w.disk.set place (.file written executable) }
          some (w.setChannel id (.file place (start + text.length) append readable true))
      | _ => some w
  | _ => none

/-- What a channel collected. -/
def collection (w : World) (id : Nat) : List Char :=
  match w.channel? id with
  | some (.collected pieces) => pieces.reverse.flatten
  | _ => []

/-- Where a line of bytes ends. -/
def lineEnd (bytes : ByteArray) : Nat → Nat → Nat
  | 0, position => position
  | fuel + 1, position =>
      if h : position < bytes.size then
        if bytes[position] = 10 then position + 1 else lineEnd bytes fuel (position + 1)
      else position

/-- Takes a line with its end, or what is left. -/
def takeLine (w : World) (id : Nat) : List Char × World :=
  match w.channel? id with
  | some (.waiting text) =>
      let line := text.takeWhile (· != '\n')
      let n := line.length + 1
      (text.take n, w.setChannel id (.waiting (text.drop n)))
  | some (.file place position append true writable) =>
      match w.disk.find? place with
      | some (.file contents _) =>
          let stop := lineEnd contents (contents.size - position) position
          (ofBytes (contents.extract position stop),
            w.setChannel id (.file place stop append true writable))
      | _ => ([], w)
  | _ => ([], w)

/-- Takes everything that is left. -/
def takeAll (w : World) (id : Nat) : List Char × World :=
  match w.channel? id with
  | some (.waiting text) => (text, w.setChannel id (.waiting []))
  | some (.file place position append true writable) =>
      match w.disk.find? place with
      | some (.file contents _) =>
          (ofBytes (contents.extract position contents.size),
            w.setChannel id (.file place (max position contents.size) append true writable))
      | _ => ([], w)
  | _ => ([], w)

end World

end PluginBundle.Shell
