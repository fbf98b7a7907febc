import PluginBundle.Text.Lossy

/-!
# Text of bytes

Bytes that need not be the encoding of any text are handled as text with one character for each
byte.
-/

namespace PluginBundle

/-- The text with one character for each byte. -/
def ofBytes (bytes : ByteArray) : List Char := bytes.toList.map fun b => Char.ofNat b.toNat

/-- The bytes of such a text. -/
def toBytes (cs : List Char) : ByteArray := (cs.map fun c => UInt8.ofNat c.toNat).toByteArray

/-- A text of characters as one of bytes. -/
def ofText (s : String) : List Char := ofBytes s.toUTF8

/-- A text of bytes as one of characters, as far as the bytes encode them. -/
def textOf (cs : List Char) : String := lossyText (toBytes cs)

end PluginBundle
