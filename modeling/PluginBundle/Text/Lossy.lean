/-!
# Bytes read as text

Bytes that are not UTF-8 are still shown as text: each maximal part of an ill-formed sequence
becomes one replacement character. Well-formed bytes are read as they are.
-/

namespace PluginBundle

/-- The character that stands for bytes which are none. -/
def replacementChar : Char := Char.ofNat 0xFFFD

/-- The range of second bytes after a leading byte, and the number of bytes that follow it. -/
def sequenceShape (lead : UInt8) : Option (UInt8 × UInt8 × Nat) :=
  if lead < 0xC2 then none
  else if lead < 0xE0 then some (0x80, 0xBF, 1)
  else if lead = 0xE0 then some (0xA0, 0xBF, 2)
  else if lead = 0xED then some (0x80, 0x9F, 2)
  else if lead < 0xF0 then some (0x80, 0xBF, 2)
  else if lead = 0xF0 then some (0x90, 0xBF, 3)
  else if lead < 0xF4 then some (0x80, 0xBF, 3)
  else if lead = 0xF4 then some (0x80, 0x8F, 3)
  else none

/-- A character that is under way: the bits so far, the bytes still wanted, and the range of the
next one. -/
structure PartialChar where
  bits : Nat
  more : Nat
  least : UInt8
  most : UInt8

/-- The first byte of a character: a character, the start of one, or neither. -/
def startChar (byte : UInt8) : Option Char × Option PartialChar :=
  if byte < 0x80 then (some (Char.ofNat byte.toNat), none)
  else
    match sequenceShape byte with
    | none => (some replacementChar, none)
    | some (least, most, more) =>
        let mask := if more = 1 then 0x20 else if more = 2 then 0x10 else 0x08
        (none, some ⟨byte.toNat % mask, more, least, most⟩)

/-- The text of a sequence of bytes, given the character that is under way. -/
def lossyChars : Option PartialChar → List UInt8 → List Char
  | none, [] => []
  | some _, [] => [replacementChar]
  | none, byte :: rest =>
      match startChar byte with
      | (some c, _) => c :: lossyChars none rest
      | (none, under) => lossyChars under rest
  | some p, byte :: rest =>
      if p.least ≤ byte && byte ≤ p.most then
        let bits := p.bits * 64 + byte.toNat % 64
        if p.more ≤ 1 then Char.ofNat bits :: lossyChars none rest
        else lossyChars (some ⟨bits, p.more - 1, 0x80, 0xBF⟩) rest
      else
        match startChar byte with
        -- The byte breaks off what is under way, and is looked at again by itself.
        | (some c, _) => replacementChar :: c :: lossyChars none rest
        | (none, under) => replacementChar :: lossyChars under rest

/-- The text that bytes are shown as. -/
def lossyText (bytes : ByteArray) : String := String.ofList (lossyChars none bytes.toList)

end PluginBundle
