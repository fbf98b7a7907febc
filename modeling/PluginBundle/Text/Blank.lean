import PluginBundle.Text.CodeRanges

/-!
# Blank characters

The twenty-five code points with the Unicode property White_Space, and the text that is left when
they are taken off both ends.
-/

namespace PluginBundle

/-- The code points with the property White_Space. -/
def blankRanges : CodeRanges := ⟨
  [(0x9, 0xD), (0x20, 0x20), (0x85, 0x85), (0xA0, 0xA0), (0x1680, 0x1680), (0x2000, 0x200A),
   (0x2028, 0x2029), (0x202F, 0x202F), (0x205F, 0x205F), (0x3000, 0x3000)]⟩

/-- A character that leaves no ink and separates words. -/
def isBlank (c : Char) : Bool := blankRanges.contains c

/-- The characters between the first and the last that is not blank. -/
def trimChars (cs : List Char) : List Char :=
  ((cs.dropWhile isBlank).reverse.dropWhile isBlank).reverse

/-- The text without the blank characters at its ends. -/
def trim (s : String) : String := String.ofList (trimChars s.toList)

/-- A text of blank characters only; the empty text is one. -/
def isBlankText (s : String) : Bool := s.toList.all isBlank

theorem isBlankText_eq_false_iff (s : String) :
    isBlankText s = false ↔ ∃ c ∈ s.toList, isBlank c = false := by
  simp [isBlankText]

theorem dropWhile_isBlank_eq_nil_iff (cs : List Char) :
    cs.dropWhile isBlank = [] ↔ cs.all isBlank = true := by
  induction cs with
  | nil => simp
  | cons c rest ih => cases h : isBlank c <;> simp [h, ih]

theorem all_dropWhile_isBlank (cs : List Char) :
    (cs.dropWhile isBlank).all isBlank = cs.all isBlank := by
  induction cs with
  | nil => rfl
  | cons c rest ih => cases h : isBlank c <;> simp [h, ih]

/-- Trimming leaves nothing of a blank text, and of no other. -/
theorem trim_eq_empty_iff (s : String) : trim s = "" ↔ isBlankText s = true := by
  have hends : trimChars s.toList = [] ↔ s.toList.all isBlank = true := by
    rw [trimChars, List.reverse_eq_nil_iff, dropWhile_isBlank_eq_nil_iff, List.all_reverse,
      all_dropWhile_isBlank]
  rw [isBlankText, ← hends]
  constructor
  · intro h
    have htoList := congrArg String.toList h
    simpa [trim] using htoList
  · intro h
    simp [trim, h]

end PluginBundle
