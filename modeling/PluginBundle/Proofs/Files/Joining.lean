import PluginBundle.Files.Disk

/-!
# The names of joined paths

Paths are joined as texts, with a slash between them where one is wanted.  Read as names, a relative
path that is joined to another one only adds its names behind: `names_join`.  So a joined path is
followed by following its two parts one after the other, which `Disk.walk_append` says of the names.

Nothing is said of an absolute right side, which replaces the left one.
-/

namespace PluginBundle
namespace Path

theorem splitSlash_ne_nil (cs : List Char) : splitSlash cs ≠ [] := by
  cases cs with
  | nil => simp [splitSlash]
  | cons c rest =>
      unfold splitSlash
      split
      · simp
      · split <;> simp

/-- A slash ends a piece. -/
theorem splitSlash_append (xs ys : List Char) :
    splitSlash (xs ++ '/' :: ys) = splitSlash xs ++ splitSlash ys := by
  induction xs with
  | nil => simp [splitSlash]
  | cons c rest ih =>
      by_cases hslash : c = '/'
      · simp [splitSlash, hslash, ih]
      · cases hrest : splitSlash rest with
        | nil => exact absurd hrest (splitSlash_ne_nil rest)
        | cons piece pieces => simp [splitSlash, hslash, ih, hrest]

/-- The pieces that are names. -/
def isNamed (piece : List Char) : Bool := !piece.isEmpty && piece != ['.']

theorem names_eq (p : Path) :
    p.names = ((splitSlash p.chars).filter isNamed).map String.ofList := rfl

variable {p q : Path}

/-- The text between two paths that are joined. -/
def separator (p : Path) : String := if p.isEmpty || p.endsWithSlash then "" else "/"

theorem text_join (hq : q.isAbsolute = false) :
    (p.join q).text = p.text ++ (p.separator ++ q.text) := by
  unfold join separator
  rw [hq]
  cases p.isEmpty || p.endsWithSlash
  · simp [String.append_assoc]
  · simp

theorem chars_join (hq : q.isAbsolute = false) :
    (p.join q).chars = p.chars ++ (p.separator.toList ++ q.chars) := by
  simp [chars, text_join hq, String.toList_append]

/-- The pieces of a joined path are those of the right one behind others, which hold the names of
the left one. -/
theorem splitSlash_join (hq : q.isAbsolute = false) :
    ∃ front, splitSlash (p.join q).chars = front ++ splitSlash q.chars ∧
      front.filter isNamed = (splitSlash p.chars).filter isNamed := by
  rw [chars_join hq]
  by_cases hempty : p.chars = []
  · refine ⟨[], ?_, ?_⟩
    · simp [separator, isEmpty, hempty]
    · simp [hempty, splitSlash, isNamed]
  · have hfull : p.isEmpty = false := by simpa [isEmpty] using hempty
    by_cases hslash : p.endsWithSlash = true
    · -- The slash that is there already ends the last piece of the left path.
      obtain ⟨front, hfront⟩ : ∃ front, p.chars = front ++ ['/'] :=
        List.getLast?_eq_some_iff.1 (by simpa [endsWithSlash] using hslash)
      refine ⟨splitSlash front, ?_, ?_⟩
      · simp [separator, hslash, hfront, splitSlash_append]
      · simp [hfront, splitSlash_append, splitSlash, isNamed]
    · refine ⟨splitSlash p.chars, ?_, rfl⟩
      simp [separator, hslash, hfull, splitSlash_append]

/-- **The names of a joined path.** -/
theorem names_join (hq : q.isAbsolute = false) : (p.join q).names = p.names ++ q.names := by
  obtain ⟨front, hpieces, hfront⟩ := splitSlash_join (p := p) hq
  simp only [names_eq, hpieces, List.filter_append, hfront, List.map_append]

/-- A path from the root is not the empty one. -/
theorem isEmpty_of_isAbsolute (h : p.isAbsolute = true) : p.isEmpty = false := by
  cases hchars : p.chars with
  | nil => simp [isAbsolute, hchars] at h
  | cons _ _ => simp [isEmpty, hchars]

theorem isEmpty_join (hq : q.isAbsolute = false) :
    (p.join q).isEmpty = (p.isEmpty && q.isEmpty) := by
  cases hp : p.chars with
  | nil => simp [isEmpty, chars_join hq, separator, hp]
  | cons c rest => simp [isEmpty, chars_join hq, hp]

/-- A slash stands between two paths that are joined, unless the left one is empty. -/
theorem slash_mem_chars_join (hq : q.isAbsolute = false) (hp : p.isEmpty = false) :
    '/' ∈ (p.join q).chars := by
  rw [chars_join hq]
  by_cases hslash : p.endsWithSlash = true
  · have hlast : p.chars.getLast? = some '/' := by simpa [endsWithSlash] using hslash
    exact List.mem_append_left _ (List.mem_of_getLast? hlast)
  · simp [separator, hslash, hp]

/-- A path starts where its left part starts. -/
theorem isAbsolute_join (hq : q.isAbsolute = false) : (p.join q).isAbsolute = p.isAbsolute := by
  cases hp : p.chars with
  | nil =>
      have hsame : (p.join q).chars = q.chars := by
        simp [chars_join hq, separator, isEmpty, hp]
      simpa [isAbsolute, hp, hsame] using hq
  | cons c rest => simp [isAbsolute, chars_join hq, hp]

end Path

namespace Disk

variable {d : Disk} {cwd : Place} {p q : Path}

/-- A path that is good enough for the disk has good left parts. -/
theorem checkPath_of_join (hq : q.isAbsolute = false) (hp : p.isEmpty = false)
    (h : checkPath (p.join q) = .ok ()) : checkPath p = .ok () := by
  unfold checkPath at h ⊢
  split at h
  · cases h
  · rename_i hnul
    have hnul' : '\x00' ∉ p.chars := by
      intro hmem
      exact hnul (by simp [Path.chars_join hq, hmem])
    split at h
    · cases h
    · split at h
      · cases h
      · rename_i hsize
        rw [Path.text_join hq, String.utf8ByteSize_append] at hsize
        have hshort : ¬p.text.utf8ByteSize ≥ pathLimit := by omega
        simp [hnul', hp, hshort]

/-- Names are followed one after the other. -/
theorem walk_append (d : Disk) (place : Place) (xs ys : List String) :
    d.walk place (xs ++ ys) =
      match d.walk place xs with
      | .error e => .error e
      | .ok next => d.walk next ys := by
  induction xs generalizing place with
  | nil => rfl
  | cons name rest ih =>
      simp only [List.cons_append, walk]
      cases d.step place name with
      | error e => rfl
      | ok next => exact ih next

theorem walk_append_eq_ok_iff {place goal : Place} {xs ys : List String} :
    d.walk place (xs ++ ys) = .ok goal ↔
      ∃ next, d.walk place xs = .ok next ∧ d.walk next ys = .ok goal := by
  rw [walk_append]
  cases d.walk place xs with
  | error e => simp
  | ok next => simp

/-- A step leads from a directory, and without two dots to the place of the name in it. -/
theorem step_eq_ok {place next : Place} {name : String} (h : d.step place name = .ok next) :
    d.find? place = some .directory ∧ (name ≠ ".." → next = place ++ [name]) := by
  unfold step at h
  split at h
  · rename_i hfind
    refine ⟨hfind, fun hname => ?_⟩
    rw [if_neg hname] at h
    split at h
    · cases h
    · cases h
      rfl
  · cases h
  · cases h

/-- Names without two dots lead to their own place below the start. -/
theorem walk_below {place goal : Place} {names : List String} (hnames : ".." ∉ names)
    (h : d.walk place names = .ok goal) : goal = place ++ names := by
  induction names generalizing place with
  | nil =>
      cases h
      simp
  | cons name rest ih =>
      simp only [List.mem_cons, not_or] at hnames
      cases hstep : d.step place name with
      | error e => simp [walk, hstep] at h
      | ok next =>
          have hrest : d.walk next rest = .ok goal := by simpa [walk, hstep] using h
          rw [ih hnames.2 hrest, (step_eq_ok hstep).2 (Ne.symm hnames.1)]
          simp

end Disk
end PluginBundle
