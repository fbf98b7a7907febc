import PluginBundle.Proofs.Files.Directories
import PluginBundle.Proofs.Files.Joining

/-!
# What is read from a file that was written

A file that was written is read with the contents that were written, by the same path and from the
same working directory: `read_of_write`.  Two facts carry it: writing leaves the way to the file in
place, and a path that a file can be written to does not end like the path of a directory.

Nothing is said of other paths that lead to the same file, nor of a write that fails.
-/

namespace PluginBundle

namespace Path

variable {p : Path}

theorem splitSlash_of_not_mem {cs : List Char} (h : '/' ∉ cs) : splitSlash cs = [cs] := by
  induction cs with
  | nil => rfl
  | cons c rest ih =>
      simp only [List.mem_cons, not_or] at h
      simp [splitSlash, Ne.symm h.1, ih h.2]

/-- The last piece of a text.  It is empty only behind a slash, or if the text is empty. -/
theorem exists_last_piece (cs : List Char) :
    ∃ front piece, splitSlash cs = front ++ [piece] ∧
      (piece = [] → cs = [] ∨ cs.getLast? = some '/') := by
  by_cases hslash : '/' ∈ cs
  · obtain ⟨tail, front, hreverse, htail⟩ :=
      List.eq_append_cons_of_mem (List.mem_reverse.2 hslash)
    have hcs : cs = front.reverse ++ '/' :: tail.reverse := by
      have hback := congrArg List.reverse hreverse
      simpa using hback
    refine ⟨splitSlash front.reverse, tail.reverse, ?_, fun hempty => .inr ?_⟩
    · have hpiece : '/' ∉ tail.reverse := by simpa using htail
      rw [hcs, splitSlash_append, splitSlash_of_not_mem hpiece]
    · simp [hcs, hempty]
  · exact ⟨[], cs, by simp [splitSlash_of_not_mem hslash], fun hempty => .inl hempty⟩

/-- A path ends in a name if its last name is no dots and no slash follows it. -/
theorem namesDirectory_eq_false {name : List Char} (hslash : p.endsWithSlash = false)
    (hlast : (splitSlash p.chars).reverse.find? (!·.isEmpty) = some name) (hdot : name ≠ ['.'])
    (hdots : name ≠ ['.', '.']) : p.namesDirectory = false := by
  obtain ⟨front, piece, hpieces, hempty⟩ := exists_last_piece p.chars
  have hpiece : piece ≠ [] := by
    intro hnil
    obtain hchars | hend := hempty hnil
    · simp [hchars, splitSlash] at hlast
    · simp [endsWithSlash, hend] at hslash
  obtain rfl : piece = name := by simpa [hpieces, hpiece] using hlast
  simp [namesDirectory, hpieces, hpiece, hdot, hdots]

end Path

namespace Disk

variable {d d' : Disk} {cwd : Place} {p : Path} {place : Place} {contents : ByteArray}

theorem find?_set_self (hplace : place ≠ []) (d : Disk) (entry : Entry) :
    (d.set place entry).find? place = some entry := by
  simp [find?, set, hplace]

/-- A path that leads to a name in a directory. -/
theorem approach_eq_named {slash : Bool} (h : d.approach cwd p = .ok (.named place slash)) :
    checkPath p = .ok () ∧ d.walk (origin cwd p) p.names = .ok place ∧
      slash = p.endsWithSlash ∧ (slash = false → p.namesDirectory = false) := by
  unfold approach at h
  cases hcheck : checkPath p with
  | error e => simp [hcheck, bind, Except.bind] at h
  | ok _ =>
      cases hwalk : d.walk (origin cwd p) p.names with
      | error e => simp [hcheck, hwalk, bind, Except.bind] at h
      | ok goal =>
          simp only [hcheck, hwalk, bind, Except.bind] at h
          split at h
          · -- Behind dots, or without any name, only a directory is answered.
            split at h <;> cases h
          · rename_i hnamed
            cases hlast : (Path.splitSlash p.chars).reverse.find? (!·.isEmpty) with
            | none => simp [hlast] at hnamed
            | some name =>
                have hdot : name ≠ ['.'] := by simpa [hlast] using hnamed
                by_cases hdots : name = ['.', '.']
                · simp [hlast, hdots, pure, Except.pure] at h
                · obtain ⟨rfl, rfl⟩ : goal = place ∧ p.endsWithSlash = slash := by
                    simpa [hlast, hdots, pure, Except.pure] using h
                  exact ⟨rfl, rfl, rfl, fun hslash =>
                    Path.namesDirectory_eq_false hslash hlast hdot hdots⟩

theorem read_of_writeFile (h : d.writeFile cwd p contents = .ok d') :
    d'.read cwd p = .ok contents := by
  have hkeeps := writeFile_keeps h
  obtain ⟨place, executable, happroach, hfind, rfl⟩ := writeFile_eq_ok h
  obtain ⟨hcheck, hwalk, -, hends⟩ := approach_eq_named happroach
  have hroot : place ≠ [] := by
    rintro rfl
    exact hfind rfl
  have hresolve : (d.set place (.file contents executable)).resolve cwd p =
      .ok (place, .file contents executable) := by
    refine resolve_eq_ok_iff.2
      ⟨hcheck, walk_of_keeps hkeeps hwalk, find?_set_self hroot d _, fun hdirectory => ?_⟩
    rw [hends rfl] at hdirectory
    cases hdirectory
  rw [read, hresolve]

/-- **A file that was written is read back**, also where directories were made for it. -/
theorem read_of_write (h : d.write cwd p contents = (.ok (), d')) :
    d'.read cwd p = .ok contents := by
  unfold write at h
  dsimp only at h
  split at h
  · cases h
  · rename_i made _
    split at h
    · cases h
    · rename_i written hwrite
      cases h
      exact read_of_writeFile hwrite

end Disk
end PluginBundle
