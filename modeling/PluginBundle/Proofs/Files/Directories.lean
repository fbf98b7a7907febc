import PluginBundle.Files.Disk

/-!
# What writing leaves in place

Writing to a disk only adds entries and replaces the contents of files, so every directory stays
where it is.  A path that was followed through directories can be followed as before, and names the
same directory.

Removing is not covered here: it takes a file away and no directory either, but nothing is said of
what programs do to a disk.
-/

namespace PluginBundle
namespace Disk

variable {d d' d'' : Disk} {cwd : Place} {p : Path}

/-- Every directory of the one disk is a directory of the other one. -/
def KeepsDirectories (d d' : Disk) : Prop :=
  ∀ place, d.find? place = some .directory → d'.find? place = some .directory

namespace KeepsDirectories

theorem refl (d : Disk) : d.KeepsDirectories d := fun _ h => h

theorem trans (h : d.KeepsDirectories d') (h' : d'.KeepsDirectories d'') :
    d.KeepsDirectories d'' :=
  fun place hplace => h' place (h place hplace)

end KeepsDirectories

/-! ## Writing -/

theorem lookup_filter_of_ne {place other : Place} (h : other ≠ place)
    (entries : List (Place × Entry)) :
    (entries.filter (·.1 != place)).lookup other = entries.lookup other := by
  induction entries with
  | nil => rfl
  | cons e rest ih =>
      obtain ⟨key, entry⟩ := e
      by_cases hkey : key = place
      · subst hkey
        have hother : (other == key) = false := by simpa using h
        simp [List.lookup_cons, hother, ih]
      · simp [hkey, List.lookup_cons, ih]

theorem find?_set_of_ne {place other : Place} (h : other ≠ place) (entry : Entry) :
    (d.set place entry).find? other = d.find? other := by
  have hother : (other == place) = false := by simpa using h
  simp [find?, set, List.lookup_cons, hother, lookup_filter_of_ne h]

/-- An entry where no directory stood takes none away. -/
theorem keepsDirectories_set {place : Place} (h : d.find? place ≠ some .directory)
    (entry : Entry) : d.KeepsDirectories (d.set place entry) := by
  intro other hother
  have hne : other ≠ place := by
    rintro rfl
    exact h hother
  rw [find?_set_of_ne hne, hother]

/-- A directory is made where nothing stood. -/
theorem makeDirectory_eq_ok (h : d.makeDirectory cwd p = .ok d') :
    ∃ place, d.find? place = none ∧ d' = d.set place .directory := by
  unfold makeDirectory at h
  cases happroach : d.approach cwd p with
  | error e =>
      rw [happroach] at h
      cases h
  | ok last =>
      rw [happroach] at h
      cases last with
      | dots place => cases h
      | named place slash =>
          simp only [bind, Except.bind] at h
          cases hfind : d.find? place with
          | some entry =>
              rw [hfind] at h
              cases h
          | none =>
              rw [hfind] at h
              cases h
              exact ⟨place, hfind, rfl⟩

/-- A file is written under the last name of the path, where no directory stood. -/
theorem writeFile_eq_ok {contents : ByteArray} (h : d.writeFile cwd p contents = .ok d') :
    ∃ place executable, d.approach cwd p = .ok (.named place false) ∧
      d.find? place ≠ some .directory ∧ d' = d.set place (.file contents executable) := by
  unfold writeFile at h
  cases happroach : d.approach cwd p with
  | error e =>
      rw [happroach] at h
      cases h
  | ok last =>
      rw [happroach] at h
      cases last with
      | dots place => cases h
      | named place slash =>
          cases slash with
          | true => cases h
          | false =>
              simp only [bind, Except.bind] at h
              cases hfind : d.find? place with
              | none =>
                  rw [hfind] at h
                  cases h
                  exact ⟨place, false, rfl, by simp [hfind], rfl⟩
              | some entry =>
                  rw [hfind] at h
                  cases entry with
                  | directory => cases h
                  | file old executable =>
                      cases h
                      exact ⟨place, executable, rfl, by simp [hfind], rfl⟩

theorem makeDirectory_keeps (h : d.makeDirectory cwd p = .ok d') : d.KeepsDirectories d' := by
  obtain ⟨place, hfind, rfl⟩ := makeDirectory_eq_ok h
  exact keepsDirectories_set (by simp [hfind]) .directory

theorem writeFile_keeps {contents : ByteArray} (h : d.writeFile cwd p contents = .ok d') :
    d.KeepsDirectories d' := by
  obtain ⟨place, executable, -, hfind, rfl⟩ := writeFile_eq_ok h
  exact keepsDirectories_set hfind (.file contents executable)

/-- What was made on the way stays, also where the last step fails. -/
theorem makeDirectories_keeps (d : Disk) (cwd : Place) (p : Path) (fuel : Nat) :
    d.KeepsDirectories (d.makeDirectories cwd p fuel).2 := by
  induction fuel generalizing p with
  | zero => exact .refl d
  | succ fuel ih =>
      unfold makeDirectories
      split
      · exact .refl d
      split
      · rename_i made hmade
        exact makeDirectory_keeps hmade
      · -- The directory above is missing, so it is made first.
        split
        · exact .refl d
        · rename_i above habove
          have hup := ih above
          split
          · rename_i e made hmade
            simpa [hmade] using hup
          · rename_i made hmade
            rw [hmade] at hup
            split
            · rename_i both hboth
              exact hup.trans (makeDirectory_keeps hboth)
            · exact hup
      · exact .refl d

/-- **Writing a file takes no directory away**, whether it succeeds or not. -/
theorem write_keeps (d : Disk) (cwd : Place) (p : Path) (contents : ByteArray) :
    d.KeepsDirectories (d.write cwd p contents).2 := by
  have habove := makeDirectories_keeps d cwd (p.parent?.getD ⟨""⟩)
    ((p.parent?.getD ⟨""⟩).chars.length + 1)
  unfold write
  dsimp only
  cases hmade : d.makeDirectories cwd (p.parent?.getD ⟨""⟩)
      ((p.parent?.getD ⟨""⟩).chars.length + 1) with
  | mk result made =>
      rw [hmade] at habove
      cases result with
      | error e => exact habove
      | ok _ =>
          cases hwrite : made.writeFile cwd p contents with
          | error e => simpa [hwrite] using habove
          | ok written => simpa [hwrite] using habove.trans (writeFile_keeps hwrite)

/-! ## Following paths -/

/-- A step from a directory leads to the same place where the directory is kept. -/
theorem step_of_keeps (hkeeps : d.KeepsDirectories d') {place next : Place} {name : String}
    (h : d.step place name = .ok next) : d'.step place name = .ok next := by
  unfold step at h ⊢
  cases hfind : d.find? place with
  | none => simp [hfind] at h
  | some entry =>
      cases entry with
      | file contents executable => simp [hfind] at h
      | directory => simpa [hfind, hkeeps place hfind] using h

theorem walk_of_keeps (hkeeps : d.KeepsDirectories d') {place goal : Place} {names : List String}
    (h : d.walk place names = .ok goal) : d'.walk place names = .ok goal := by
  induction names generalizing place with
  | nil => exact h
  | cons name rest ih =>
      cases hstep : d.step place name with
      | error e => simp [walk, hstep] at h
      | ok next =>
          have hrest : d.walk next rest = .ok goal := by simpa [walk, hstep] using h
          simp [walk, step_of_keeps hkeeps hstep, ih hrest]

theorem not_nul_of_checkPath (h : checkPath p = .ok ()) : '\x00' ∉ p.chars := by
  unfold checkPath at h
  split at h
  · cases h
  · rename_i hnul
    simpa using hnul

/-- What it takes for a path to name a place and what stands there.  A path that can only be a
directory names no file. -/
theorem resolve_eq_ok_iff {place : Place} {entry : Entry} :
    d.resolve cwd p = .ok (place, entry) ↔
      checkPath p = .ok () ∧ d.walk (origin cwd p) p.names = .ok place ∧
        d.find? place = some entry ∧ (p.namesDirectory = true → entry = .directory) := by
  unfold resolve
  cases hcheck : checkPath p with
  | error e => simp [bind, Except.bind]
  | ok _ =>
      cases hwalk : d.walk (origin cwd p) p.names with
      | error e => simp [bind, Except.bind]
      | ok goal =>
          simp only [bind, Except.bind, Except.ok.injEq, true_and]
          -- What stands at the goal decides; a file is answered as such or refused.
          cases hfind : d.find? goal with
          | none =>
              constructor
              · intro h
                cases h
              · rintro ⟨rfl, hentry, -⟩
                simp [hfind] at hentry
          | some found =>
              cases found with
              | directory =>
                  constructor
                  · intro h
                    cases h
                    exact ⟨rfl, hfind, fun _ => rfl⟩
                  · rintro ⟨rfl, hentry, -⟩
                    obtain rfl : entry = .directory := by simpa [hfind] using hentry.symm
                    rfl
              | file contents executable =>
                  cases hends : p.namesDirectory with
                  | true =>
                      constructor
                      · intro h
                        cases h
                      · rintro ⟨rfl, hentry, hdirectory⟩
                        simp [hfind, hdirectory rfl] at hentry
                  | false =>
                      constructor
                      · intro h
                        cases h
                        exact ⟨rfl, hfind, fun h => nomatch h⟩
                      · rintro ⟨rfl, hentry, -⟩
                        obtain rfl : entry = .file contents executable := by
                          simpa [hfind] using hentry.symm
                        rfl

/-- What it takes for a path to name a directory. -/
theorem resolve_eq_directory_iff {place : Place} :
    d.resolve cwd p = .ok (place, .directory) ↔
      checkPath p = .ok () ∧ d.walk (origin cwd p) p.names = .ok place ∧
        d.find? place = some .directory := by
  simp [resolve_eq_ok_iff]

/-- A path that names a directory names it wherever directories are kept. -/
theorem resolve_directory_of_keeps (hkeeps : d.KeepsDirectories d') {place : Place}
    (h : d.resolve cwd p = .ok (place, .directory)) :
    d'.resolve cwd p = .ok (place, .directory) := by
  obtain ⟨hcheck, hwalk, hfind⟩ := resolve_eq_directory_iff.1 h
  exact resolve_eq_directory_iff.2 ⟨hcheck, walk_of_keeps hkeeps hwalk, hkeeps place hfind⟩

end Disk
end PluginBundle
