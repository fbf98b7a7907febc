import PluginBundle.Proofs.Files.Contents

/-!
# Which files a call changes

On a disk without links the names of a path alone decide where it leads; the disk only decides whether
it leads there.  `Path.placeFrom` is that place.  A file that is written or removed by a path stands at
this place, and all other files stay as they are, byte for byte and with their modes:

* `isFile_iff`, `read_eq_ok_iff` – what is found by a path stands at its place.
* `write_eq_ok`, `remove_eq_ok` – what it takes for the call to succeed, and the disk that it leaves.
* `sameFiles_of_write_error` – a write that fails changes no file, whatever it made on the way.
* `placeFrom_withSuffix_ne` – a longer last name is another place.

Directories are not spoken of: writing may make some, and they are no files.
-/

namespace PluginBundle

/-! ## Places -/

/-- The place that a name leads to from a place. -/
def nextPlace (place : Place) (name : String) : Place :=
  if name = ".." then place.dropLast else place ++ [name]

/-- The place that a path leads to from a working directory, if it leads anywhere. -/
def Path.placeFrom (cwd : Place) (p : Path) : Place :=
  p.names.foldl nextPlace (Disk.origin cwd p)

namespace Disk

variable {d d' d'' : Disk} {cwd : Place} {p : Path} {contents : ByteArray}

theorem step_eq_nextPlace {place next : Place} {name : String}
    (h : d.step place name = .ok next) : next = nextPlace place name := by
  unfold step at h
  unfold nextPlace
  split at h
  · split at h
    · rename_i hdots
      cases h
      rw [if_pos hdots]
    · rename_i hdots
      split at h
      · cases h
      · cases h
        rw [if_neg hdots]
  · cases h
  · cases h

/-- A walk that comes to an end comes to the place of its names. -/
theorem walk_eq_foldl {place goal : Place} {names : List String}
    (h : d.walk place names = .ok goal) : goal = names.foldl nextPlace place := by
  induction names generalizing place with
  | nil =>
      cases h
      rfl
  | cons name rest ih =>
      cases hstep : d.step place name with
      | error e => simp [walk, hstep] at h
      | ok next =>
          have hrest : d.walk next rest = .ok goal := by simpa [walk, hstep] using h
          rw [ih hrest, step_eq_nextPlace hstep, List.foldl_cons]

theorem walk_eq_placeFrom {goal : Place} (h : d.walk (origin cwd p) p.names = .ok goal) :
    goal = p.placeFrom cwd :=
  walk_eq_foldl h

/-- Where a walk leads to one name in a directory, it leads to any other name that is not too long;
whether it is does not depend on the disk. -/
theorem walk_beside {place goal goal' : Place} {front : List String} {name other : String}
    (h : d.walk place (front ++ [name]) = .ok goal)
    (h' : d'.walk place (front ++ [other]) = .ok goal') :
    d'.walk place (front ++ [name]) = .ok goal := by
  obtain ⟨dir, hdir, hname⟩ := walk_append_eq_ok_iff.1 h
  obtain ⟨dir', hdir', hother⟩ := walk_append_eq_ok_iff.1 h'
  obtain rfl : dir' = dir := (walk_eq_foldl hdir').trans (walk_eq_foldl hdir).symm
  refine walk_append_eq_ok_iff.2 ⟨dir', hdir', ?_⟩
  have hhere : d.find? dir' = some .directory := by
    cases hstep : d.step dir' name with
    | error e => simp [walk, hstep] at hname
    | ok next => exact (step_eq_ok hstep).1
  have hthere : d'.find? dir' = some .directory := by
    cases hstep : d'.step dir' other with
    | error e => simp [walk, hstep] at hother
    | ok next => exact (step_eq_ok hstep).1
  have hstep : d'.step dir' name = d.step dir' name := by
    unfold step
    rw [hhere, hthere]
  simpa [walk, hstep] using hname

/-! ## Files -/

/-- The file of a place: its contents, and whether it may be run. -/
def fileAt? (d : Disk) (place : Place) : Option (ByteArray × Bool) :=
  match d.find? place with
  | some (.file contents executable) => some (contents, executable)
  | _ => none

/-- The two disks have the same files, but for those at the places. -/
def SameFilesBut (places : List Place) (d d' : Disk) : Prop :=
  ∀ place, place ∉ places → d'.fileAt? place = d.fileAt? place

namespace SameFilesBut

variable {places more : List Place}

theorem refl (places : List Place) (d : Disk) : SameFilesBut places d d := fun _ _ => rfl

theorem trans (h : SameFilesBut places d d') (h' : SameFilesBut more d' d'') :
    SameFilesBut (places ++ more) d d'' := by
  intro place hplace
  simp only [List.mem_append, not_or] at hplace
  rw [h' place hplace.2, h place hplace.1]

theorem mono (h : SameFilesBut places d d') (hmore : ∀ place ∈ places, place ∈ more) :
    SameFilesBut more d d' :=
  fun place hplace => h place fun hmem => hplace (hmore place hmem)

end SameFilesBut

theorem fileAt?_congr {place : Place} (h : d'.find? place = d.find? place) :
    d'.fileAt? place = d.fileAt? place := by
  unfold fileAt?
  rw [h]

theorem fileAt?_eq_some_iff {place : Place} {executable : Bool} :
    d.fileAt? place = some (contents, executable) ↔
      d.find? place = some (.file contents executable) := by
  unfold fileAt?
  split
  · rename_i hfind
    simp [hfind]
  · rename_i hnone
    simp only [reduceCtorEq, false_iff]
    exact hnone contents executable

/-- Setting an entry is seen at its place only. -/
theorem sameFilesBut_set (d : Disk) (place : Place) (entry : Entry) :
    SameFilesBut [place] d (d.set place entry) := by
  intro other hother
  exact fileAt?_congr (find?_set_of_ne (List.ne_of_not_mem_cons hother) entry)

theorem find?_erase_of_ne {place other : Place} (h : other ≠ place) :
    (d.erase place).find? other = d.find? other := by
  simp [find?, erase, lookup_filter_of_ne h]

theorem find?_erase_self {place : Place} (hplace : place ≠ []) (d : Disk) :
    (d.erase place).find? place = none := by
  have hempty : place.isEmpty = false := List.isEmpty_eq_false_iff.2 hplace
  rw [find?, hempty]
  refine List.lookup_eq_none_iff.2 fun entry hentry => ?_
  have hkept : entry.1 ≠ place := by simpa using (List.mem_filter.1 hentry).2
  simpa using hkept.symm

/-! ## Paths that lead to files -/

/-- The path can be followed to its place, and it may be a file that stands there. -/
structure Leads (d : Disk) (cwd : Place) (p : Path) : Prop where
  check : checkPath p = .ok ()
  walk : d.walk (origin cwd p) p.names = .ok (p.placeFrom cwd)
  ends : p.namesDirectory = false

theorem Leads.of_keeps (h : d.Leads cwd p) (hkeeps : d.KeepsDirectories d') : d'.Leads cwd p :=
  ⟨h.check, walk_of_keeps hkeeps h.walk, h.ends⟩

theorem resolve_eq_file_iff {place : Place} {executable : Bool} :
    d.resolve cwd p = .ok (place, .file contents executable) ↔
      d.Leads cwd p ∧ place = p.placeFrom cwd ∧ d.fileAt? place = some (contents, executable) := by
  rw [resolve_eq_ok_iff, fileAt?_eq_some_iff]
  constructor
  · rintro ⟨hcheck, hwalk, hfind, hdirectory⟩
    obtain rfl := walk_eq_placeFrom hwalk
    have hends : p.namesDirectory = false := by
      cases hends : p.namesDirectory with
      | false => rfl
      | true => cases hdirectory hends
    exact ⟨⟨hcheck, hwalk, hends⟩, rfl, hfind⟩
  · rintro ⟨hleads, rfl, hfind⟩
    exact ⟨hleads.check, hleads.walk, hfind, by simp [hleads.ends]⟩

theorem isFile_iff :
    d.isFile cwd p = true ↔
      d.Leads cwd p ∧ (d.fileAt? (p.placeFrom cwd)).isSome = true := by
  constructor
  · intro h
    unfold isFile at h
    split at h
    · rename_i place contents executable hresolve
      obtain ⟨hleads, rfl, hfile⟩ := resolve_eq_file_iff.1 hresolve
      exact ⟨hleads, by simp [hfile]⟩
    · cases h
  · rintro ⟨hleads, hfile⟩
    obtain ⟨⟨contents, executable⟩, hfile⟩ := Option.isSome_iff_exists.1 hfile
    simp [isFile, resolve_eq_file_iff.2 ⟨hleads, rfl, hfile⟩]

theorem read_eq_ok_iff :
    d.read cwd p = .ok contents ↔
      d.Leads cwd p ∧ ∃ executable, d.fileAt? (p.placeFrom cwd) = some (contents, executable) := by
  constructor
  · intro h
    unfold read at h
    split at h
    · cases h
    · cases h
    · rename_i place found executable hresolve
      cases h
      obtain ⟨hleads, rfl, hfile⟩ := resolve_eq_file_iff.1 hresolve
      exact ⟨hleads, executable, hfile⟩
  · rintro ⟨hleads, executable, hfile⟩
    simp [read, resolve_eq_file_iff.2 ⟨hleads, rfl, hfile⟩]

/-! ## Writing -/

/-- A directory is made where nothing stood, so no file is touched. -/
theorem sameFiles_of_makeDirectory (h : d.makeDirectory cwd p = .ok d') :
    SameFilesBut [] d d' := by
  obtain ⟨place, hfind, rfl⟩ := makeDirectory_eq_ok h
  intro other _
  by_cases hother : other = place
  · subst hother
    have hroot : other ≠ [] := by
      rintro rfl
      cases hfind
    simp [fileAt?, hfind, find?_set_self hroot]
  · exact fileAt?_congr (find?_set_of_ne hother _)

theorem sameFiles_of_makeDirectories (d : Disk) (cwd : Place) (p : Path) (fuel : Nat) :
    SameFilesBut [] d (d.makeDirectories cwd p fuel).2 := by
  induction fuel generalizing p with
  | zero => exact .refl [] d
  | succ fuel ih =>
      unfold makeDirectories
      split
      · exact .refl [] d
      split
      · rename_i made hmade
        exact sameFiles_of_makeDirectory hmade
      · -- The directory above is missing, so it is made first.
        split
        · exact .refl [] d
        · rename_i above habove
          have hup := ih above
          split
          · rename_i e made hmade
            simpa [hmade] using hup
          · rename_i made hmade
            rw [hmade] at hup
            split
            · rename_i both hboth
              exact hup.trans (sameFiles_of_makeDirectory hboth)
            · exact hup
      · exact .refl [] d

/-- What a write comes to that succeeds: the directories above the file are there by then, and the
file is set. -/
theorem write_eq_ok (h : d.write cwd p contents = (.ok (), d')) :
    ∃ made executable, SameFilesBut [] d made ∧
      made.approach cwd p = .ok (.named (p.placeFrom cwd) false) ∧
      made.find? (p.placeFrom cwd) ≠ some .directory ∧
      d' = made.set (p.placeFrom cwd) (.file contents executable) := by
  have habove := sameFiles_of_makeDirectories d cwd (p.parent?.getD ⟨""⟩)
    ((p.parent?.getD ⟨""⟩).chars.length + 1)
  unfold write at h
  dsimp only at h
  split at h
  · cases h
  · rename_i made hmade
    rw [hmade] at habove
    split at h
    · cases h
    · rename_i written hwrite
      cases h
      obtain ⟨place, executable, happroach, hfind, rfl⟩ := writeFile_eq_ok hwrite
      obtain rfl := walk_eq_placeFrom (approach_eq_named happroach).2.1
      exact ⟨made, executable, habove, happroach, hfind, rfl⟩

/-- A write that fails may have made directories. -/
theorem sameFiles_of_write_error {e : IoError} (h : d.write cwd p contents = (.error e, d')) :
    SameFilesBut [] d d' := by
  have habove := sameFiles_of_makeDirectories d cwd (p.parent?.getD ⟨""⟩)
    ((p.parent?.getD ⟨""⟩).chars.length + 1)
  unfold write at h
  dsimp only at h
  split at h
  · rename_i cause made hmade
    cases h
    simpa [hmade] using habove
  · rename_i made hmade
    split at h
    · cases h
      simpa [hmade] using habove
    · cases h

theorem sameFilesBut_of_write (h : d.write cwd p contents = (.ok (), d')) :
    SameFilesBut [p.placeFrom cwd] d d' := by
  obtain ⟨made, executable, hmade, -, -, rfl⟩ := write_eq_ok h
  exact hmade.trans (sameFilesBut_set made _ _)

/-- The path of a file that was written leads to it. -/
theorem leads_of_write (h : d.write cwd p contents = (.ok (), d')) : d'.Leads cwd p := by
  obtain ⟨made, executable, -, happroach, hfind, rfl⟩ := write_eq_ok h
  obtain ⟨hcheck, hwalk, -, hends⟩ := approach_eq_named happroach
  exact ⟨hcheck, walk_of_keeps (keepsDirectories_set hfind _) hwalk, hends rfl⟩

/-! ## Removing -/

/-- What a removal comes to that succeeds: there was a file, and its entry is taken away. -/
theorem remove_eq_ok (h : d.remove cwd p = .ok d') :
    (d.fileAt? (p.placeFrom cwd)).isSome = true ∧ d' = d.erase (p.placeFrom cwd) := by
  unfold remove at h
  cases happroach : d.approach cwd p with
  | error e =>
      rw [happroach] at h
      cases h
  | ok last =>
      rw [happroach] at h
      cases last with
      | dots place => cases h
      | named place slash =>
          obtain rfl := walk_eq_placeFrom (approach_eq_named happroach).2.1
          simp only [bind, Except.bind] at h
          cases hfind : d.find? (p.placeFrom cwd) with
          | none =>
              rw [hfind] at h
              cases h
          | some entry =>
              rw [hfind] at h
              cases entry with
              | directory => cases h
              | file contents executable =>
                  cases slash with
                  | true => cases h
                  | false =>
                      cases h
                      exact ⟨by simp [fileAt?_eq_some_iff.2 hfind], rfl⟩

/-- A removal takes one file away and no directory. -/
theorem removed_of_remove (h : d.remove cwd p = .ok d') :
    SameFilesBut [p.placeFrom cwd] d d' ∧ d'.fileAt? (p.placeFrom cwd) = none ∧
      d.KeepsDirectories d' := by
  obtain ⟨hfile, rfl⟩ := remove_eq_ok h
  obtain ⟨⟨contents, executable⟩, hfile⟩ := Option.isSome_iff_exists.1 hfile
  have hfind := fileAt?_eq_some_iff.1 hfile
  have hroot : p.placeFrom cwd ≠ [] := by
    intro hroot
    rw [hroot] at hfind
    cases hfind
  refine ⟨fun other hother => ?_, ?_, fun other hother => ?_⟩
  · exact fileAt?_congr (find?_erase_of_ne (List.ne_of_not_mem_cons hother))
  · simp [fileAt?, find?_erase_self hroot]
  · have hne : other ≠ p.placeFrom cwd := by
      rintro rfl
      rw [hfind] at hother
      cases hother
    rw [find?_erase_of_ne hne, hother]

end Disk

/-! ## Longer names -/

namespace Path

variable {p : Path} {cwd : Place} {suffix : String}

/-- Text without a slash makes the last piece longer. -/
theorem splitSlash_append_of_not_mem (cs : List Char) {ds : List Char} (h : '/' ∉ ds) :
    ∃ front piece, splitSlash cs = front ++ [piece] ∧
      splitSlash (cs ++ ds) = front ++ [piece ++ ds] := by
  induction cs with
  | nil => exact ⟨[], [], rfl, by simp [splitSlash_of_not_mem h]⟩
  | cons c rest ih =>
      obtain ⟨front, piece, hrest, hlonger⟩ := ih
      by_cases hslash : c = '/'
      · exact ⟨[] :: front, piece, by simp [splitSlash, hslash, hrest],
          by simp [splitSlash, hslash, hlonger]⟩
      · cases front with
        | nil => exact ⟨[], c :: piece, by simp [splitSlash, hslash, hrest],
            by simp [splitSlash, hslash, hlonger]⟩
        | cons first front => exact ⟨(c :: first) :: front, piece,
            by simp [splitSlash, hslash, hrest], by simp [splitSlash, hslash, hlonger]⟩

/-- The last name of a path that can be a file, and that of the path with a text behind it. -/
theorem names_withSuffix (hends : p.namesDirectory = false) (hslash : '/' ∉ suffix.toList)
    (hlong : 2 ≤ suffix.toList.length) :
    ∃ front name, p.names = front ++ [name] ∧ name ≠ ".." ∧
      (p.withSuffix suffix).names = front ++ [name ++ suffix] ∧ name ++ suffix ≠ ".." := by
  obtain ⟨front, piece, hpieces, hlonger⟩ := splitSlash_append_of_not_mem p.chars hslash
  obtain ⟨⟨hempty, hdot⟩, hdots⟩ : (piece ≠ [] ∧ piece ≠ ['.']) ∧ piece ≠ ['.', '.'] := by
    simpa [namesDirectory, hpieces] using hends
  -- The longer piece has three characters at least, so it is neither empty nor made of dots.
  have hlength : 2 < (piece ++ suffix.toList).length := by
    have hpiece : 0 < piece.length := List.length_pos_iff.2 hempty
    rw [List.length_append]
    omega
  have hchars : (p.withSuffix suffix).chars = p.chars ++ suffix.toList := by
    simp [withSuffix, chars]
  have hnamed : isNamed (piece ++ suffix.toList) = true := by
    simp only [isNamed, Bool.and_eq_true, bne_iff_ne, Bool.not_eq_true', List.isEmpty_eq_false_iff]
    constructor <;>
      · intro hshort
        rw [hshort] at hlength
        simp at hlength
  have hpiece : isNamed piece = true := by simp [isNamed, hempty, hdot]
  refine ⟨(front.filter isNamed).map String.ofList, String.ofList piece, ?_, ?_, ?_, ?_⟩
  · rw [names_eq, hpieces, List.filter_append, List.filter_cons_of_pos hpiece]
    simp
  · intro hname
    exact hdots (by simpa using congrArg String.toList hname)
  · rw [names_eq, hchars, hlonger, List.filter_append, List.filter_cons_of_pos hnamed]
    simp
  · intro hname
    have hchars := congrArg String.toList hname
    rw [String.toList_append, String.toList_ofList] at hchars
    rw [hchars] at hlength
    simp at hlength

theorem isAbsolute_withSuffix (hends : p.namesDirectory = false) :
    (p.withSuffix suffix).isAbsolute = p.isAbsolute := by
  have hchars : p.chars ≠ [] := by
    intro hnil
    simp [namesDirectory, hnil, splitSlash] at hends
  obtain ⟨c, rest, hcons⟩ := List.exists_cons_of_ne_nil hchars
  have hlonger : (p.withSuffix suffix).chars = p.chars ++ suffix.toList := by
    simp [withSuffix, chars]
  simp [isAbsolute, hlonger, hcons]

/-- A longer last name leads to another place. -/
theorem placeFrom_withSuffix_ne (hends : p.namesDirectory = false) (hslash : '/' ∉ suffix.toList)
    (hlong : 2 ≤ suffix.toList.length) (cwd : Place) :
    (p.withSuffix suffix).placeFrom cwd ≠ p.placeFrom cwd := by
  obtain ⟨front, name, hnames, hdots, hlonger, hdots'⟩ := names_withSuffix hends hslash hlong
  unfold placeFrom Disk.origin
  rw [hnames, hlonger, isAbsolute_withSuffix hends]
  simp only [List.foldl_append, List.foldl_cons, List.foldl_nil, nextPlace, if_neg hdots,
    if_neg hdots']
  intro hsame
  have hname : name ++ suffix = name := by simpa using List.append_cancel_left hsame
  have hlength := congrArg (fun s : String => s.toList.length) hname
  simp only [String.toList_append, List.length_append] at hlength
  omega

end Path
end PluginBundle
