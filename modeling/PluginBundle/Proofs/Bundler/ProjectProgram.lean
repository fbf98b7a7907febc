import PluginBundle.Bundler.Command
import PluginBundle.Proofs.Files.Directories
import PluginBundle.Proofs.Files.Joining

/-!
# Running the project's own program

The project's own program is looked for by a path that starts with the project directory.  The same
path is then started from the project directory, and a relative path is followed from where it is
started.  So the program that is found is the one that is started if and only if the project
directory, seen from itself, is the project directory again: `found_program_is_started_iff`.

This holds for every path from the root, and for relative ones such as a lone dot or the way to the
directory beside the working directory.  It fails for every directory below the working directory.

What the file system holds is the same for the look-up and for the start here; what is written in
between does not matter to the question which path is followed from where.
-/

namespace PluginBundle

/-! ## From two directories -/

namespace Disk

/-- The path of a directory leads there also when it is followed from that directory. -/
def LeadsBack (d : Disk) (cwd : Place) (dir : Path) : Prop :=
  ∃ home, d.resolve cwd dir = .ok (home, .directory) ∧ d.resolve home dir = .ok (home, .directory)

variable {d : Disk} {cwd : Place} {dir : Path}

/-- A path from the root is followed from the root. -/
theorem LeadsBack.of_isAbsolute (habsolute : dir.isAbsolute = true) {home : Place}
    (h : d.resolve cwd dir = .ok (home, .directory)) : d.LeadsBack cwd dir := by
  refine ⟨home, h, ?_⟩
  obtain ⟨hcheck, hwalk, hfind⟩ := resolve_eq_directory_iff.1 h
  refine resolve_eq_directory_iff.2 ⟨hcheck, ?_, hfind⟩
  simpa [origin, habsolute] using hwalk

/-- Below the working directory no path leads back, since each walk along it goes deeper. -/
theorem not_leadsBack_of_below (hrelative : dir.isAbsolute = false) (hbelow : ".." ∉ dir.names)
    (hnames : dir.names ≠ []) : ¬d.LeadsBack cwd dir := by
  rintro ⟨home, -, hagain⟩
  obtain ⟨-, hwalk, -⟩ := resolve_eq_directory_iff.1 hagain
  have hdeeper : home = home ++ dir.names := by
    simpa [origin, hrelative] using walk_below hbelow hwalk
  exact hnames (by simpa using hdeeper)

theorem exists_resolve_of_isFile {p : Path} (h : d.isFile cwd p = true) :
    ∃ place contents executable, d.resolve cwd p = .ok (place, .file contents executable) := by
  unfold isFile at h
  split at h
  · rename_i place contents executable hresolve
    exact ⟨place, contents, executable, hresolve⟩
  · cases h

end Disk

/-! ## The path of the project's program -/

/-- The names behind the project directory. -/
def localNames (program : String) : List String := ["node_modules", ".bin", program]

namespace BundlerKind

variable (kind : BundlerKind) (dir : Path)

theorem program_isAbsolute : (Path.mk kind.program).isAbsolute = false := by
  cases kind <;> decide

theorem localProgram_names :
    (localProgram dir kind.program).names = dir.names ++ localNames kind.program := by
  have hprogram : (Path.mk kind.program).names = [kind.program] := by cases kind <;> decide
  have hmodules : (Path.mk "node_modules").names = ["node_modules"] := by decide
  have hbin : (Path.mk ".bin").names = [".bin"] := by decide
  rw [localProgram, Path.names_join kind.program_isAbsolute, Path.names_join (by decide),
    Path.names_join (by decide), hprogram, hmodules, hbin]
  simp [localNames]

theorem localProgram_isAbsolute :
    (localProgram dir kind.program).isAbsolute = dir.isAbsolute := by
  rw [localProgram, Path.isAbsolute_join kind.program_isAbsolute, Path.isAbsolute_join (by decide),
    Path.isAbsolute_join (by decide)]

theorem localProgram_origin (place : Place) :
    Disk.origin place (localProgram dir kind.program) = Disk.origin place dir := by
  simp [Disk.origin, kind.localProgram_isAbsolute]

theorem localNames_below : ".." ∉ localNames kind.program := by
  cases kind <;> decide

/-- The path is followed as such and not looked up. -/
theorem localProgram_contains_slash : '/' ∈ (localProgram dir kind.program).chars := by
  have hdeep : ((dir.join ⟨"node_modules"⟩).join ⟨".bin"⟩).isEmpty = false := by
    rw [Path.isEmpty_join (by decide)]
    exact Bool.and_false _
  exact Path.slash_mem_chars_join kind.program_isAbsolute hdeep

/-- The directory of a path that is good enough for the disk is good enough itself. -/
theorem checkPath_of_localProgram {dir : Path} (hfull : dir.isEmpty = false)
    (h : Disk.checkPath (localProgram dir kind.program) = .ok ()) :
    Disk.checkPath dir = .ok () := by
  have hmodules : (dir.join ⟨"node_modules"⟩).isEmpty = false := by
    simp [Path.isEmpty_join (q := ⟨"node_modules"⟩) (by decide), hfull]
  have hbin : ((dir.join ⟨"node_modules"⟩).join ⟨".bin"⟩).isEmpty = false := by
    simp [Path.isEmpty_join (q := ⟨".bin"⟩) (by decide), hmodules]
  refine Disk.checkPath_of_join (q := ⟨"node_modules"⟩) (by decide) hfull ?_
  refine Disk.checkPath_of_join (q := ⟨".bin"⟩) (by decide) hmodules ?_
  exact Disk.checkPath_of_join kind.program_isAbsolute hbin h

end BundlerKind

/-! ## What is started -/

namespace Executable

variable {isProgram : ByteArray → Bool} {d : Disk} {cwd : Place} {p : Path} {e : Executable}

theorem fileAt_eq_ok {contents : ByteArray} (h : fileAt d cwd p = .ok contents) :
    ∃ place, d.resolve cwd p = .ok (place, .file contents true) := by
  unfold fileAt at h
  split at h
  · cases h
  · cases h
  · rename_i place found executable hresolve
    split at h
    · rename_i hexecutable
      cases h
      exact ⟨place, by rw [hresolve, hexecutable]⟩
    · cases h

/-- What is run for a path is the file of the path, unless that is a script. -/
theorem load_eq_ok (h : load isProgram d cwd p = .ok e) :
    ∃ place contents, d.resolve cwd p = .ok (place, .file contents true) ∧
      (isScript contents = false → e.image = contents) := by
  unfold load loadWithin at h
  cases hfile : fileAt d cwd p with
  | error cause =>
      rw [hfile] at h
      cases h
  | ok contents =>
      obtain ⟨place, hresolve⟩ := fileAt_eq_ok hfile
      refine ⟨place, contents, hresolve, fun hscript => ?_⟩
      simp only [hfile, bind, Except.bind, hscript, Bool.not_false, if_true] at h
      split at h
      · cases h
        rfl
      · cases h

end Executable

namespace Invocation

variable {programs : Programs} {d : Disk} {s : Surroundings} {i : Invocation}

/-- What the path of the program leads to, followed from the directory that the process is started
in. -/
def programFile (d : Disk) (s : Surroundings) (i : Invocation) : Except IoError (Place × Entry) :=
  match i.directory d s with
  | .error e => .error e
  | .ok directory => d.resolve directory i.program

/-- A program that is named by a path with a slash is started from the file of that path. -/
theorem prepare_eq_ok (hslash : '/' ∈ i.program.chars) {process : ProcessStart}
    (h : i.prepare programs s d = .ok process) :
    ∃ place contents, i.programFile d s = .ok (place, .file contents true) ∧
      (Executable.isScript contents = false → process.image = contents) := by
  unfold prepare at h
  cases htext : i.checkText with
  | error cause => simp [htext, bind, Except.bind] at h
  | ok _ =>
      cases hdirectory : i.directory d s with
      | error cause => simp [htext, hdirectory, bind, Except.bind] at h
      | ok directory =>
          have hload : i.executable programs.isProgram d s directory =
              Executable.load programs.isProgram d directory i.program := by
            simp [executable, hslash]
          cases hloaded : Executable.load programs.isProgram d directory i.program with
          | error cause => simp [htext, hdirectory, hload, hloaded, bind, Except.bind] at h
          | ok e =>
              obtain ⟨place, contents, hresolve, himage⟩ := Executable.load_eq_ok hloaded
              refine ⟨place, contents, by simp only [programFile, hdirectory, hresolve], ?_⟩
              intro hscript
              simp only [htext, hdirectory, hload, hloaded, bind, Except.bind] at h
              split at h
              · cases h
              · cases h
                exact himage hscript

/-- Where such a path leads nowhere, nothing is started. -/
theorem start_of_programFile_error (hslash : '/' ∈ i.program.chars) (htext : i.checkText = .ok ())
    {cause : IoError} (h : i.programFile d s = .error cause) :
    i.start programs s d = (.now (.error cause), d) := by
  have hprepare : i.prepare programs s d = .error cause := by
    unfold programFile at h
    cases hdirectory : i.directory d s with
    | error e =>
        obtain rfl : e = cause := by simpa [hdirectory] using h
        simp [prepare, htext, hdirectory, bind, Except.bind]
    | ok directory =>
        have hresolve : d.resolve directory i.program = .error cause := by
          simpa [hdirectory] using h
        simp [prepare, htext, hdirectory, executable, hslash, Executable.load,
          Executable.loadWithin, Executable.fileAt, hresolve, bind, Except.bind]
  simp [start, hprepare]

end Invocation

namespace CommandBundler

variable {d : Disk} {s : Surroundings} {kind : BundlerKind} {dir : Path}

/-- What it takes for the path of the project's program to name a file: there is a project
directory, and the file stands at its place below it. -/
theorem resolve_localProgram {cwd place : Place} {contents : ByteArray} {executable : Bool}
    (h : d.resolve cwd (localProgram dir kind.program) = .ok (place, .file contents executable)) :
    ∃ home, d.walk (Disk.origin cwd dir) dir.names = .ok home ∧ d.find? home = some .directory ∧
      place = home ++ localNames kind.program := by
  obtain ⟨-, hwalk, -, -⟩ := Disk.resolve_eq_ok_iff.1 h
  rw [kind.localProgram_origin, kind.localProgram_names, Disk.walk_append_eq_ok_iff] at hwalk
  obtain ⟨home, hhome, hlocal⟩ := hwalk
  refine ⟨home, hhome, ?_, Disk.walk_below kind.localNames_below hlocal⟩
  -- The walk goes on from the project directory, so that is one.
  cases hstep : d.step home "node_modules" with
  | error e => simp [localNames, Disk.walk, hstep] at hlocal
  | ok next => exact (Disk.step_eq_ok hstep).1

/-- From two directories from which the project directory is the same one, the path of the
project's program names the same file. -/
theorem resolve_localProgram_congr {cwd cwd' : Place}
    (h : d.walk (Disk.origin cwd' dir) dir.names = d.walk (Disk.origin cwd dir) dir.names) :
    d.resolve cwd' (localProgram dir kind.program) =
      d.resolve cwd (localProgram dir kind.program) := by
  unfold Disk.resolve
  simp only [kind.localProgram_origin, kind.localProgram_names, Disk.walk_append, h]

/-- Where the project's program is, the project directory is one too.  Only the empty path, from which
nothing but the names behind it are followed, names no directory itself. -/
theorem resolve_projectDir {place : Place} {contents : ByteArray} {executable : Bool}
    (h : d.resolve s.cwd (localProgram dir kind.program) = .ok (place, .file contents executable))
    (hfull : dir.isEmpty = false) :
    ∃ home, d.resolve s.cwd dir = .ok (home, .directory) := by
  obtain ⟨home, hhome, hdirectory, -⟩ := resolve_localProgram h
  have hcheck := kind.checkPath_of_localProgram hfull (Disk.resolve_eq_ok_iff.1 h).1
  exact ⟨home, Disk.resolve_eq_directory_iff.2 ⟨hcheck, hhome, hdirectory⟩⟩

/-- The process is started from the file that was found if and only if the path of the project
directory leads back to it. -/
theorem programFile_eq_iff {i : Invocation} (hprogram : i.program = localProgram dir kind.program)
    (hdir : i.workingDir = some dir) {place : Place} {contents : ByteArray} {executable : Bool}
    (hfound :
      d.resolve s.cwd (localProgram dir kind.program) = .ok (place, .file contents executable)) :
    i.programFile d s = d.resolve s.cwd i.program ↔ d.LeadsBack s.cwd dir := by
  obtain ⟨home, hhome, hdirectory, hplace⟩ := resolve_localProgram hfound
  rw [hprogram]
  constructor
  · intro hsame
    rw [hfound] at hsame
    cases hproject : d.resolve s.cwd dir with
    | error e => simp [Invocation.programFile, Invocation.directory, hdir, hproject] at hsame
    | ok named =>
        obtain ⟨start, entry⟩ := named
        cases entry with
        | file _ _ => simp [Invocation.programFile, Invocation.directory, hdir, hproject] at hsame
        | directory =>
            have hchild : d.resolve start (localProgram dir kind.program) =
                .ok (place, .file contents executable) := by
              simpa [Invocation.programFile, Invocation.directory, hdir, hproject, hprogram]
                using hsame
            obtain ⟨hcheck, hwalk, -⟩ := Disk.resolve_eq_directory_iff.1 hproject
            obtain rfl : start = home := by simpa [hwalk] using hhome
            -- Both walks end at the same file, so they went through the same project directory.
            obtain ⟨again, hagain, -, hplace'⟩ := resolve_localProgram hchild
            obtain rfl : start = again := List.append_cancel_right (hplace.symm.trans hplace')
            exact ⟨start, hproject,
              Disk.resolve_eq_directory_iff.2 ⟨hcheck, hagain, hdirectory⟩⟩
  · rintro ⟨start, hproject, hback⟩
    obtain ⟨-, hwalk, -⟩ := Disk.resolve_eq_directory_iff.1 hproject
    obtain ⟨-, hwalk', -⟩ := Disk.resolve_eq_directory_iff.1 hback
    simp only [Invocation.programFile, Invocation.directory, hdir, hproject, hprogram]
    exact resolve_localProgram_congr (hwalk'.trans hwalk.symm)

/-- **The program that is found is the program that is started**, if and only if the path of the
project directory leads back to the directory.  If a look-up finds the project's own program, that is
what `locate` chooses.  The process is started from the file that the same path names in the project
directory; this is the file that was found exactly under the condition.  The condition holds for
every path from the root, and fails for every directory below the working directory.

The last part needs that a disk has no links: the path `sub` of a link to the working directory would
lead back to it. -/
theorem found_program_is_started_iff (d : Disk) (s : Surroundings) (kind : BundlerKind) (dir : Path)
    (hfound : d.isFile s.cwd (localProgram dir kind.program) = true) :
    let b : CommandBundler := ⟨kind, localProgram dir kind.program, some dir⟩
    (locate d s kind (some dir)).1 = .ok b ∧
      (∀ entry standalone,
        let i := b.invocation entry standalone
        (i.programFile d s = d.resolve s.cwd b.program ↔ d.LeadsBack s.cwd dir) ∧
          ∀ programs process, i.prepare programs s d = .ok process →
            ∃ place contents, i.programFile d s = .ok (place, .file contents true) ∧
              (Executable.isScript contents = false → process.image = contents)) ∧
      (dir.isAbsolute = true → d.LeadsBack s.cwd dir) ∧
      (dir.isAbsolute = false → ".." ∉ dir.names → dir.names ≠ [] → ¬d.LeadsBack s.cwd dir) := by
  intro b
  obtain ⟨place, contents, executable, hresolve⟩ := Disk.exists_resolve_of_isFile hfound
  refine ⟨?_, fun entry standalone => ?_, fun habsolute => ?_, Disk.not_leadsBack_of_below⟩
  · simp only [locate, findLocal, hfound, if_true]
    rfl
  · intro i
    have hprogram : i.program = localProgram dir kind.program := rfl
    have hdir : i.workingDir = some dir := rfl
    have hslash : '/' ∈ i.program.chars := kind.localProgram_contains_slash dir
    exact ⟨programFile_eq_iff hprogram hdir hresolve,
      fun _ _ hprepare => Invocation.prepare_eq_ok hslash hprepare⟩
  · obtain ⟨home, hproject⟩ :=
      resolve_projectDir hresolve (Path.isEmpty_of_isAbsolute habsolute)
    exact .of_isAbsolute habsolute hproject

/-- A project beside the working directory: its path is relative, and yet the program that is found
there is the one that is started. -/
theorem program_beside_working_directory :
    let s : Surroundings := ⟨["site", "app"], []⟩
    let d : Disk :=
      ⟨[(["site"], .directory), (["site", "app"], .directory), (["site", "lib"], .directory),
        (["site", "lib", "node_modules"], .directory),
        (["site", "lib", "node_modules", ".bin"], .directory),
        (["site", "lib", "node_modules", ".bin", "esbuild"], .file ⟨#[0x7f]⟩ true)]⟩
    let b : CommandBundler :=
      ⟨.esbuild, localProgram ⟨"../lib"⟩ BundlerKind.esbuild.program, some ⟨"../lib"⟩⟩
    d.isFile s.cwd b.program = true ∧ (locate d s .esbuild (some ⟨"../lib"⟩)).1 = .ok b ∧
      (b.invocation ⟨"/site/odl.js"⟩ none).programFile d s = d.resolve s.cwd b.program := by
  intro s d b
  have hfound : d.isFile s.cwd b.program = true := by decide +kernel
  obtain ⟨hchosen, hstarted, -⟩ := found_program_is_started_iff d s .esbuild ⟨"../lib"⟩ hfound
  have hback : d.LeadsBack s.cwd ⟨"../lib"⟩ := ⟨["site", "lib"], rfl, rfl⟩
  exact ⟨hfound, hchosen, (hstarted ⟨"/site/odl.js"⟩ none).1.2 hback⟩

/-- The project is a directory below the working directory, named by a relative path.  Its program
is found, but from the project directory the path leads nowhere, and nothing is started. -/
theorem program_below_working_directory_not_started :
    let s : Surroundings := ⟨["site"], []⟩
    let d : Disk :=
      ⟨[(["site"], .directory), (["site", "sub"], .directory),
        (["site", "sub", "node_modules"], .directory),
        (["site", "sub", "node_modules", ".bin"], .directory),
        (["site", "sub", "node_modules", ".bin", "browserify"], .file ⟨#[0x7f]⟩ true)]⟩
    let programs : Programs := ⟨fun _ => true, fun _ d => (.never, d)⟩
    let b : CommandBundler :=
      ⟨.browserify, ⟨"sub/node_modules/.bin/browserify"⟩, some ⟨"sub"⟩⟩
    d.isFile s.cwd (localProgram ⟨"sub"⟩ BundlerKind.browserify.program) = true ∧
      (locate d s .browserify (some ⟨"sub"⟩)).1 = .ok b ∧
      (b.invocation ⟨"/site/odl.js"⟩ none).programFile d s = .error (.system .notFound) ∧
      (b.bundle programs s ⟨"/site/odl.js"⟩ none d).1.reply =
        .now ⟨.error (.spawn b.program (.system .notFound)), []⟩ := by
  intro s d programs b
  have hfound : d.isFile s.cwd (localProgram ⟨"sub"⟩ BundlerKind.browserify.program) = true := by
    decide +kernel
  have hproject : d.resolve s.cwd ⟨"sub"⟩ = .ok (["site", "sub"], .directory) := rfl
  have hgone : d.find? ["site", "sub", "sub"] = none :=
    Option.isNone_iff_eq_none.1 (by decide +kernel)
  -- The first name leads to a place below the project directory where nothing stands.
  have hwalk : d.walk ["site", "sub"] b.program.names = .error (.system .notFound) := by
    have hnames : b.program.names = ["sub", "node_modules", ".bin", "browserify"] := by decide
    have hfirst : d.step ["site", "sub"] "sub" = .ok ["site", "sub", "sub"] := rfl
    have hsecond : d.step ["site", "sub", "sub"] "node_modules" = .error (.system .notFound) := by
      simp only [Disk.step, hgone]
    simp only [hnames, Disk.walk, hfirst, hsecond]
  have hnowhere : (b.invocation ⟨"/site/odl.js"⟩ none).programFile d s =
      .error (.system .notFound) := by
    obtain ⟨_, _, _, hresolve⟩ := Disk.exists_resolve_of_isFile hfound
    have hcheck : Disk.checkPath b.program = .ok () := (Disk.resolve_eq_ok_iff.1 hresolve).1
    have hchild : d.resolve ["site", "sub"] b.program = .error (.system .notFound) := by
      have horigin : Disk.origin ["site", "sub"] b.program = ["site", "sub"] := by decide
      simp only [Disk.resolve, hcheck, horigin, hwalk, bind, Except.bind]
    exact hchild
  have htext : (b.invocation ⟨"/site/odl.js"⟩ none).checkText = .ok () := by
    rw [Invocation.checkText, if_neg (by decide +kernel)]
  have hstart : (b.invocation ⟨"/site/odl.js"⟩ none).start programs s d =
      (.now (.error (.system .notFound)), d) :=
    Invocation.start_of_programFile_error (by decide) htext hnowhere
  refine ⟨hfound, rfl, hnowhere, ?_⟩
  simp only [bundle, hstart]
  rfl

end CommandBundler
end PluginBundle
