import PluginBundle.Proofs.Build.Effects
import PluginBundle.Proofs.Files.Places

/-!
# Builds on a local disk

A build on a disk writes and removes files there, and its bundler may do anything to the disk in
between.  The calls of the build itself can fail for causes that a tree of files does not show, such
as missing rights.  `DiskAccess.Whole` says what is taken for granted of them: a call that succeeds
does to the tree what it should, and one that fails changes no file.

Once the bundle is written, the way to the temporary file is there, whatever the bundler did, since
both files stand in the same directory: `leads_of_writes`.  From this, `tempRetained_exact_iff` reads
off when a build tells rightly whether the temporary file is still on the disk.  It does so if the
bundler left a file there, and only then.
-/

namespace PluginBundle

/-- How a build writes and removes files. -/
structure DiskAccess where
  write : Path → ByteArray → Disk → Except IoError Unit × Disk
  remove : Path → Disk → Except IoError Unit × Disk

namespace DiskAccess

/-- A call does what it should, or it fails and leaves all files as they are.  A write that fails may
have made directories. -/
structure Whole (access : DiskAccess) (cwd : Place) : Prop where
  write_ok {p : Path} {contents : ByteArray} {d d' : Disk}
    (h : access.write p contents d = (.ok (), d')) : d.write cwd p contents = (.ok (), d')
  write_error {p : Path} {contents : ByteArray} {d d' : Disk} {e : IoError}
    (h : access.write p contents d = (.error e, d')) : d.SameFilesBut [] d'
  remove_ok {p : Path} {d d' : Disk} (h : access.remove p d = (.ok (), d')) :
    d.remove cwd p = .ok d'
  remove_error {p : Path} {d d' : Disk} {e : IoError} (h : access.remove p d = (.error e, d')) :
    d' = d

/-- The calls that fail only for what the tree shows. -/
def plain (cwd : Place) : DiskAccess where
  write p contents d := d.write cwd p contents
  remove p d :=
    match d.remove cwd p with
    | .error e => (.error e, d)
    | .ok d => (.ok (), d)

theorem plain_write (cwd : Place) (p : Path) (contents : ByteArray) (d : Disk) :
    (plain cwd).write p contents d = d.write cwd p contents := by
  simp only [plain]

theorem plain_remove (cwd : Place) (p : Path) (d : Disk) :
    (plain cwd).remove p d =
      match d.remove cwd p with
      | .error e => (.error e, d)
      | .ok d => (.ok (), d) := by
  simp only [plain]

theorem plain_whole (cwd : Place) : (plain cwd).Whole cwd where
  write_ok h := by rwa [plain_write] at h
  write_error h := by
    rw [plain_write] at h
    exact Disk.sameFiles_of_write_error h
  remove_ok {p d d'} h := by
    rw [plain_remove] at h
    cases hremove : d.remove cwd p with
    | error e => simp [hremove] at h
    | ok _ => simpa [hremove] using h
  remove_error {p d d' e} h := by
    rw [plain_remove] at h
    cases hremove : d.remove cwd p with
    | error e => simpa [hremove, eq_comm] using (Prod.mk.inj h).2
    | ok _ => simp [hremove] at h

/-- A disk and a bundler, as a build reaches them. -/
def host (access : DiskAccess) (bundle : Path → Option String → Disk → BundlerCall × Disk) :
    BuildHost Disk :=
  ⟨access.write, access.remove, bundle⟩

end DiskAccess

/-! ## The two files of a build -/

theorem slash_not_mem_tempSuffix : '/' ∉ tempSuffix.toList := by simp [tempSuffix]

theorem length_tempSuffix : 2 ≤ tempSuffix.toList.length := by simp [tempSuffix]

namespace Disk

variable {cwd : Place} {p : Path} {before after d d' : Disk} {contents contents' : ByteArray}

/-- The two files of a build stand at two places, if the target can be a file at all. -/
theorem placeFrom_temp_ne (hends : p.namesDirectory = false) :
    (p.withSuffix tempSuffix).placeFrom cwd ≠ p.placeFrom cwd :=
  Path.placeFrom_withSuffix_ne hends slash_not_mem_tempSuffix length_tempSuffix cwd

/-- A path that was written to once leads to its place again as soon as the file beside it is
written, whatever happened to the disk before. -/
theorem leads_of_writes
    (hwrote : before.write cwd (p.withSuffix tempSuffix) contents = (.ok (), after))
    (hwrite : d.write cwd p contents' = (.ok (), d')) :
    d'.Leads cwd (p.withSuffix tempSuffix) := by
  have hbeside := leads_of_write hwrite
  have hlonger := leads_of_write hwrote
  obtain ⟨front, name, hnames, -, hnames', -⟩ :=
    Path.names_withSuffix hbeside.ends slash_not_mem_tempSuffix length_tempSuffix
  have horigin : origin cwd (p.withSuffix tempSuffix) = origin cwd p := by
    unfold origin
    rw [Path.isAbsolute_withSuffix hbeside.ends]
  -- Both walks come to the same directory, and the second write has found it there.
  have hwalk := hbeside.walk
  have hwalk' := hlonger.walk
  rw [hnames] at hwalk
  rw [horigin, hnames'] at hwalk'
  refine ⟨hlonger.check, ?_, hlonger.ends⟩
  rw [horigin, hnames']
  exact walk_beside hwalk' hwalk

/-- Writing the bundle leaves the temporary file as it is. -/
theorem temp_of_write (hwrite : d.write cwd p contents = (.ok (), d')) :
    d'.fileAt? ((p.withSuffix tempSuffix).placeFrom cwd) =
      d.fileAt? ((p.withSuffix tempSuffix).placeFrom cwd) :=
  sameFilesBut_of_write hwrite _
    (mt List.mem_singleton.1 (placeFrom_temp_ne (leads_of_write hwrite).ends))

/-- Once the bundle is written, the temporary file is there if the bundler left it there. -/
theorem isFile_temp_iff
    (hwrote : before.write cwd (p.withSuffix tempSuffix) contents = (.ok (), after))
    (hwrite : d.write cwd p contents' = (.ok (), d')) :
    d'.isFile cwd (p.withSuffix tempSuffix) = true ↔
      (d.fileAt? ((p.withSuffix tempSuffix).placeFrom cwd)).isSome = true := by
  rw [isFile_iff, temp_of_write hwrite, and_iff_right (leads_of_writes hwrote hwrite)]

end Disk

namespace DiskAccess.Whole

variable {access : DiskAccess} {cwd : Place} {p : Path} {d d' : Disk} {contents : ByteArray}

/-- A removal takes its file away or does nothing. -/
theorem files_of_remove (hwhole : access.Whole cwd) (p : Path) (d : Disk) :
    d.SameFilesBut [p.placeFrom cwd] (access.remove p d).2 := by
  cases hremove : access.remove p d with
  | mk answer left =>
      cases answer with
      | error e =>
          obtain rfl := hwhole.remove_error hremove
          exact .refl _ left
      | ok _ => exact (Disk.removed_of_remove (hwhole.remove_ok hremove)).1

/-- The bundle is read as it was written, also after the temporary file was dealt with. -/
theorem read_of_remove (hwhole : access.Whole cwd)
    (hwrite : access.write p contents d = (.ok (), d')) :
    (access.remove (p.withSuffix tempSuffix) d').2.read cwd p = .ok contents := by
  have hwritten := Disk.read_of_write (hwhole.write_ok hwrite)
  cases hremove : access.remove (p.withSuffix tempSuffix) d' with
  | mk answer left =>
      cases answer with
      | error e =>
          obtain rfl := hwhole.remove_error hremove
          exact hwritten
      | ok _ =>
          obtain ⟨hfiles, -, hkeeps⟩ := Disk.removed_of_remove (hwhole.remove_ok hremove)
          obtain ⟨hleads, executable, hfile⟩ := Disk.read_eq_ok_iff.1 hwritten
          have hother : p.placeFrom cwd ∉ [(p.withSuffix tempSuffix).placeFrom cwd] :=
            mt List.mem_singleton.1 (Disk.placeFrom_temp_ne hleads.ends).symm
          refine Disk.read_eq_ok_iff.2 ⟨hleads.of_keeps hkeeps, executable, ?_⟩
          rw [hfiles _ hother, hfile]

end DiskAccess.Whole

/-! ## What the artifact says of the temporary file -/

/-- The artifact of a build that succeeds. -/
def BuildOutcome.artifact? : BuildOutcome → Option Artifact
  | .built artifact => some artifact
  | .failed _ => none
  | .unending => none

theorem BuildOutcome.artifact?_eq_some_iff {outcome : BuildOutcome} {artifact : Artifact} :
    outcome.artifact? = some artifact ↔ outcome = .built artifact := by
  cases outcome <;> simp [artifact?]

namespace Builder

/-- **When a build tells rightly whether its temporary file is still there.**  The calls to the disk
may fail, and the bundler may do anything to the disk.  If the bundler left a file at the temporary
path, the artifact of a successful build is right about it.  If the bundler left none, the artifact is
wrong: it says that the file was kept, with debugging on as well as off.

A disk has no links, so a bundler that puts a link in the place of the temporary file is not covered
here. -/
theorem tempRetained_exact_iff (cwd : Place) (here : Path) (access : DiskAccess)
    (hwhole : access.Whole cwd) (bundle : Path → Option String → Disk → BundlerCall × Disk)
    (b : Builder) (given : Option Configuration) (d : Disk) (artifact : Artifact)
    (run : BuildRun Disk)
    (hbuilt : b.build (access.host bundle) here given d = (.built artifact, run)) :
    let started := (access.write artifact.temp (b.entryScript given) d).2
    let left := (bundle artifact.temp (some standaloneName) started).2
    ((artifact.tempRetained = true ↔ run.world.isFile cwd artifact.temp = true) ↔
        (left.fileAt? (artifact.temp.placeFrom cwd)).isSome = true) ∧
      (artifact.tempRetained = false → run.world.isFile cwd artifact.temp = false) := by
  intro started left
  have hcourse := build_course (access.host bundle) here b given d
  rw [hbuilt] at hcourse
  cases hcourse with
  | finished paths contents told failure w₁ w₂ w₃ hprepared hcalled hwrite hcleaned =>
      obtain ⟨v, call, hwrote, hbundle, -⟩ := hcalled
      obtain rfl : w₁ = left := by
        have hstarted : started = v := congrArg Prod.snd hwrote
        have hleft := congrArg Prod.snd hbundle
        rw [← hstarted] at hleft
        exact hleft.symm
      have hpaths := temp_eq_withSuffix hprepared.resolved
      have hfile : w₂.isFile cwd paths.temp = true ↔
          (left.fileAt? (paths.temp.placeFrom cwd)).isSome = true := by
        have hentry := hwhole.write_ok hwrote
        rw [hpaths] at hentry ⊢
        exact Disk.isFile_temp_iff hentry (hwhole.write_ok hwrite)
      unfold Cleaned at hcleaned
      cases hdebug : (b.active given).debug with
      | true =>
          obtain ⟨rfl, rfl⟩ : failure = none ∧ w₃ = w₂ := by simpa [hdebug] using hcleaned
          simp [hfile]
      | false =>
          cases failure with
          | some e =>
              obtain rfl : w₃ = w₂ :=
                hwhole.remove_error (by simpa [hdebug, DiskAccess.host] using hcleaned)
              simp [hfile]
          | none =>
              have hremove : w₂.remove cwd paths.temp = .ok w₃ :=
                hwhole.remove_ok (by simpa [hdebug, DiskAccess.host] using hcleaned)
              -- What could be removed was there, and is not there any more.
              obtain ⟨hthere, -⟩ := Disk.remove_eq_ok hremove
              obtain ⟨-, hgone, -⟩ := Disk.removed_of_remove hremove
              rw [hpaths, Disk.temp_of_write (hwhole.write_ok hwrite), ← hpaths] at hthere
              have hnone : w₃.isFile cwd paths.temp = false := by
                rw [Bool.eq_false_iff]
                intro hfound
                obtain ⟨-, hsome⟩ := Disk.isFile_iff.1 hfound
                rw [hgone] at hsome
                cases hsome
              simp [hthere, hnone]

/-- A bundler that answers at once, and does something to the disk before. -/
def answering (contents : ByteArray) (act : Path → Disk → Disk) :
    Path → Option String → Disk → BundlerCall × Disk :=
  fun entry _ d => (⟨[], .now ⟨.ok contents, []⟩⟩, act entry d)

/-- The bundler rewrites its entry.  The file is removed, and the artifact says so. -/
theorem rewritten_entry_is_removed :
    let active : Configuration := { Configuration.empty with outputFilename := some "odl.js" }
    let access : DiskAccess := .plain ["site"]
    let bundle := answering "var a;".toUTF8 fun entry d => (access.write entry "a".toUTF8 d).2
    let stop := Builder.initial.build (access.host bundle) ⟨"/site"⟩ (some active)
      ⟨[(["site"], .directory)]⟩
    ∃ artifact, stop.1 = .built artifact ∧ artifact.temp = ⟨"/site/odl.js.__tmp.js"⟩ ∧
      artifact.tempRetained = false ∧ stop.2.world.isFile ["site"] artifact.temp = false := by
  intro active access bundle stop
  have hseen : stop.1.artifact?.map (fun a => (a.temp, a.tempRetained)) =
      some (⟨"/site/odl.js.__tmp.js"⟩, false) := by decide +kernel
  obtain ⟨artifact, hartifact, hsaid⟩ := Option.map_eq_some_iff.1 hseen
  have hbuilt := BuildOutcome.artifact?_eq_some_iff.1 hartifact
  obtain ⟨htemp, hretained⟩ := Prod.mk.inj hsaid
  have hstop : stop = (.built artifact, stop.2) :=
    (Prod.eta stop).symm.trans (congrArg (·, stop.2) hbuilt)
  obtain ⟨-, hgone⟩ := tempRetained_exact_iff ["site"] ⟨"/site"⟩ access (DiskAccess.plain_whole _)
    bundle Builder.initial (some active) _ artifact stop.2 hstop
  exact ⟨artifact, hbuilt, htemp, hretained, hgone hretained⟩

/-- The bundler removes its entry.  The artifact says that the file was kept, and it is gone. -/
theorem removed_entry_is_said_to_be_kept :
    let active : Configuration := { Configuration.empty with outputFilename := some "odl.js" }
    let access : DiskAccess := .plain ["site"]
    let bundle := answering "var a;".toUTF8 fun entry d => (access.remove entry d).2
    let stop := Builder.initial.build (access.host bundle) ⟨"/site"⟩ (some active)
      ⟨[(["site"], .directory)]⟩
    ∃ artifact, stop.1 = .built artifact ∧ artifact.temp = ⟨"/site/odl.js.__tmp.js"⟩ ∧
      artifact.tempRetained = true ∧ stop.2.world.isFile ["site"] artifact.temp = false := by
  intro active access bundle stop
  have hseen : stop.1.artifact?.map
      (fun a => (a.temp, a.tempRetained, stop.2.world.isFile ["site"] a.temp)) =
      some (⟨"/site/odl.js.__tmp.js"⟩, true, false) := by decide +kernel
  obtain ⟨artifact, hartifact, hsaid⟩ := Option.map_eq_some_iff.1 hseen
  obtain ⟨htemp, hsaid⟩ := Prod.mk.inj hsaid
  exact ⟨artifact, BuildOutcome.artifact?_eq_some_iff.1 hartifact, htemp, Prod.mk.inj hsaid⟩

end Builder
end PluginBundle
