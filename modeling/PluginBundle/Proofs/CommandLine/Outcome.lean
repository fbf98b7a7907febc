import PluginBundle.Proofs.Build.LocalDisk
import PluginBundle.Proofs.CommandLine.Preview

/-!
# What a run leaves of the files

A run that builds can end at many places: arguments that are refused, a configuration that is not
found or not accepted, no bundler, a file that cannot be written, a bundler that fails.
`Conclusion` lists what these places have in common: whether a bundler process was started, what
waiting for it came to, and which disk is left.  `conclusion_of_run` proves that every run concludes in
one of these ways, for calls to the disk that may fail.

From it, `run_replaces_only_its_target` is read off by cases.  A run that does not succeed leaves all
files as they were, but for the temporary one; a run that succeeds has put into the target exactly what
the bundler printed.

The process is taken to change no file itself.  Nothing is said of the directories that are left.
-/

namespace PluginBundle

/-! ## The bundler process -/

/-- A process that ended successfully, and that printed the bytes, which are not none. -/
def ProcessReport.Delivers (report : ProcessReport) (bytes : ByteArray) : Prop :=
  report.status.success = true ∧ report.stdout.isEmpty = false ∧ report.stdout = bytes

theorem CommandBundler.answer_eq_ok_iff {b : CommandBundler}
    {ended : Except IoError ProcessReport} {bytes : ByteArray} :
    (b.answer ended).outcome = .ok bytes ↔ ∃ report, ended = .ok report ∧ report.Delivers bytes := by
  unfold ProcessReport.Delivers
  cases ended with
  | error cause => simp [answer]
  | ok report =>
      cases hstatus : report.status.success with
      | false => simp [answer, hstatus]
      | true => cases hempty : report.stdout.isEmpty <;> simp [answer, hstatus, hempty]

/-- The process of a bundler: what it was started for, the disks at its start and at its end, and what
waiting for it came to. -/
structure BundlerProcess where
  configuration : Configuration
  paths : BuildPaths
  bundler : CommandBundler
  started : Disk
  waited : Await (Except IoError ProcessReport)
  left : Disk

namespace BundlerProcess

/-- The process ended in time, successfully and with output. -/
def Delivers (p : BundlerProcess) (bytes : ByteArray) : Prop :=
  ∃ report, p.waited = .answered (.ok report) ∧ report.Delivers bytes

/-- What a build makes of the process. -/
def result (p : BundlerProcess) : Option (Except BundlerError ByteArray) :=
  match p.waited with
  | .unending => none
  | .timedOut limit => some (.error (.timeout limit))
  | .answered ended => some (p.bundler.answer ended).outcome

theorem result_eq_ok_iff {p : BundlerProcess} {bytes : ByteArray} :
    p.result = some (.ok bytes) ↔ p.Delivers bytes := by
  unfold result Delivers
  cases p.waited with
  | unending => simp
  | timedOut limit => simp
  | answered ended => simp [CommandBundler.answer_eq_ok_iff]

theorem result_eq_none_iff {p : BundlerProcess} : p.result = none ↔ p.waited = .unending := by
  unfold result
  cases p.waited <;> simp

end BundlerProcess

namespace Arguments

variable {programs : Programs} {access : DiskAccess} {s : Surroundings} {d : Disk} {a : Arguments}
  {c : Configuration} {log : List LogRecord}

/-! ## Runs whose calls to the disk may fail -/

/-- A run that calls the disk in a way of its own. -/
def executeOn (programs : Programs) (access : DiskAccess) (s : Surroundings) (d : Disk)
    (a : Arguments) : CommandRun :=
  match a.prepare s d with
  | (.error e, log) => ⟨.failed e, "", log, d⟩
  | (.ok c, log) =>
      if a.emitScript then a.emit d c log
      else
        match a.selectBundler s d c.baseDir? with
        | (.error e, told) => ⟨.failed (.bundler e), "", log ++ told, d⟩
        | (.ok bundler, told) =>
            runAfter (log ++ told)
              (a.builder.build (access.host (bundler.bundle programs s)) s.cwdPath (some c) d)

/-- Where calls fail only for what the tree shows, this is the run itself. -/
theorem executeOn_plain (programs : Programs) (s : Surroundings) (d : Disk) (a : Arguments) :
    a.executeOn programs (.plain s.cwd) s d = a.execute programs s d := by
  have hhost (bundler : CommandBundler) :
      (DiskAccess.plain s.cwd).host (bundler.bundle programs s) = bundler.host programs s := by
    unfold CommandBundler.host DiskAccess.host DiskAccess.plain
    rfl
  rw [execute_eq, executeOn]
  obtain ⟨prepared, log⟩ := a.prepare s d
  cases prepared with
  | error e => rfl
  | ok c =>
      dsimp only
      rw [buildBundle_eq]
      obtain ⟨choice, told⟩ := a.selectBundler s d c.baseDir?
      cases choice with
      | error e => rfl
      | ok bundler => simp only [hhost]

/-- The paths of a run, as soon as it has a configuration that names them. -/
def paths? (s : Surroundings) (d : Disk) (a : Arguments) : Option BuildPaths :=
  match a.prepare s d with
  | (.error _, _) => none
  | (.ok c, _) =>
      match BuildPaths.resolve s.cwdPath c with
      | .error _ => none
      | .ok paths => some paths

/-- The place of the temporary file of a run, if it has one. -/
def tempPlaces (s : Surroundings) (d : Disk) (a : Arguments) : List Place :=
  (a.paths? s d).toList.map (·.temp.placeFrom s.cwd)

theorem temp_of_paths {paths : BuildPaths} (h : a.paths? s d = some paths) :
    paths.temp = paths.target.withSuffix tempSuffix := by
  unfold paths? at h
  split at h
  · cases h
  · split at h
    · cases h
    · rename_i hresolve
      cases h
      exact temp_eq_withSuffix hresolve

/-- The bundler process of a run that builds, if the run comes to start one. -/
def process? (programs : Programs) (access : DiskAccess) (s : Surroundings) (d : Disk)
    (a : Arguments) : Option BundlerProcess :=
  match a.prepare s d with
  | (.error _, _) => none
  | (.ok c, _) =>
      match a.selectBundler s d c.baseDir?, BuildPaths.resolve s.cwdPath c with
      | (.ok bundler, _), .ok paths =>
          match access.write paths.temp (c.script a.moduleFormat).toUTF8 d with
          | (.error _, _) => none
          | (.ok (), started) =>
              let (reply, left) :=
                (bundler.invocation paths.temp (some standaloneName)).start programs s started
              some ⟨c, paths, bundler, started, reply.within a.timeLimit, left⟩
      | _, _ => none

/-- A process is started for the paths of the run, once the entry script is written. -/
theorem process?_eq_some {p : BundlerProcess} (h : a.process? programs access s d = some p) :
    a.paths? s d = some p.paths ∧
      ∃ script, access.write p.paths.temp script d = (.ok (), p.started) := by
  unfold process? at h
  unfold paths?
  cases hprepare : a.prepare s d with
  | mk prepared log =>
      rw [hprepare] at h
      cases prepared with
      | error e => cases h
      | ok c =>
          dsimp only at h ⊢
          split at h
          · rename_i bundler told paths hselect hresolve
            split at h
            · cases h
            · rename_i started hwrite
              cases h
              exact ⟨by simp [hresolve], _, hwrite⟩
          · cases h

/-! ## How a run concludes -/

/-- How a run that builds can conclude: the process that was started, if one was, the result, and the
disk that is left. -/
inductive Conclusion (access : DiskAccess) (d : Disk) :
    Option BundlerProcess → CommandEnd → Disk → Prop
  /-- The run fails before a bundler is started; it may have made directories. -/
  | unstarted (e : CommandError) (left : Disk) (hfiles : d.SameFilesBut [] left) :
      Conclusion access d none (.failed e) left
  /-- The bundler never answers, and nothing stops the wait. -/
  | unending (p : BundlerProcess) (hresult : p.result = none) :
      Conclusion access d (some p) .unending p.left
  /-- The bundler fails, or does not answer in time. -/
  | unbundled (p : BundlerProcess) (e : BundlerError) (hresult : p.result = some (.error e)) :
      Conclusion access d (some p) (.failed (.build (.bundler e))) p.left
  /-- The bundle cannot be written. -/
  | unwritten (p : BundlerProcess) (bytes : ByteArray) (e : IoError) (left : Disk)
      (hresult : p.result = some (.ok bytes))
      (hwrite : access.write p.paths.target bytes p.left = (.error e, left)) :
      Conclusion access d (some p) (.failed (.build (.filesystem .writingFinal p.paths.target e)))
        left
  /-- The bundle is written, and the temporary file is kept for debugging or removed if it can be. -/
  | succeeded (p : BundlerProcess) (bytes : ByteArray) (written : Disk)
      (hresult : p.result = some (.ok bytes))
      (hwrite : access.write p.paths.target bytes p.left = (.ok (), written)) :
      Conclusion access d (some p) .succeeded
        (if p.configuration.debug then written else (access.remove p.paths.temp written).2)

/-- An answer that is awaited for a bundler is one that is awaited for its process. -/
theorem verdict_within_map (b : CommandBundler) (reply : Reply (Except IoError ProcessReport))
    (limit : Option Duration) :
    (Builder.verdict ((reply.map b.answer).within limit)).1 =
      match reply.within limit with
      | .unending => none
      | .timedOut limit => some (.error (.timeout limit))
      | .answered ended => some (b.answer ended).outcome := by
  cases reply with
  | now ended => rfl
  | later delay ended =>
      cases limit with
      | none => rfl
      | some limit =>
          by_cases hdelay : delay ≤ limit <;>
            simp [Reply.map, Reply.within, hdelay, Builder.verdict]
  | never => cases limit <;> rfl

section Build

variable {bundler : CommandBundler} {told : List LogRecord}
  (hprepare : a.prepare s d = (.ok c, log))
  (hselect : a.selectBundler s d c.baseDir? = (.ok bundler, told))

include hprepare hselect

/-- A build that calls its bundler has started the process of the run. -/
theorem process?_of_called {paths : BuildPaths} {result : Option (Except BundlerError ByteArray)}
    {said : List LogRecord} {w : Disk} (hresolve : BuildPaths.resolve s.cwdPath c = .ok paths)
    (hcalled : Builder.Called (access.host (bundler.bundle programs s)) a.builder (some c) paths d
      result said w) :
    ∃ p, a.process? programs access s d = some p ∧ p.configuration = c ∧ p.paths = paths ∧
      p.left = w ∧ p.result = result := by
  obtain ⟨started, call, hwrite, hbundle, hresult, -⟩ := hcalled
  have hwrote : access.write paths.temp (c.script a.moduleFormat).toUTF8 d = (.ok (), started) :=
    hwrite
  let begun := (bundler.invocation paths.temp (some standaloneName)).start programs s started
  have hcall : call = ⟨[.programStarted bundler.kind.program], begun.1.map bundler.answer⟩ :=
    (congrArg Prod.fst hbundle).symm
  refine ⟨⟨c, paths, bundler, started, begun.1.within a.timeLimit, begun.2⟩, ?_, rfl, rfl, ?_, ?_⟩
  · simp only [process?, hprepare, hselect, hresolve, hwrote]
    rfl
  · exact congrArg Prod.snd hbundle
  · rw [hresult, hcall]
    exact (verdict_within_map bundler begun.1 a.timeLimit).symm

theorem process?_of_write_error {paths : BuildPaths} {e : IoError} {w : Disk}
    (hresolve : BuildPaths.resolve s.cwdPath c = .ok paths)
    (hwrite : access.write paths.temp (c.script a.moduleFormat).toUTF8 d = (.error e, w)) :
    a.process? programs access s d = none := by
  simp only [process?, hprepare, hselect, hresolve, hwrite]

/-- The course of the build is a conclusion of the run. -/
theorem conclusion_of_course (hwhole : access.Whole s.cwd)
    {stop : BuildOutcome × BuildRun Disk} (before : List LogRecord)
    (hcourse : Builder.Course (access.host (bundler.bundle programs s)) s.cwdPath a.builder (some c)
      d stop.1 stop.2) :
    Conclusion access d (a.process? programs access s d) (runAfter before stop).result
      (runAfter before stop).disk := by
  obtain ⟨outcome, run⟩ := stop
  cases hcourse with
  | refused rejected e hgiven hcheck =>
      -- The configuration has passed this check when it was loaded.
      cases hgiven
      rw [check_of_prepare hprepare] at hcheck
      cases hcheck
  | unnamed e _ hresolve =>
      have hnone : a.process? programs access s d = none := by
        have hresolve' : BuildPaths.resolve s.cwdPath c = .error e := hresolve
        simp only [process?, hprepare, hselect, hresolve']
      rw [hnone]
      exact .unstarted _ _ (.refl [] d)
  | scriptUnwritten paths e w hprepared hwrite =>
      rw [process?_of_write_error hprepare hselect hprepared.resolved hwrite]
      exact .unstarted _ _ (hwhole.write_error hwrite)
  | unanswered paths said w hprepared hcalled =>
      obtain ⟨p, hp, -, -, rfl, hresult⟩ :=
        process?_of_called hprepare hselect hprepared.resolved hcalled
      rw [hp]
      exact .unending p hresult
  | unbundled paths e said w hprepared hcalled =>
      obtain ⟨p, hp, -, -, rfl, hresult⟩ :=
        process?_of_called hprepare hselect hprepared.resolved hcalled
      rw [hp]
      exact .unbundled p e hresult
  | bundleUnwritten paths bytes said e w w' hprepared hcalled hwrite =>
      obtain ⟨p, hp, -, rfl, rfl, hresult⟩ :=
        process?_of_called hprepare hselect hprepared.resolved hcalled
      rw [hp]
      exact .unwritten p bytes e w' hresult hwrite
  | finished paths bytes said failure w written w' hprepared hcalled hwrite hcleaned =>
      obtain ⟨p, hp, hactive, rfl, rfl, hresult⟩ :=
        process?_of_called hprepare hselect hprepared.resolved hcalled
      have hleft : w' =
          if p.configuration.debug then written else (access.remove p.paths.temp written).2 := by
        rw [hactive]
        exact hcleaned.world_eq
      rw [hp, hleft]
      exact .succeeded p bytes written hresult hwrite

end Build

/-- **How runs conclude.**  Every run that builds concludes in one of these ways. -/
theorem conclusion_of_run (programs : Programs) (access : DiskAccess) (s : Surroundings) (d : Disk)
    (a : Arguments) (hbuild : a.emitScript = false) (hwhole : access.Whole s.cwd) :
    Conclusion access d (a.process? programs access s d)
      (a.executeOn programs access s d).result (a.executeOn programs access s d).disk := by
  unfold executeOn
  cases hprepare : a.prepare s d with
  | mk prepared log =>
      cases prepared with
      | error e =>
          have hnone : a.process? programs access s d = none := by
            simp only [process?, hprepare]
          rw [hnone]
          exact .unstarted e d (.refl [] d)
      | ok c =>
          simp only [hbuild, Bool.false_eq_true, if_false]
          cases hselect : a.selectBundler s d c.baseDir? with
          | mk choice told =>
              cases choice with
              | error e =>
                  have hnone : a.process? programs access s d = none := by
                    simp only [process?, hprepare, hselect]
                  rw [hnone]
                  exact .unstarted (.bundler e) d (.refl [] d)
              | ok bundler =>
                  exact conclusion_of_course hprepare hselect hwhole (log ++ told)
                    (Builder.build_course (access.host (bundler.bundle programs s)) s.cwdPath
                      a.builder (some c) d)

/-! ## What is left of the files -/

/-- Until the bundle is written, only the temporary file is touched. -/
theorem files_of_process {p : BundlerProcess} (hwhole : access.Whole s.cwd)
    (hp : a.process? programs access s d = some p) (hquiet : p.started.SameFilesBut [] p.left) :
    d.SameFilesBut [p.paths.temp.placeFrom s.cwd] p.left := by
  obtain ⟨-, script, hwrite⟩ := process?_eq_some hp
  exact (Disk.sameFilesBut_of_write (hwhole.write_ok hwrite)).trans hquiet

/-- Programs that change no file make no quiet process loud. -/
theorem process_quiet {p : BundlerProcess}
    (hquiet : ∀ start (d : Disk), d.SameFilesBut [] (programs.run start d).2)
    (hp : a.process? programs access s d = some p) : p.started.SameFilesBut [] p.left := by
  unfold process? at hp
  cases hprepare : a.prepare s d with
  | mk prepared log =>
      rw [hprepare] at hp
      cases prepared with
      | error e => cases hp
      | ok c =>
          dsimp only at hp
          split at hp
          · rename_i bundler told paths hselect hresolve
            split at hp
            · cases hp
            · rename_i started hwrite
              cases hp
              unfold Invocation.start
              split
              · exact .refl [] started
              · exact hquiet _ started
          · cases hp

/-- A run that does not succeed has touched the temporary file at most. -/
theorem files_of_failure (hbuild : a.emitScript = false) (hwhole : access.Whole s.cwd)
    (hquiet : ∀ p, a.process? programs access s d = some p → p.started.SameFilesBut [] p.left)
    (hfailed : (a.executeOn programs access s d).result ≠ .succeeded) :
    d.SameFilesBut (a.tempPlaces s d) (a.executeOn programs access s d).disk := by
  have hconclusion := conclusion_of_run programs access s d a hbuild hwhole
  have htouched : ∀ p, a.process? programs access s d = some p →
      d.SameFilesBut (a.tempPlaces s d) p.left := by
    intro p hp
    have htemp : a.tempPlaces s d = [p.paths.temp.placeFrom s.cwd] := by
      simp [tempPlaces, (process?_eq_some hp).1]
    rw [htemp]
    exact files_of_process hwhole hp (hquiet p hp)
  -- `cases` asks for variables where the conclusion has the process, the result and the disk.
  generalize (a.executeOn programs access s d).result = result at *
  generalize (a.executeOn programs access s d).disk = left at *
  generalize hprocess : a.process? programs access s d = process at *
  cases hconclusion with
  | unstarted e left hfiles => exact hfiles.mono (by simp)
  | unending p hresult => exact htouched p rfl
  | unbundled p e hresult => exact htouched p rfl
  | unwritten p bytes e left hresult hwrite =>
      simpa using (htouched p rfl).trans (hwhole.write_error hwrite)
  | succeeded p bytes written hresult hwrite => exact absurd rfl hfailed

/-- A run that succeeds has put the output of its bundler into the target. -/
theorem delivery_of_success (hbuild : a.emitScript = false) (hwhole : access.Whole s.cwd)
    (hquiet : ∀ p, a.process? programs access s d = some p → p.started.SameFilesBut [] p.left)
    (hsucceeded : (a.executeOn programs access s d).result = .succeeded) :
    let left := (a.executeOn programs access s d).disk
    ∃ p bytes, a.process? programs access s d = some p ∧ p.Delivers bytes ∧
      left.read s.cwd p.paths.target = .ok bytes ∧
      (p.configuration.debug = false →
        (access.remove p.paths.temp (access.write p.paths.target bytes p.left).2).1 = .ok () →
          left.fileAt? (p.paths.temp.placeFrom s.cwd) = none) ∧
      d.SameFilesBut [p.paths.temp.placeFrom s.cwd, p.paths.target.placeFrom s.cwd] left := by
  intro left
  have hconclusion : Conclusion access d (a.process? programs access s d) _ left :=
    conclusion_of_run programs access s d a hbuild hwhole
  rw [hsucceeded] at hconclusion
  generalize hprocess : a.process? programs access s d = process at hconclusion
  generalize left = after at hconclusion ⊢
  cases hconclusion with
  | succeeded p bytes written hresult hwrite =>
      have htemp := temp_of_paths (process?_eq_some hprocess).1
      have htouched := (files_of_process hwhole hprocess (hquiet p hprocess)).trans
        (Disk.sameFilesBut_of_write (hwhole.write_ok hwrite))
      refine ⟨p, bytes, rfl, BundlerProcess.result_eq_ok_iff.1 hresult, ?_, ?_, ?_⟩
      · split
        · exact Disk.read_of_write (hwhole.write_ok hwrite)
        · rw [htemp]
          exact hwhole.read_of_remove hwrite
      · intro hdebug hremoved
        rw [hwrite] at hremoved
        rw [hdebug]
        exact (Disk.removed_of_remove (hwhole.remove_ok (Prod.ext hremoved rfl))).2.1
      · split
        · exact htouched
        · exact (htouched.trans (hwhole.files_of_remove _ _)).mono (by simp)

/-- A run that starts no process fails. -/
theorem failure_of_no_process (hbuild : a.emitScript = false) (hwhole : access.Whole s.cwd)
    (hp : a.process? programs access s d = none) :
    ∃ e, (a.executeOn programs access s d).result = .failed e := by
  have hconclusion := conclusion_of_run programs access s d a hbuild hwhole
  rw [hp] at hconclusion
  generalize (a.executeOn programs access s d).result = result at hconclusion ⊢
  cases hconclusion with
  | unstarted e _ _ => exact ⟨e, rfl⟩

/-- Without output that counts, a run fails for its bundler. -/
theorem failure_of_process {p : BundlerProcess} (hbuild : a.emitScript = false)
    (hwhole : access.Whole s.cwd) (hp : a.process? programs access s d = some p)
    (hnothing : ∀ bytes, ¬p.Delivers bytes) (hends : p.waited ≠ .unending) :
    ∃ e, (a.executeOn programs access s d).result = .failed (.build (.bundler e)) := by
  have hconclusion := conclusion_of_run programs access s d a hbuild hwhole
  rw [hp] at hconclusion
  generalize (a.executeOn programs access s d).result = result at hconclusion ⊢
  generalize (a.executeOn programs access s d).disk = left at hconclusion
  cases hconclusion with
  | unending _ hresult => exact absurd (BundlerProcess.result_eq_none_iff.1 hresult) hends
  | unbundled _ e _ => exact ⟨e, rfl⟩
  | unwritten _ bytes _ _ hresult _ =>
      exact absurd (BundlerProcess.result_eq_ok_iff.1 hresult) (hnothing bytes)
  | succeeded _ bytes _ hresult _ =>
      exact absurd (BundlerProcess.result_eq_ok_iff.1 hresult) (hnothing bytes)

/-- A target that is there is not where the temporary file goes. -/
theorem target_not_mem_tempPlaces {paths : BuildPaths} (hpaths : a.paths? s d = some paths)
    (hends : paths.target.namesDirectory = false) :
    paths.target.placeFrom s.cwd ∉ a.tempPlaces s d := by
  simpa [tempPlaces, hpaths, temp_of_paths hpaths] using (Disk.placeFrom_temp_ne hends).symm

/-- **What a run that builds leaves of the files.**  The calls to the disk may fail, and the bundler
process is taken to change no file.  If the run does not succeed, then all files but the temporary one
are as they were, and so is a target that was there.  If it succeeds, then the process ended
successfully and with output, the target holds this output, the temporary file is gone unless debugging
is on or it could not be removed, and all other files are as they were.  If no process was started, or
one that did not come to that, then the run fails, unless the process never ends and there is no time
limit.

A disk has no links.  Where the target is a link, a write follows it, and the file that changes is the
one that the link leads to. -/
theorem run_replaces_only_its_target (programs : Programs) (access : DiskAccess) (s : Surroundings)
    (d : Disk) (a : Arguments) (hbuild : a.emitScript = false) (hwhole : access.Whole s.cwd)
    (hquiet : ∀ p, a.process? programs access s d = some p →
      p.started.SameFilesBut [] p.left) :
    let run := a.executeOn programs access s d
    a.executeOn programs (.plain s.cwd) s d = a.execute programs s d ∧
      (run.result ≠ .succeeded →
        d.SameFilesBut (a.tempPlaces s d) run.disk ∧
          ∀ paths, a.paths? s d = some paths → d.isFile s.cwd paths.target = true →
            run.disk.fileAt? (paths.target.placeFrom s.cwd) =
              d.fileAt? (paths.target.placeFrom s.cwd)) ∧
      (run.result = .succeeded →
        ∃ p bytes, a.process? programs access s d = some p ∧ p.Delivers bytes ∧
          run.disk.read s.cwd p.paths.target = .ok bytes ∧
          (p.configuration.debug = false →
            (access.remove p.paths.temp (access.write p.paths.target bytes p.left).2).1 = .ok () →
              run.disk.fileAt? (p.paths.temp.placeFrom s.cwd) = none) ∧
          d.SameFilesBut [p.paths.temp.placeFrom s.cwd, p.paths.target.placeFrom s.cwd]
            run.disk) ∧
      (a.process? programs access s d = none → ∃ e, run.result = .failed e) ∧
      ∀ p, a.process? programs access s d = some p → (∀ bytes, ¬p.Delivers bytes) →
        p.waited ≠ .unending → ∃ e, run.result = .failed (.build (.bundler e)) := by
  intro run
  refine ⟨executeOn_plain programs s d a, fun hfailed => ?_,
    delivery_of_success hbuild hwhole hquiet, failure_of_no_process hbuild hwhole,
    fun p hp hnothing hends => failure_of_process hbuild hwhole hp hnothing hends⟩
  have hfiles := files_of_failure hbuild hwhole hquiet hfailed
  refine ⟨hfiles, fun paths hpaths htarget => hfiles _ ?_⟩
  exact target_not_mem_tempPlaces hpaths (Disk.isFile_iff.1 htarget).1.ends

theorem printing_quiet (text : String) (start : ProcessStart) (d : Disk) :
    d.SameFilesBut [] ((printing text).run start d).2 := .refl [] d

/-- A bundle that is there is replaced by one that is printed, and it survives a bundler that prints
nothing. -/
theorem bundle_survives_silent_bundler :
    let s : Surroundings := ⟨["site"], [("PATH", "/bin")]⟩
    let d : Disk :=
      ⟨[(["site"], .directory), (["site", "odl.js"], .file "old".toUTF8 false),
        (["bin"], .directory), (["bin", "browserify"], .file machineCode true)]⟩
    let a : Arguments := { empty with outputFilename := some "odl.js" }
    let printed := a.execute (printing "bundle") s d
    let silent := a.execute (printing "") s d
    printed.result = .succeeded ∧
      (∃ bytes, printed.disk.read ["site"] ⟨"/site/odl.js"⟩ = .ok bytes ∧ bytes.isEmpty = false) ∧
      silent.result = .failed (.build (.bundler (.emptyOutput ⟨"/bin/browserify"⟩))) ∧
      silent.disk.fileAt? ["site", "odl.js"] = d.fileAt? ["site", "odl.js"] := by
  intro s d a printed silent
  have hpaths : a.paths? s d =
      some ⟨⟨"/site"⟩, ⟨"/site/odl.js"⟩, ⟨"/site/odl.js.__tmp.js"⟩⟩ := by decide +kernel
  have hplace : (⟨"/site/odl.js"⟩ : Path).placeFrom s.cwd = ["site", "odl.js"] := by
    decide +kernel
  have hprinted : printed.result = .succeeded := by decide +kernel
  have hsilent : silent.result =
      .failed (.build (.bundler (.emptyOutput ⟨"/bin/browserify"⟩))) := by decide +kernel
  refine ⟨hprinted, ?_, hsilent, ?_⟩
  · obtain ⟨hplain, -, hdelivers, -⟩ := run_replaces_only_its_target (printing "bundle")
      (.plain s.cwd) s d a rfl (DiskAccess.plain_whole s.cwd)
      fun _ hp => process_quiet (printing_quiet "bundle") hp
    rw [hplain] at hdelivers
    obtain ⟨p, bytes, hp, ⟨_, -, -, hfull, rfl⟩, hread, -⟩ := hdelivers hprinted
    have htarget : p.paths.target = ⟨"/site/odl.js"⟩ := by
      have hsame := (process?_eq_some hp).1.symm.trans hpaths
      rw [Option.some.inj hsame]
    rw [htarget] at hread
    exact ⟨_, hread, hfull⟩
  · obtain ⟨hplain, hkeeps, -⟩ := run_replaces_only_its_target (printing "") (.plain s.cwd) s d a rfl
      (DiskAccess.plain_whole s.cwd) fun _ hp => process_quiet (printing_quiet "") hp
    rw [hplain] at hkeeps
    have hfailed : silent.result ≠ .succeeded := by
      rw [hsilent]
      intro hsucceeded
      cases hsucceeded
    have htarget := (hkeeps hfailed).2 _ hpaths (by decide +kernel)
    rw [hplace] at htarget
    exact htarget

end Arguments
end PluginBundle
