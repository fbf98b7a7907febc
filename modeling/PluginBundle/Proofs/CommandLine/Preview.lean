import PluginBundle.Proofs.Build.Recording
import PluginBundle.Proofs.CommandLine.BaseDirectory
import PluginBundle.Proofs.Configuration.Formats
import PluginBundle.Proofs.Configuration.Saving
import PluginBundle.Proofs.Files.Contents

/-!
# The printed script and the written one

A run either prints the entry script or builds with it.  The two ways part once the configuration is
there: the one checks it and prints, the other chooses a bundler first and leaves the rest to a
builder, which checks the configuration itself, needs paths, and may fail at each of them.

* `execute_preview` – what a run comes to that only prints.
* `observe_fst` – a run that is observed is the run itself, with the calls of its build beside it.
* `observe_bundling` – the calls of a run that builds.
* `preview_of_file` – the printed script depends on the configuration file and the module format.

`preview_agrees_with_bundling` puts them together.  It says nothing of what the bundler does to the
entry script once it is written.
-/

namespace PluginBundle
namespace Arguments

variable {s : Surroundings} {d : Disk} {a : Arguments} {c : Configuration} {log : List LogRecord}

/-- The arguments of the run that only prints the entry script. -/
def preview (a : Arguments) : Arguments := { a with emitScript := true }

/-- The arguments of the run that builds. -/
def bundling (a : Arguments) : Arguments := { a with emitScript := false }

/-! ## Until the configuration is there -/

/-- The configuration that a run works with, or why it has none, and what is reported until then. -/
def prepare (s : Surroundings) (d : Disk) (a : Arguments) :
    Except CommandError Configuration × List LogRecord :=
  match a.validate with
  | .error reason => (.error (.arguments reason), [])
  | .ok () =>
      match a.loadConfiguration s d with
      | (.error e, log) => (.error (.configuration e), log)
      | (.ok loaded, log) => (.ok (a.override loaded), log)

theorem prepare_preview (s : Surroundings) (d : Disk) (a : Arguments) :
    a.preview.prepare s d = a.prepare s d := rfl

theorem prepare_bundling (s : Surroundings) (d : Disk) (a : Arguments) :
    a.bundling.prepare s d = a.prepare s d := rfl

theorem execute_eq (programs : Programs) (s : Surroundings) (d : Disk) (a : Arguments) :
    a.execute programs s d =
      match a.prepare s d with
      | (.error e, log) => ⟨.failed e, "", log, d⟩
      | (.ok c, log) =>
          if a.emitScript then a.emit d c log else a.buildBundle programs s d c log := by
  unfold execute prepare
  cases a.validate with
  | error reason => rfl
  | ok _ =>
      cases a.loadConfiguration s d with
      | mk loaded log => cases loaded <;> rfl

/-- A loaded configuration is accepted. -/
theorem check_of_loadConfiguration (h : (a.loadConfiguration s d).1 = .ok c) :
    c.check = .ok () := by
  unfold loadConfiguration at h
  split at h
  · obtain ⟨_, _, -, -, v, -, haccepted⟩ := Configuration.load_eq_ok_iff.1 h
    exact ((fromValue_eq_ok_iff v c).1 haccepted).2.2
  · cases h
    rfl

/-- No override makes an accepted configuration unacceptable. -/
theorem check_of_prepare (h : a.prepare s d = (.ok c, log)) : c.check = .ok () := by
  unfold prepare at h
  cases hvalid : a.validate with
  | error reason => simp [hvalid] at h
  | ok _ =>
      cases hload : a.loadConfiguration s d with
      | mk loaded told =>
          cases loaded with
          | error e => simp [hvalid, hload] at h
          | ok loaded =>
              obtain ⟨rfl, -⟩ : a.override loaded = c ∧ told = log := by
                simpa [hvalid, hload] using h
              exact check_of_loadConfiguration (c := loaded) (by rw [hload])

/-- **What a preview comes to.**  Once the configuration is there, it succeeds. -/
theorem execute_preview (programs : Programs) (s : Surroundings) (d : Disk) (a : Arguments) :
    a.preview.execute programs s d =
      match a.prepare s d with
      | (.error e, log) => ⟨.failed e, "", log, d⟩
      | (.ok c, log) => ⟨.succeeded, c.script a.moduleFormat, log, d⟩ := by
  rw [execute_eq, prepare_preview]
  cases hprepare : a.prepare s d with
  | mk prepared log =>
      cases prepared with
      | error e => rfl
      | ok c =>
          have hcheck := check_of_prepare hprepare
          have hmode : a.preview.emitScript = true := rfl
          simp only [hmode, if_true, emit, hcheck]
          rfl

/-! ## Runs that are observed -/

/-- A run, and the calls that its build made. -/
def observe (programs : Programs) (s : Surroundings) (d : Disk) (a : Arguments) :
    CommandRun × List Effect :=
  match a.prepare s d with
  | (.error e, log) => (⟨.failed e, "", log, d⟩, [])
  | (.ok c, log) =>
      if a.emitScript then (a.emit d c log, [])
      else
        match a.selectBundler s d c.baseDir? with
        | (.error e, told) => (⟨.failed (.bundler e), "", log ++ told, d⟩, [])
        | (.ok bundler, told) =>
            let stop :=
              a.builder.build (bundler.host programs s).recording s.cwdPath (some c) (d, [])
            (runAfter (log ++ told) (stop.map id (BuildRun.view Prod.fst)), stop.2.world.2)

/-- A run cannot tell that it is observed. -/
theorem observe_fst (programs : Programs) (s : Surroundings) (d : Disk) (a : Arguments) :
    (a.observe programs s d).1 = a.execute programs s d := by
  rw [execute_eq]
  unfold observe
  cases a.prepare s d with
  | mk prepared log =>
      cases prepared with
      | error e => rfl
      | ok c =>
          cases hmode : a.emitScript with
          | true => simp
          | false =>
              simp only [Bool.false_eq_true, if_false, buildBundle_eq]
              cases a.selectBundler s d c.baseDir? with
              | mk choice told =>
                  cases choice with
                  | error e => rfl
                  | ok bundler =>
                      have hview := Builder.build_view (bundler.host programs s).recording_views
                        s.cwdPath a.builder (some c) (d, [])
                      exact congrArg (runAfter (log ++ told)) hview.symm

theorem runAfter_disk (log : List LogRecord) (stop : BuildOutcome × BuildRun Disk) :
    (runAfter log stop).disk = stop.2.world := by
  unfold runAfter
  split <;> rfl

/-- **The calls of a run that builds.**  It comes to none and leaves the disk as it is, or it first
writes the entry script to the temporary file and then nothing else to that file. -/
theorem observe_bundling (programs : Programs) (h : a.prepare s d = (.ok c, log)) :
    let script := (c.script a.moduleFormat).toUTF8
    let seen := a.bundling.observe programs s d
    (seen.2 = [] ∧ seen.1.disk = d) ∨
      ∃ paths, BuildPaths.resolve s.cwdPath c = .ok paths ∧
        Builder.WritesOnce paths.temp script (d.write s.cwd paths.temp script).1.isOk seen.2 := by
  intro script seen
  have hmode : a.bundling.emitScript = false := rfl
  cases hselect : a.bundling.selectBundler s d c.baseDir? with
  | mk choice told =>
      cases choice with
      | error e =>
          have hseen : seen = (⟨.failed (.bundler e), "", log ++ told, d⟩, []) := by
            simp [seen, observe, prepare_bundling, h, hmode, hselect]
          exact .inl (by simp [hseen])
      | ok bundler =>
          let stop := a.bundling.builder.build (bundler.host programs s).recording s.cwdPath
            (some c) (d, [])
          have hseen : seen =
              (runAfter (log ++ told) (stop.map id (BuildRun.view Prod.fst)),
                stop.2.world.2) := by
            simp [seen, stop, observe, prepare_bundling, h, hmode, hselect]
          rw [hseen, runAfter_disk]
          have hcourse := Builder.build_course (bundler.host programs s).recording s.cwdPath
            a.bundling.builder (some c) (d, [])
          obtain ⟨hworld, -⟩ | ⟨paths, hprepared, hwrites⟩ := Builder.record_of_course hcourse
          · left
            have hstop : stop.2.world = (d, []) := hworld
            simp [hstop]
          · rw [CommandBundler.host_write] at hwrites
            exact .inr ⟨paths, hprepared.resolved, hwrites⟩

/-! ## Runs on a given file -/

/-- With a configuration file given, a preview comes to the script of the configuration that the file
holds, whatever else the arguments ask for. -/
theorem preview_of_file (programs : Programs) {file : Path} (hvalid : a.validate = .ok ())
    (hfile : a.configFile = some file) :
    let shown := a.preview.execute programs s d
    (shown.result = .succeeded ↔ ∃ c, (Configuration.load d s.cwd file).1 = .ok c) ∧
      ∀ c, (Configuration.load d s.cwd file).1 = .ok c → shown.stdout = c.script a.moduleFormat := by
  intro shown
  have hload : a.loadConfiguration s d = Configuration.load d s.cwd file := by
    simp only [loadConfiguration, configurationFile, hfile]
  have hshown := execute_preview programs s d a
  unfold prepare at hshown
  rw [hvalid, hload] at hshown
  cases hfound : Configuration.load d s.cwd file with
  | mk loaded log =>
      rw [hfound] at hshown
      cases loaded with
      | error e => simp [shown, hshown]
      | ok c =>
          refine ⟨by simp [shown, hshown], fun c' hc' => ?_⟩
          cases hc'
          -- The script is made of the plugins and the hook, and those are never overridden.
          exact congrArg CommandRun.stdout hshown

/-- Two previews of files with the same contents do not print two scripts. -/
theorem preview_unique (programs programs' : Programs) {s' : Surroundings} {d' : Disk}
    {a' : Arguments} {file file' : Path} (hvalid : a.validate = .ok ())
    (hvalid' : a'.validate = .ok ()) (hfile : a.configFile = some file)
    (hfile' : a'.configFile = some file') (hread : d'.read s'.cwd file' = d.read s.cwd file)
    (hstyle : a'.moduleFormat = a.moduleFormat) :
    let shown := a.preview.execute programs s d
    let shown' := a'.preview.execute programs' s' d'
    (shown.result = .succeeded → shown'.result = .succeeded → shown'.stdout = shown.stdout) ∧
      (ConfigurationFormat.ofPath? file' = ConfigurationFormat.ofPath? file →
        (shown'.result = .succeeded ↔ shown.result = .succeeded)) := by
  intro shown shown'
  obtain ⟨hsucceeds, hprints⟩ := preview_of_file (s := s) (d := d) programs hvalid hfile
  obtain ⟨hsucceeds', hprints'⟩ := preview_of_file (s := s') (d := d') programs' hvalid' hfile'
  have htext : d'.readText s'.cwd file' = d.readText s.cwd file := by
    rw [Disk.readText, Disk.readText, hread]
  constructor
  · intro hshown hshown'
    obtain ⟨c, hc⟩ := hsucceeds.1 hshown
    obtain ⟨c', hc'⟩ := hsucceeds'.1 hshown'
    obtain ⟨text, _, hreads, -, hspelled⟩ := Configuration.load_eq_ok_iff.1 hc
    obtain ⟨text', _, hreads', -, hspelled'⟩ := Configuration.load_eq_ok_iff.1 hc'
    obtain rfl : text' = text := by simpa [hreads, hreads'] using htext
    obtain ⟨-, rfl⟩ := Configuration.configuration_of_text_unique hspelled hspelled'
    rw [hprints c' hc, hprints' c' hc', hstyle]
  · intro hformat
    rw [hsucceeds, hsucceeds']
    simp only [Configuration.load_eq_ok_iff, htext, hformat]

/-- **Preview and build agree.**  A preview changes nothing on the disk.  If it succeeds, then the run
that builds either makes no call, or it first writes the text that was printed to the temporary file
and never anything else to that file; read back from there, it is that text.  If the preview fails,
then the run that builds fails for the same cause and does nothing.  With a configuration file given,
what is printed depends on what that file holds and on the module format, and on nothing else. -/
theorem preview_agrees_with_bundling (programs : Programs) (s : Surroundings) (d : Disk)
    (a : Arguments) :
    let shown := a.preview.execute programs s d
    let run := a.bundling.execute programs s d
    let calls := (a.bundling.observe programs s d).2
    (a.bundling.observe programs s d).1 = run ∧ shown.disk = d ∧
      (shown.result = .succeeded →
        (calls = [] ∧ run.disk = d) ∨
          ∃ c paths, (a.prepare s d).1 = .ok c ∧ BuildPaths.resolve s.cwdPath c = .ok paths ∧
            let written := d.write s.cwd paths.temp shown.stdout.toUTF8
            Builder.WritesOnce paths.temp shown.stdout.toUTF8 written.1.isOk calls ∧
              (written.1 = .ok () → written.2.readText s.cwd paths.temp = .ok shown.stdout)) ∧
      (shown.result ≠ .succeeded →
        (∃ e, shown.result = .failed e ∧ run.result = .failed e) ∧ run.disk = d ∧ calls = []) ∧
      ∀ (programs' : Programs) (s' : Surroundings) (d' : Disk) (a' : Arguments)
        (file file' : Path), a.validate = .ok () → a'.validate = .ok () →
        a.configFile = some file → a'.configFile = some file' →
        d'.read s'.cwd file' = d.read s.cwd file → a'.moduleFormat = a.moduleFormat →
          let shown' := a'.preview.execute programs' s' d'
          (shown.result = .succeeded → shown'.result = .succeeded →
              shown'.stdout = shown.stdout) ∧
            (ConfigurationFormat.ofPath? file' = ConfigurationFormat.ofPath? file →
              (shown'.result = .succeeded ↔ shown.result = .succeeded)) := by
  intro shown run calls
  have hobserved : (a.bundling.observe programs s d).1 = run := observe_fst programs s d a.bundling
  have hshown : shown = _ := execute_preview programs s d a
  refine ⟨hobserved, ?_, ?_, ?_, fun programs' s' d' a' file file' hvalid hvalid' hfile hfile' hread
    hstyle => preview_unique programs programs' hvalid hvalid' hfile hfile' hread hstyle⟩
  · rw [hshown]
    split <;> rfl
  · intro hsucceeded
    cases hprepare : a.prepare s d with
    | mk prepared log =>
        rw [hprepare] at hshown
        cases prepared with
        | error e => simp [hshown] at hsucceeded
        | ok c =>
            have hstdout : shown.stdout = c.script a.moduleFormat := by rw [hshown]
            rw [hstdout, ← hobserved]
            obtain hquiet | ⟨paths, hresolve, hwrites⟩ := observe_bundling programs hprepare
            · exact .inl hquiet
            · refine .inr ⟨c, paths, rfl, hresolve, hwrites, fun hanswer => ?_⟩
              exact Disk.readText_of_read (Disk.read_of_write (Prod.ext hanswer rfl))
  · intro hfailed
    cases hprepare : a.prepare s d with
    | mk prepared log =>
        rw [hprepare] at hshown
        cases prepared with
        | ok c => simp [hshown] at hfailed
        | error e =>
            have hseen : a.bundling.observe programs s d = (⟨.failed e, "", log, d⟩, []) := by
              simp only [observe, prepare_bundling, hprepare]
            have hrun : run = ⟨.failed e, "", log, d⟩ := by rw [← hobserved, hseen]
            exact ⟨⟨e, by rw [hshown], by rw [hrun]⟩, by rw [hrun], congrArg Prod.snd hseen⟩

/-- A configuration file is previewed, built from, and previewed again from elsewhere and with other
options.  Without a second to wait, neither the preview nor the build starts. -/
theorem preview_of_saved_configuration :
    let c : Configuration := { Configuration.empty with outputFilename := some "odl.js" }
    let s : Surroundings := ⟨["site"], [("PATH", "/bin")]⟩
    let d : Disk :=
      ⟨[(["site"], .directory), (["site", "odl.json"], .file c.text.toUTF8 false),
        (["bin"], .directory), (["bin", "browserify"], .file machineCode true)]⟩
    let a : Arguments := { empty with configFile := some ⟨"odl.json"⟩ }
    let elsewhere : Surroundings := ⟨[], []⟩
    let other : Arguments :=
      { a with
        configFile := some ⟨"/site/odl.json"⟩
        outputFilename := some "other.js"
        debug := true
        bundler := some .esbuild }
    let hasty : Arguments := { a with timeout := some 0 }
    let shown := a.preview.execute (printing "bundle") s d
    let calls := (a.bundling.observe (printing "bundle") s d).2
    let hastyRun := hasty.bundling.execute (printing "bundle") s d
    shown.result = .succeeded ∧
      Builder.WritesOnce ⟨"/site/odl.js.__tmp.js"⟩ shown.stdout.toUTF8 true calls ∧
      (other.preview.execute (printing "bundle") elsewhere d).result = .succeeded ∧
      (other.preview.execute (printing "bundle") elsewhere d).stdout = shown.stdout ∧
      (hasty.preview.execute (printing "bundle") s d).result ≠ .succeeded ∧
      (∃ e, hastyRun.result = .failed e) ∧ hastyRun.disk = d := by
  intro c s d a elsewhere other hasty
  dsimp only
  have hshown : (a.preview.execute (printing "bundle") s d).result = .succeeded := by
    decide +kernel
  have hfirst : Builder.firstWrite? (a.bundling.observe (printing "bundle") s d).2 =
      some (⟨"/site/odl.js.__tmp.js"⟩, true) := by
    decide +kernel
  have hhasty : (hasty.preview.execute (printing "bundle") s d).result ≠ .succeeded := by
    decide +kernel
  obtain ⟨-, -, hwrites, -, hsame⟩ := preview_agrees_with_bundling (printing "bundle") s d a
  obtain ⟨-, -, -, hfails, -⟩ := preview_agrees_with_bundling (printing "bundle") s d hasty
  obtain ⟨hprinted, hagain⟩ := hsame (printing "bundle") elsewhere d other ⟨"odl.json"⟩
    ⟨"/site/odl.json"⟩ rfl rfl rfl rfl rfl rfl
  have hother : (other.preview.execute (printing "bundle") elsewhere d).result = .succeeded :=
    (hagain (by decide)).2 hshown
  obtain ⟨⟨e, -, hfailed⟩, hdisk, -⟩ := hfails hhasty
  refine ⟨hshown, ?_, hother, hprinted hshown hother, hhasty, ⟨e, hfailed⟩, hdisk⟩
  obtain ⟨hnone, -⟩ | ⟨_, paths, -, -, honce, -⟩ := hwrites hshown
  · have hempty : Builder.firstWrite? (a.bundling.observe (printing "bundle") s d).2 = none :=
      congrArg Builder.firstWrite? hnone
    simp [hempty] at hfirst
  · have hsaid := hfirst.symm.trans honce.firstWrite?_eq
    obtain ⟨htemp, hdone⟩ := Prod.mk.inj (Option.some.inj hsaid)
    rw [← hdone, ← htemp] at honce
    exact honce

end Arguments
end PluginBundle
