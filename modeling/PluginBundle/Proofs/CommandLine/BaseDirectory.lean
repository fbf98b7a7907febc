import PluginBundle.CommandLine.Execute
import PluginBundle.Proofs.Build.Placement
import PluginBundle.Proofs.CommandLine.Words
import PluginBundle.Proofs.Configuration.Decoding
import PluginBundle.Proofs.Files.Directories

/-!
# Runs without a base directory

A base directory that is not set stands for the working directory.  Four parts of a run read it: the
search for a configuration file, the choice of the bundler, the directory that the bundler runs in,
and the paths of the build.  This module compares a run without a base directory with the same run
whose base directory is the working directory written out.

Three of the four parts do the same in both.  The choice of the bundler does not: a run without a
base directory never looks among the programs of the project in the working directory.
`unset_base_directory` says that the two runs are equal, to the last log record, unless there is
such a program that the other run chooses, and what each of them chooses then.
-/

namespace PluginBundle

variable {d v : Disk} {s : Surroundings}

/-! ## The working directory as a path -/

/-- The working directory can be named by its path. -/
def Surroundings.Placed (s : Surroundings) (d : Disk) : Prop :=
  d.resolve s.cwd s.cwdPath = .ok (s.cwd, .directory)

/-- The question put to the disk. -/
instance (s : Surroundings) (d : Disk) : Decidable (s.Placed d) :=
  decidable_of_iff
    ((match d.resolve s.cwd s.cwdPath with
      | .ok (place, .directory) => decide (place = s.cwd)
      | _ => false) = true)
    (by unfold Surroundings.Placed; split <;> simp_all)

theorem Surroundings.cwdPath_isAbsolute (s : Surroundings) : s.cwdPath.isAbsolute = true := by
  simp [Surroundings.cwdPath, Path.ofNames, Path.isAbsolute, Path.chars]

/-! ## The directory of the bundler -/

namespace Invocation

/-- The invocation from another directory. -/
def startedIn (i : Invocation) (dir : Option Path) : Invocation := { i with workingDir := dir }

theorem checkText_startedIn {i : Invocation} (hnone : i.workingDir = none) {dir : Path}
    (hdir : '\x00' ∉ dir.chars) :
    (i.startedIn (some dir)).checkText = i.checkText := by
  have htext : '\x00' ∉ dir.text.toList := hdir
  simp [checkText, startedIn, hnone, htext]

/-- A process inherits the working directory, or is put there by name. -/
theorem start_startedIn (programs : Programs) {i : Invocation} (hnone : i.workingDir = none)
    (hplaced : s.Placed v) :
    (i.startedIn (some s.cwdPath)).start programs s v = i.start programs s v := by
  have htext := checkText_startedIn hnone (Disk.not_nul_of_checkPath
    (Disk.resolve_eq_directory_iff.1 hplaced).1)
  have hinherited : i.directory v s = .ok s.cwd := by simp [directory, hnone]
  have hnamed : (i.startedIn (some s.cwdPath)).directory v s = .ok s.cwd := by
    simp only [directory, startedIn]
    rw [hplaced]
  have hprepare : (i.startedIn (some s.cwdPath)).prepare programs s v = i.prepare programs s v := by
    unfold prepare
    rw [htext, hinherited, hnamed]
    rfl
  unfold start
  rw [hprepare]

end Invocation

namespace CommandBundler

/-- The bundler, run from another directory. -/
def startedIn (b : CommandBundler) (dir : Option Path) : CommandBundler :=
  { b with workingDir := dir }

/-- The answer does not depend on how the working directory is given. -/
theorem bundle_startedIn (programs : Programs) {b : CommandBundler} (hnone : b.workingDir = none)
    (hplaced : s.Placed v) (entry : Path) (standalone : Option String) :
    (b.startedIn (some s.cwdPath)).bundle programs s entry standalone v =
      b.bundle programs s entry standalone v := by
  have hstart := Invocation.start_startedIn programs (i := b.invocation entry standalone) hnone
    hplaced
  have hinvocation : (b.startedIn (some s.cwdPath)).invocation entry standalone =
      (b.invocation entry standalone).startedIn (some s.cwdPath) := rfl
  unfold bundle
  rw [hinvocation, hstart]
  rfl

theorem host_write (programs : Programs) (b : CommandBundler) (p : Path) (contents : ByteArray)
    (d : Disk) : (b.host programs s).write p contents d = d.write s.cwd p contents := by
  simp only [host]

theorem host_bundle (programs : Programs) (b : CommandBundler) :
    (b.host programs s).bundle = b.bundle programs s := by
  simp only [host]

theorem host_startedIn (programs : Programs) (b : CommandBundler) (dir : Option Path) :
    (b.startedIn dir).host programs s =
      (b.host programs s).calling ((b.startedIn dir).bundle programs s) := by
  simp only [host, BuildHost.calling]

end CommandBundler

/-- A disk keeps the working directory in its place while files are written to it. -/
theorem Surroundings.Placed.write (h : s.Placed d) (p : Path) (contents : ByteArray) :
    s.Placed (d.write s.cwd p contents).2 :=
  Disk.resolve_directory_of_keeps (Disk.write_keeps d s.cwd p contents) h

/-! ## The choice of the bundler -/

namespace CommandBundler

variable {kind : BundlerKind} {dir : Path}

/-- Without a program of the project, the search path decides. -/
theorem locate_of_not_local (h : findLocal d s (some dir) kind.program = none) :
    locate d s kind (some dir) =
      ((locate d s kind none).1.map (·.startedIn (some dir)), (locate d s kind none).2) := by
  have hnone : findLocal d s none kind.program = none := rfl
  simp only [locate, h, hnone]
  cases hwhich : d.which s kind.program <;> rfl

/-- A program of the project goes before the search path. -/
theorem locate_of_local (h : (findLocal d s (some dir) kind.program).isSome = true) :
    (locate d s kind (some dir)).1 =
      .ok ⟨kind, localProgram dir kind.program, some dir⟩ := by
  have hfound : findLocal d s (some dir) kind.program = some (localProgram dir kind.program) := by
    revert h
    simp only [findLocal]
    split <;> simp
  simp only [locate, hfound]

/-- Without a project, what is found lies on the search path. -/
theorem locate_none_eq_ok {b : CommandBundler} (h : (locate d s kind none).1 = .ok b) :
    d.which s b.kind.program = some b.program ∧ b.workingDir = none := by
  have hnone : findLocal d s none kind.program = none := rfl
  simp only [locate, hnone] at h
  cases hwhich : d.which s kind.program with
  | none => simp [hwhich] at h
  | some path =>
      obtain rfl : (⟨kind, path, none⟩ : CommandBundler) = b := by simpa [hwhich] using h
      exact ⟨hwhich, rfl⟩

end CommandBundler

namespace Arguments

variable {a : Arguments}

/-- The project in the working directory has a program of its own for a kind. -/
def hasOwn (s : Surroundings) (d : Disk) (kind : BundlerKind) : Bool :=
  (findLocal d s (some s.cwdPath) kind.program).isSome

/-- The kind of the project's own program that a run chooses in the working directory, if it chooses
one. -/
def ownKind? (s : Surroundings) (d : Disk) (a : Arguments) : Option BundlerKind :=
  match a.bundler, a.bundlerBin with
  | some _, some _ => none
  | some kind, none => if hasOwn s d kind then some kind else none
  | none, _ => BundlerKind.all.find? (hasOwn s d)

theorem find?_local_none (d : Disk) (s : Surroundings) :
    (BundlerKind.all.find? fun kind => (findLocal d s none kind.program).isSome) = none := rfl

/-- If no program of the project is chosen, the choice is that of a run without a project. -/
theorem selectBundler_of_ownKind?_eq_none (h : a.ownKind? s d = none) :
    a.selectBundler s d (some s.cwdPath) =
      ((a.selectBundler s d none).1.map (·.startedIn (some s.cwdPath)),
        (a.selectBundler s d none).2) := by
  have hlocate (kind : BundlerKind) (hown : hasOwn s d kind = false) :=
    CommandBundler.locate_of_not_local
      (Option.not_isSome_iff_eq_none.1 (Bool.eq_false_iff.1 hown))
  cases hbundler : a.bundler with
  | some kind =>
      cases hbin : a.bundlerBin with
      | some bin =>
          simp only [selectBundler, hbundler, hbin]
          rfl
      | none =>
          have hown : hasOwn s d kind = false := by simpa [ownKind?, hbundler, hbin] using h
          simpa only [selectBundler, hbundler, hbin] using hlocate kind hown
  | none =>
      have hown : BundlerKind.all.find? (hasOwn s d) = none := by
        simpa [ownKind?, hbundler] using h
      have hlocal : (BundlerKind.all.find? fun kind =>
          (findLocal d s (some s.cwdPath) kind.program).isSome) = none := hown
      simp only [selectBundler, hbundler, hlocal, find?_local_none]
      cases hdetect : detectBundler d s with
      | mk found log =>
          cases found with
          | none => rfl
          | some kind =>
              have hmem : kind ∈ BundlerKind.all := by cases kind <;> decide
              have hkind : hasOwn s d kind = false := by
                simpa using List.find?_eq_none.1 hown kind hmem
              simp only [hlocate kind hkind]

/-- A program of the project that is there to be chosen is chosen. -/
theorem selectBundler_of_ownKind?_eq_some {kind : BundlerKind} (h : a.ownKind? s d = some kind) :
    (a.selectBundler s d (some s.cwdPath)).1 =
      .ok ⟨kind, localProgram s.cwdPath kind.program, some s.cwdPath⟩ := by
  cases hbundler : a.bundler with
  | some asked =>
      cases hbin : a.bundlerBin with
      | some bin => simp [ownKind?, hbundler, hbin] at h
      | none =>
          obtain ⟨hown, rfl⟩ : hasOwn s d asked = true ∧ asked = kind := by
            simpa [ownKind?, hbundler, hbin] using h
          simp only [selectBundler, hbundler, hbin]
          exact CommandBundler.locate_of_local hown
  | none =>
      have hfirst : BundlerKind.all.find? (hasOwn s d) = some kind := by
        simpa [ownKind?, hbundler] using h
      have hlocal : (BundlerKind.all.find? fun kind =>
          (findLocal d s (some s.cwdPath) kind.program).isSome) = some kind := hfirst
      have hown : hasOwn s d kind = true := List.find?_some hfirst
      simp only [selectBundler, hbundler, hlocal]
      exact CommandBundler.locate_of_local hown

/-- A run without a project takes the program that it is given, or one of the search path, and
starts it in the working directory that it inherits. -/
theorem selectBundler_none_eq_ok {b : CommandBundler} (h : (a.selectBundler s d none).1 = .ok b) :
    b.workingDir = none ∧
      ((∃ kind bin, a.bundler = some kind ∧ a.bundlerBin = some bin) ∨
        d.which s b.kind.program = some b.program) := by
  cases hbundler : a.bundler with
  | some kind =>
      cases hbin : a.bundlerBin with
      | some bin =>
          simp only [selectBundler, hbundler, hbin] at h
          cases h
          exact ⟨rfl, .inl ⟨kind, bin, rfl, rfl⟩⟩
      | none =>
          simp only [selectBundler, hbundler, hbin] at h
          obtain ⟨hwhich, hdir⟩ := CommandBundler.locate_none_eq_ok h
          exact ⟨hdir, .inr hwhich⟩
  | none =>
      simp only [selectBundler, hbundler, find?_local_none] at h
      cases hdetect : detectBundler d s with
      | mk found log =>
          cases found with
          | none => simp [hdetect] at h
          | some kind =>
              rw [hdetect] at h
              obtain ⟨hwhich, hdir⟩ := CommandBundler.locate_none_eq_ok h
              exact ⟨hdir, .inr hwhich⟩

/-- Where the project has a program to choose, a run without a project goes by the search path. -/
theorem which_of_ownKind?_eq_some {kind : BundlerKind} {b : CommandBundler}
    (hown : a.ownKind? s d = some kind) (h : (a.selectBundler s d none).1 = .ok b) :
    d.which s b.kind.program = some b.program := by
  obtain ⟨-, ⟨asked, bin, hbundler, hbin⟩ | hwhich⟩ := selectBundler_none_eq_ok h
  · simp [ownKind?, hbundler, hbin] at hown
  · exact hwhich

/-! ## Whole runs -/

/-- The base directory of a run: the one of the command line, or else that of its configuration
file.  An empty one counts as unset. -/
def effectiveBase? (s : Surroundings) (d : Disk) (a : Arguments) : Option Path :=
  match (a.loadConfiguration s d).1 with
  | .ok c => (a.override c).baseDir?
  | .error _ => (a.override .empty).baseDir?

/-- The arguments with the working directory written out as the base directory. -/
def basedHere (s : Surroundings) (a : Arguments) : Arguments :=
  { a with baseDir := some s.cwdPath }

/-- The bundler that a run chooses if it comes to bundling. -/
def chosenBundler (s : Surroundings) (d : Disk) (a : Arguments) :
    Except BundlerError CommandBundler :=
  (a.selectBundler s d (a.effectiveBase? s d)).1

theorem isEmpty_of_pathValue {value : String} {p : Path} (h : pathValue value = .ok p) :
    p.isEmpty = false := by
  unfold pathValue at h
  split at h
  · cases h
  · rename_i hvalue
    cases h
    simpa [Path.isEmpty, Path.chars] using hvalue

/-- No command line sets an empty base directory. -/
theorem baseDir_isEmpty_of_parse {words : List String} {lookup : String → Option String}
    (h : Arguments.parse words lookup = .ok a) :
    ∀ dir, a.baseDir = some dir → dir.isEmpty = false := by
  refine Arguments.parse_induction
    (P := fun a => ∀ dir, a.baseDir = some dir → dir.isEmpty = false) ?_ ?_ h
  · intro dir hdir
    cases hdir
  · intro a switch value a' hkept hset
    cases switch with
    | baseDir =>
        obtain ⟨p, hp, rfl⟩ := map_eq_ok_iff.1 hset
        intro dir hdir
        cases hdir
        exact isEmpty_of_pathValue hp
    | config | outputPath | bundler | bundlerBin | timeout | moduleFormat =>
        obtain ⟨_, -, rfl⟩ := map_eq_ok_iff.1 hset
        exact hkept
    | outputFilename | debug | emitScript | verbose =>
        cases hset
        exact hkept
    | help | version => cases hset

/-- A run without a base directory was given none on its command line. -/
theorem baseDir_eq_none {words : List String} {lookup : String → Option String}
    (hparse : Arguments.parse words lookup = .ok a) (hunset : a.effectiveBase? s d = none) :
    a.baseDir = none := by
  cases hdir : a.baseDir with
  | none => rfl
  | some dir =>
      have hset (c : Configuration) : (a.override c).baseDir? = some dir := by
        have hfull := baseDir_isEmpty_of_parse hparse dir hdir
        simp [override, Configuration.baseDir?, hdir, hfull]
      unfold effectiveBase? at hunset
      split at hunset <;> simp [hset] at hunset

theorem loadConfiguration_basedHere (hnone : a.baseDir = none) :
    (a.basedHere s).loadConfiguration s d = a.loadConfiguration s d := by
  have hfile : (a.basedHere s).configurationFile s d = a.configurationFile s d := by
    simp [configurationFile, basedHere, hnone]
  unfold loadConfiguration
  rw [hfile]

theorem override_basedHere (s : Surroundings) (a : Arguments) (c : Configuration) :
    (a.basedHere s).override c = (a.override c).withBase (some s.cwdPath) := rfl

theorem baseDir?_withBase_cwdPath (s : Surroundings) (c : Configuration) :
    (c.withBase (some s.cwdPath)).baseDir? = some s.cwdPath := by
  have hfull : s.cwdPath.isEmpty = false := by
    simp [Surroundings.cwdPath, Path.ofNames, Path.isEmpty, Path.chars]
  simp [Configuration.baseDir?, Configuration.withBase, hfull]

theorem effectiveBase?_basedHere (s : Surroundings) (d : Disk) (a : Arguments) :
    (a.basedHere s).effectiveBase? s d = some s.cwdPath := by
  have hany (c : Configuration) : ((a.basedHere s).override c).baseDir? = some s.cwdPath := by
    rw [override_basedHere, baseDir?_withBase_cwdPath]
  unfold effectiveBase?
  split
  · exact hany _
  · exact hany _

/-- Only the project is looked at for the choice, not the arguments' own base directory. -/
theorem selectBundler_basedHere (s : Surroundings) (d : Disk) (a : Arguments)
    (projectDir : Option Path) :
    (a.basedHere s).selectBundler s d projectDir = a.selectBundler s d projectDir := rfl

/-- The builder that a run sets up. -/
def builder (a : Arguments) : Builder :=
  { Builder.initial with style := a.moduleFormat, timeout := a.timeLimit }

theorem builder_basedHere (s : Surroundings) (a : Arguments) :
    (a.basedHere s).builder = a.builder := rfl

/-- What a run comes to after its build. -/
def runAfter (log : List LogRecord) (stop : BuildOutcome × BuildRun Disk) : CommandRun :=
  match stop.1 with
  | .failed e => ⟨.failed (.build e), "", log ++ stop.2.log, stop.2.world⟩
  | .unending => ⟨.unending, "", log ++ stop.2.log, stop.2.world⟩
  | .built artifact => ⟨.succeeded, summary artifact, log ++ stop.2.log, stop.2.world⟩

theorem buildBundle_eq (programs : Programs) (s : Surroundings) (d : Disk) (a : Arguments)
    (c : Configuration) (log : List LogRecord) :
    a.buildBundle programs s d c log =
      match a.selectBundler s d c.baseDir? with
      | (.error e, told) => ⟨.failed (.bundler e), "", log ++ told, d⟩
      | (.ok bundler, told) =>
          runAfter (log ++ told)
            (a.builder.build (bundler.host programs s) s.cwdPath (some c) d) := by
  unfold buildBundle
  cases a.selectBundler s d c.baseDir? with
  | mk choice told =>
      cases choice with
      | error e => rfl
      | ok bundler => rfl

/-- The builder that is left does not matter. -/
theorem runAfter_congr {log : List LogRecord} {stop stop' : BuildOutcome × BuildRun Disk}
    (houtcome : stop'.1 = stop.1) (hworld : stop'.2.world = stop.2.world)
    (hlog : stop'.2.log = stop.2.log) : runAfter log stop' = runAfter log stop := by
  unfold runAfter
  rw [houtcome, hworld, hlog]

/-- With the same choice of the bundler, the two builds are the same. -/
theorem buildBundle_basedHere (programs : Programs) (hplaced : s.Placed d) {c : Configuration}
    (hunset : c.baseDir? = none) (hown : a.ownKind? s d = none) (log : List LogRecord) :
    (a.basedHere s).buildBundle programs s d (c.withBase (some s.cwdPath)) log =
      a.buildBundle programs s d c log := by
  rw [buildBundle_eq, buildBundle_eq, baseDir?_withBase_cwdPath, selectBundler_basedHere,
    selectBundler_of_ownKind?_eq_none hown, hunset]
  cases hchoice : a.selectBundler s d none with
  | mk choice told =>
      cases choice with
      | error e => rfl
      | ok bundler =>
          have hdir : bundler.workingDir = none :=
            (selectBundler_none_eq_ok (by rw [hchoice])).1
          have hresolve := BuildPaths.resolve_withBase_cwd s.cwdPath_isAbsolute hunset
          -- The bundler is called after one file was written, so the directory is still there.
          have hcall (paths : BuildPaths) (v : Disk)
              (hwrite : (bundler.host programs s).write paths.temp
                (c.script a.builder.style).toUTF8 d = (.ok (), v)) :
              (bundler.startedIn (some s.cwdPath)).bundle programs s paths.temp
                  (some standaloneName) v =
                (bundler.host programs s).bundle paths.temp (some standaloneName) v := by
            have hstill := hplaced.write paths.temp (c.script a.builder.style).toUTF8
            rw [CommandBundler.host_write] at hwrite
            rw [hwrite] at hstill
            rw [CommandBundler.host_bundle]
            exact CommandBundler.bundle_startedIn programs hdir hstill _ _
          obtain ⟨houtcome, hworld, hlog⟩ :=
            Builder.build_withBase (bundler.host programs s)
              ((bundler.startedIn (some s.cwdPath)).bundle programs s) (some s.cwdPath) a.builder
              hresolve hcall
          dsimp only [Except.map]
          rw [CommandBundler.host_startedIn, builder_basedHere]
          exact runAfter_congr houtcome hworld hlog

theorem emit_basedHere (s : Surroundings) (d : Disk) (a : Arguments) (c : Configuration)
    (log : List LogRecord) :
    (a.basedHere s).emit d (c.withBase (some s.cwdPath)) log = a.emit d c log := by
  unfold emit
  rw [Configuration.check_withBase, Configuration.script_withBase]
  rfl

/-- Without a program of the project to choose, writing the working directory out changes nothing. -/
theorem execute_basedHere (programs : Programs) (hplaced : s.Placed d) (hnone : a.baseDir = none)
    (hunset : a.effectiveBase? s d = none)
    (hagree : a.emitScript = true ∨ a.ownKind? s d = none) :
    (a.basedHere s).execute programs s d = a.execute programs s d := by
  have hvalidate : (a.basedHere s).validate = a.validate := rfl
  have hemit : (a.basedHere s).emitScript = a.emitScript := rfl
  unfold execute
  rw [hvalidate, loadConfiguration_basedHere hnone, hemit]
  -- The two runs part only where the loaded configuration is overridden.
  cases hvalid : a.validate with
  | error reason => rfl
  | ok _ =>
      cases hload : a.loadConfiguration s d with
      | mk loaded log =>
          cases loaded with
          | error e => rfl
          | ok c =>
              have hbase : (a.override c).baseDir? = none := by
                simpa [effectiveBase?, hload] using hunset
              dsimp only
              rw [override_basedHere]
              cases hscript : a.emitScript with
              | true => exact emit_basedHere s d a (a.override c) log
              | false =>
                  have hown : a.ownKind? s d = none := by simpa [hscript] using hagree
                  exact buildBundle_basedHere programs hplaced hbase hown log

/-- **What an unset base directory stands for.**  The arguments are those of some command line, the
working directory can be named by its path, and the run has no base directory.  Then the run is the
same, to the last log record, as the run whose base directory is the working directory written out,
if it only prints the script or if no program of the project in the working directory is there to be
chosen.  Otherwise the other run chooses that program, and this one goes by the search path. -/
theorem unset_base_directory (programs : Programs) (s : Surroundings) (d : Disk)
    (words : List String) (a : Arguments) (hparse : Arguments.parse words s.value? = .ok a)
    (hplaced : s.Placed d) (hunset : a.effectiveBase? s d = none) :
    (a.emitScript = true ∨ a.ownKind? s d = none →
      a.execute programs s d = (a.basedHere s).execute programs s d) ∧
    ∀ kind, a.ownKind? s d = some kind →
      (a.basedHere s).chosenBundler s d =
          .ok ⟨kind, localProgram s.cwdPath kind.program, some s.cwdPath⟩ ∧
        ∀ b, a.chosenBundler s d = .ok b → d.which s b.kind.program = some b.program := by
  constructor
  · intro hagree
    have hnone := baseDir_eq_none hparse hunset
    exact (execute_basedHere programs hplaced hnone hunset hagree).symm
  · intro kind hown
    unfold chosenBundler
    rw [effectiveBase?_basedHere, selectBundler_basedHere, hunset]
    exact ⟨selectBundler_of_ownKind?_eq_some hown, fun b hb => which_of_ownKind?_eq_some hown hb⟩

/-! ### Two projects -/

/-- The first bytes of a file with machine code. -/
def machineCode : ByteArray := ⟨#[0x7f, 0x45, 0x4c, 0x46]⟩

/-- Programs that print a text whatever they are asked.  Files with machine code are programs. -/
def printing (text : String) : Programs where
  isProgram image := image.data.toList.take 4 == machineCode.data.toList
  run _ d := (.now ⟨.exited 0, text.toUTF8, .empty⟩, d)

/-- A program of the search path bundles for both runs. -/
theorem unset_base_directory_on_search_path :
    let s : Surroundings := ⟨["site"], [("PATH", "/bin")]⟩
    let d : Disk :=
      ⟨[(["site"], .directory), (["bin"], .directory),
        (["bin", "browserify"], .file machineCode true)]⟩
    let a : Arguments := { empty with outputFilename := some "odl.js" }
    Arguments.parse ["--output-filename", "odl.js"] s.value? = .ok a ∧ s.Placed d ∧
      a.effectiveBase? s d = none ∧
      (a.execute (printing "bundle") s d).result = .succeeded ∧
      a.execute (printing "bundle") s d = (a.basedHere s).execute (printing "bundle") s d := by
  intro s d a
  have hparse : Arguments.parse ["--output-filename", "odl.js"] s.value? = .ok a := rfl
  have hplaced : s.Placed d := by decide +kernel
  have hunset : a.effectiveBase? s d = none := by decide +kernel
  have hown : a.ownKind? s d = none := by decide +kernel
  exact ⟨hparse, hplaced, hunset, by decide +kernel,
    (unset_base_directory (printing "bundle") s d _ a hparse hplaced hunset).1 (.inr hown)⟩

/-- The project in the working directory has a bundler of its own and the search path has none.  The
run without a base directory finds no bundler; with the working directory written out it succeeds. -/
theorem own_program_missed_without_base_directory :
    let s : Surroundings := ⟨["site"], [("PATH", "/bin")]⟩
    let d : Disk :=
      ⟨[(["site"], .directory), (["site", "node_modules"], .directory),
        (["site", "node_modules", ".bin"], .directory),
        (["site", "node_modules", ".bin", "browserify"], .file machineCode true)]⟩
    let a : Arguments := { empty with outputFilename := some "odl.js" }
    Arguments.parse ["--output-filename", "odl.js"] s.value? = .ok a ∧ s.Placed d ∧
      a.effectiveBase? s d = none ∧
      (a.execute (printing "bundle") s d).result = .failed (.bundler (.notFound "browserify")) ∧
      ((a.basedHere s).execute (printing "bundle") s d).result = .succeeded := by
  intro s d a
  have hplaced : s.Placed d := by decide +kernel
  exact ⟨rfl, hplaced, by decide +kernel, by decide +kernel, by decide +kernel⟩

end Arguments

end PluginBundle
