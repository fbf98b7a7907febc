import PluginBundle.Proofs.Build.Effects

/-!
# What a build warns of

A build can stop in four ways that leave its temporary file behind: the bundler fails, the bundler
does not answer in time, the bundle cannot be written, and the temporary file cannot be removed.
`Circumstances.complaints` lists the warnings of a build in terms of the circumstances only, next to
its effects and its outcome, and `warnings_of_prepared` proves that a build gives these and no other.

So three of the four ways are told of.  `leftover_warned_iff` says that a file which is left behind is
warned of exactly if the write of the bundle did not fail, and that no build warns which removed its
file.

With debugging on the file is meant to stay, and nothing is said of that.
-/

namespace PluginBundle

/-- The warnings among records, in order. -/
def warnings (log : List LogRecord) : List LogRecord := log.filter (·.level = .warn)

@[simp] theorem warnings_nil : warnings [] = [] := rfl

@[simp] theorem warnings_cons (r : LogRecord) (log : List LogRecord) :
    warnings (r :: log) = if r.level = .warn then r :: warnings log else warnings log := by
  simp [warnings, List.filter_cons]

@[simp] theorem warnings_append (log more : List LogRecord) :
    warnings (log ++ more) = warnings log ++ warnings more := by
  simp [warnings]

theorem mem_warnings_iff {log : List LogRecord} {r : LogRecord} :
    r ∈ warnings log ↔ r ∈ log ∧ r.level = .warn := by
  simp [warnings]

/-- The text of the record holds the path. -/
def LogRecord.Names (r : LogRecord) (p : Path) : Prop := p.text.toList <:+: r.message.toList

theorem LogRecord.names_of_message_eq {r : LogRecord} {p : Path} (front back : String)
    (h : r.message = front ++ p.text ++ back) : r.Names p := by
  refine ⟨front.toList, back.toList, ?_⟩
  rw [h, String.toList_append, String.toList_append]

theorem names_tempNotBundled (p : Path) : (LogRecord.tempNotBundled p).Names p :=
  LogRecord.names_of_message_eq "Bundling failed, keeping " "" String.append_empty.symm

theorem names_tempNotRemoved (p : Path) (e : IoError) : (LogRecord.tempNotRemoved p e).Names p :=
  LogRecord.names_of_message_eq "Failed to delete " (": " ++ e.message) String.append_assoc

/-! ## The warnings of one build -/

namespace Circumstances

/-- The warnings of a build that is not refused: a file that could not be bundled is kept, and a file
that cannot be removed stays. -/
def complaints (c : Circumstances) (limit : Option Duration) (paths : BuildPaths) (debug : Bool) :
    List LogRecord :=
  if c.refusesWrite paths.temp then []
  else
    match c.answer limit with
    | none => []
    | some (.error _) => [.tempNotBundled paths.temp]
    | some (.ok _) =>
        if c.refusesWrite paths.target || debug || !c.refusesRemove paths.temp then []
        else [.tempNotRemoved paths.temp (.denied "busy")]

variable {c : Circumstances} {limit : Option Duration} {paths : BuildPaths} {script : ByteArray}

/-- A file that was removed is not complained of. -/
theorem complaints_of_removed {debug : Bool}
    (hremoved : Effect.remove paths.temp true ∈ c.trace limit paths script debug) :
    c.complaints limit paths debug = [] := by
  unfold trace at hremoved
  unfold complaints
  cases hrefuses : c.refusesWrite paths.temp with
  | true => simp
  | false =>
      cases hanswer : c.answer limit with
      | none => simp
      | some result =>
          cases result with
          | error e => simp [hrefuses, hanswer] at hremoved
          | ok bundle =>
              cases htarget : c.refusesWrite paths.target with
              | true => simp
              | false =>
                  cases debug with
                  | true => simp
                  | false =>
                      have hremove : c.refusesRemove paths.temp = false := by
                        simpa [hrefuses, hanswer, htarget] using hremoved
                      simp [hremove]

/-- A file that was written and is left behind is complained of unless the bundle could not be
written. -/
theorem named_in_complaints_iff {contents : ByteArray} (hpaths : paths.temp ≠ paths.target)
    (hwrote : Effect.write paths.temp contents true ∈ c.trace limit paths script false)
    (hreturns : c.ending limit paths false ≠ .unending)
    (hkept : Effect.remove paths.temp true ∉ c.trace limit paths script false) :
    (∃ r ∈ c.complaints limit paths false, r.Names paths.temp) ↔
      ∀ bundle, Effect.write paths.target bundle false ∉ c.trace limit paths script false := by
  unfold trace at hwrote hkept ⊢
  unfold complaints
  unfold ending at hreturns
  cases hrefuses : c.refusesWrite paths.temp with
  | true => simp [hrefuses] at hwrote
  | false =>
      cases hanswer : c.answer limit with
      | none => simp [hrefuses, hanswer] at hreturns
      | some result =>
          cases result with
          | error e => simp [hpaths.symm, names_tempNotBundled]
          | ok bundle =>
              cases htarget : c.refusesWrite paths.target with
              | true => simp [hpaths.symm]
              | false =>
                  -- The bundle is written, so only a refused removal leaves the file behind.
                  have hremove : c.refusesRemove paths.temp = true := by
                    simpa [hrefuses, hanswer, htarget] using hkept
                  simp [hremove, hpaths.symm, names_tempNotRemoved]

end Circumstances

namespace Builder

variable {cwd : Path} {b : Builder} {given : Option Configuration} {paths : BuildPaths}

@[simp] theorem warnings_preparation (b : Builder) (given : Option Configuration)
    (paths : BuildPaths) : warnings (b.preparation given paths) = [] := by
  unfold preparation announcement
  split <;> simp [LogRecord.level]

/-- Until the bundler has answered, only the bundler itself can warn. -/
@[simp] theorem warnings_waiting (b : Builder) (given : Option Configuration) (paths : BuildPaths)
    (told : List LogRecord) : warnings (b.waiting given paths told) = warnings told := by
  simp [waiting, LogRecord.level]

/-- Cleaning up warns of a file that cannot be removed, and of nothing else. -/
@[simp] theorem warnings_farewell (c : Configuration) (paths : BuildPaths)
    (left : Option IoError) :
    warnings (farewell c paths left) =
      if c.debug then [] else left.toList.map fun e => .tempNotRemoved paths.temp e := by
  unfold farewell
  split
  · simp [LogRecord.level]
  · cases left <;> simp [LogRecord.level]

/-- **The warnings of a build** whose paths are known. -/
theorem warnings_of_prepared {c : Circumstances} {outcome : BuildOutcome}
    {run : BuildRun (List Effect)} (hprepared : Prepared cwd b given paths)
    (hcourse : Course c.host cwd b given [] outcome run) :
    warnings run.log = c.complaints b.timeout paths (b.active given).debug := by
  unfold Circumstances.complaints
  cases hcourse with
  | refused rejected e hgiven hcheck =>
      have haccepted := hprepared.accepted rejected hgiven
      simp [haccepted] at hcheck
  | unnamed e haccepted hresolve =>
      have hresolved := hprepared.resolved
      simp [hresolved] at hresolve
  | scriptUnwritten found e w' hfound hwrite =>
      obtain rfl := hprepared.unique hfound
      obtain ⟨hrefuses, -, -⟩ := Circumstances.host_write_error hwrite
      simp [hrefuses, LogRecord.level]
  | unanswered found told w' hfound hcalled =>
      obtain rfl := hprepared.unique hfound
      obtain ⟨hrefuses, hanswer, rfl, -⟩ := Circumstances.called_host hcalled
      simp [hrefuses, ← hanswer]
  | unbundled found e told w' hfound hcalled =>
      obtain rfl := hprepared.unique hfound
      obtain ⟨hrefuses, hanswer, rfl, -⟩ := Circumstances.called_host hcalled
      simp [hrefuses, ← hanswer, LogRecord.level]
  | bundleUnwritten found contents told e w' w'' hfound hcalled hwrite =>
      obtain rfl := hprepared.unique hfound
      obtain ⟨hrefuses, hanswer, rfl, -⟩ := Circumstances.called_host hcalled
      obtain ⟨htarget, -, -⟩ := Circumstances.host_write_error hwrite
      simp [hrefuses, ← hanswer, htarget, LogRecord.level]
  | finished found contents told left w' w'' w''' hfound hcalled hwrite hcleaned =>
      obtain rfl := hprepared.unique hfound
      obtain ⟨hrefuses, hanswer, rfl, -⟩ := Circumstances.called_host hcalled
      obtain ⟨htarget, -⟩ := Circumstances.host_write_ok hwrite
      unfold Cleaned at hcleaned
      cases hdebug : (b.active given).debug with
      | true => simp [hrefuses, ← hanswer, hdebug, LogRecord.level]
      | false =>
          cases left with
          | none =>
              obtain ⟨hremove, -⟩ :=
                Circumstances.host_remove_ok (by simpa [hdebug] using hcleaned)
              simp [hrefuses, ← hanswer, hdebug, hremove, LogRecord.level]
          | some e =>
              obtain ⟨hremove, rfl, -⟩ :=
                Circumstances.host_remove_error (by simpa [hdebug] using hcleaned)
              simp [hrefuses, ← hanswer, hdebug, htarget, hremove, LogRecord.level]

/-- **Which leftover files are warned of.**  Debugging is off, the temporary file was written, and the
build returns without having removed it.  Then a warning with its path was reported if and only if
the write of the bundle did not fail.  A build that removed the file reports no warning. -/
theorem leftover_warned_iff (cwd : Path) (b : Builder) (given : Option Configuration)
    (c : Circumstances) (paths : BuildPaths)
    (hpaths : BuildPaths.resolve cwd (b.active given) = .ok paths) :
    let stop := b.build c.host cwd given []
    let effects := stop.2.world
    (∀ script, (b.active given).debug = false → Effect.write paths.temp script true ∈ effects →
        stop.1 ≠ .unending → Effect.remove paths.temp true ∉ effects →
        ((∃ r ∈ stop.2.log, r.level = .warn ∧ r.Names paths.temp) ↔
          ∀ bundle, Effect.write paths.target bundle false ∉ effects)) ∧
      (Effect.remove paths.temp true ∈ effects → ∀ r ∈ stop.2.log, r.level ≠ .warn) := by
  intro stop effects
  have hcourse : Course c.host cwd b given [] stop.1 stop.2 := build_course c.host cwd b given []
  by_cases hrefused : Refused given (b.active given)
  · have hnothing : effects = [] := (effects_of_refused hrefused hcourse).1
    simp [hnothing]
  · obtain ⟨found, hprepared⟩ := exists_prepared cwd b hrefused
    obtain rfl : found = paths := by simpa [hprepared.resolved] using hpaths
    obtain ⟨htrace, hending⟩ := effects_of_prepared hprepared hcourse
    have hwarnings := warnings_of_prepared hprepared hcourse
    have heffects : effects = _ := htrace
    rw [heffects]
    constructor
    · intro script hdebug hwrote hreturns hkept
      rw [hdebug] at hwrote hkept hending hwarnings ⊢
      rw [hending] at hreturns
      have hnamed := Circumstances.named_in_complaints_iff (temp_ne_target hpaths) hwrote hreturns
        hkept
      rw [← hwarnings] at hnamed
      simpa [mem_warnings_iff, and_assoc] using hnamed
    · intro hremoved r hr hlevel
      have hwarned : r ∈ warnings stop.2.log := mem_warnings_iff.2 ⟨hr, hlevel⟩
      rw [hwarnings, Circumstances.complaints_of_removed hremoved] at hwarned
      cases hwarned

/-- The bundler does not answer in time.  The temporary file stays, and a warning names it. -/
theorem late_bundler_is_warned_of :
    let b : Builder := { Builder.initial with timeout := some (.ofSeconds 2) }
    let active : Configuration := { Configuration.empty with outputFilename := some "odl.js" }
    let c : Circumstances := ⟨fun _ => false, fun _ => false, .later (.ofSeconds 3) (.ok .empty)⟩
    let temp : Path := ⟨"/site/odl.js.__tmp.js"⟩
    let stop := b.build c.host ⟨"/site"⟩ (some active) []
    stop.2.world = [.write temp (active.script .commonJs).toUTF8 true,
        .bundle temp (some standaloneName)] ∧
      ∃ r ∈ stop.2.log, r.level = .warn ∧ r.Names temp := by
  intro b active c temp stop
  let paths : BuildPaths := ⟨⟨"/site"⟩, ⟨"/site/odl.js"⟩, temp⟩
  have hbelow : BuildPaths.below ⟨"/site"⟩ none "odl.js" = paths := by decide
  have hresolved : BuildPaths.resolve ⟨"/site"⟩ active = .ok paths := congrArg Except.ok hbelow
  have hprepared : Prepared ⟨"/site"⟩ b (some active) paths :=
    ⟨fun _ hgiven => Option.some.inj hgiven ▸ rfl, hresolved⟩
  obtain ⟨hworld, hending⟩ :=
    effects_of_prepared hprepared (build_course c.host ⟨"/site"⟩ b (some active) [])
  have htrace : stop.2.world = [.write temp (active.script .commonJs).toUTF8 true,
      .bundle temp (some standaloneName)] := hworld
  obtain ⟨hwarned, -⟩ := leftover_warned_iff ⟨"/site"⟩ b (some active) c paths hresolved
  refine ⟨htrace, (hwarned (active.script .commonJs).toUTF8 rfl ?_ ?_ ?_).2 ?_⟩
  · rw [htrace]
    exact .head _
  · rw [hending]
    intro hunending
    cases hunending
  · rw [htrace]
    simp
  · rw [htrace]
    simp

/-- The bundle cannot be written.  The temporary file stays, and nothing is said of it. -/
theorem unwritten_bundle_is_not_warned_of :
    let active : Configuration := { Configuration.empty with outputFilename := some "odl.js" }
    let target : Path := ⟨"/site/odl.js"⟩
    let temp : Path := ⟨"/site/odl.js.__tmp.js"⟩
    let c : Circumstances := ⟨fun p => p = target, fun _ => false, .now (.ok "var a;".toUTF8)⟩
    let stop := Builder.initial.build c.host ⟨"/site"⟩ (some active) []
    active.debug = false ∧
      stop.2.world = [.write temp (active.script .commonJs).toUTF8 true,
        .bundle temp (some standaloneName), .write target "var a;".toUTF8 false] ∧
      stop.1 = .failed (.filesystem .writingFinal target (.denied "read-only")) ∧
      ¬∃ r ∈ stop.2.log, r.level = .warn := by
  intro active target temp c stop
  let paths : BuildPaths := ⟨⟨"/site"⟩, target, temp⟩
  have hbelow : BuildPaths.below ⟨"/site"⟩ none "odl.js" = paths := by decide
  have hresolved : BuildPaths.resolve ⟨"/site"⟩ active = .ok paths := congrArg Except.ok hbelow
  have hprepared : Prepared ⟨"/site"⟩ Builder.initial (some active) paths :=
    ⟨fun _ hgiven => Option.some.inj hgiven ▸ rfl, hresolved⟩
  have hcourse := build_course c.host ⟨"/site"⟩ Builder.initial (some active) []
  obtain ⟨hworld, hending⟩ := effects_of_prepared hprepared hcourse
  have hwarnings := warnings_of_prepared hprepared hcourse
  refine ⟨rfl, hworld, hending, ?_⟩
  rintro ⟨r, hr, hlevel⟩
  have hwarned : r ∈ warnings stop.2.log := mem_warnings_iff.2 ⟨hr, hlevel⟩
  rw [hwarnings] at hwarned
  cases hwarned

end Builder

end PluginBundle
