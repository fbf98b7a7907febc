import Mathlib.Data.List.Forall2
import PluginBundle.Proofs.Build.History

/-!
# Time limits

A time limit does nothing but cut off.  What was not cut off under one limit is the same under every
limit that ends a wait no earlier, and a build that was cut off has written its entry script, called
the bundler and done no more.

* `within_of_noEarlier`, `answer_of_noEarlier`, `settle_of_noEarlier` – more time changes nothing for
  a reply, an answer and a build that came in time.  An answer just at the limit is one of these, and
  so is a wait that has no limit and no end.
* `settle_cases`, `settle_bundler_error` – what a build has done whose bundler failed or was cut off.
* `perform_of_morePatient` – the step lemma: one call of two builders, the second of which has no
  less patience.
* `performAll_of_morePatient` – the run lemma: a session in which nothing was cut off.

The converse is not claimed: more time may turn a build that was cut off into any other one.
-/

namespace PluginBundle

/-- The second limit ends a wait no earlier than the first one does: it is as long or longer, or
there is none. -/
inductive NoEarlier : Option Duration → Option Duration → Prop
  | unlimited (limit : Option Duration) : NoEarlier limit none
  | longer {short long : Duration} (h : short ≤ long) : NoEarlier (some short) (some long)

theorem NoEarlier.refl (limit : Option Duration) : NoEarlier limit limit := by
  cases limit with
  | none => exact .unlimited none
  | some d => exact .longer (Nat.le_refl d.nanos)

/-! ## Waiting for a reply -/

namespace Reply

variable {α : Type} {reply : Reply α} {limit limit' : Option Duration}

/-- A wait that was cut off had the limit that is named. -/
theorem limit_of_timedOut {l : Duration} (h : reply.within limit = .timedOut l) :
    limit = some l := by
  unfold within at h
  cases reply with
  | now answer => cases h
  | later delay answer =>
      cases limit with
      | none => cases h
      | some d =>
          by_cases hdelay : delay ≤ d
          · simp [hdelay] at h
          · simpa [hdelay] using h
  | never =>
      cases limit with
      | none => cases h
      | some d => simpa using h

/-- A reply that came in time also comes in time when there is more of it. -/
theorem within_of_noEarlier (hlimits : NoEarlier limit limit')
    (hintime : ∀ l, reply.within limit ≠ .timedOut l) :
    reply.within limit' = reply.within limit := by
  cases reply with
  | now answer => rfl
  | later delay answer =>
      cases limit with
      | none =>
          cases hlimits
          rfl
      | some short =>
          have hdelay : delay ≤ short :=
            Classical.byContradiction fun hlate => hintime short (if_neg hlate)
          cases hlimits with
          | unlimited => simp [within, hdelay]
          | longer h =>
              have hdelay' := Nat.le_trans hdelay h
              simp only [within, hdelay, if_true]
              exact if_pos hdelay'
  | never =>
      cases limit with
      | none =>
          cases hlimits
          rfl
      | some short => exact absurd rfl (hintime short)

/-- The bundler does not itself answer that its time is over. -/
def NeverTimeout (reply : Reply (Except BundlerError ByteArray)) : Prop :=
  ∀ l, reply ≠ .now (.error (.timeout l)) ∧ ∀ delay, reply ≠ .later delay (.error (.timeout l))

/-- Then no wait for it comes to such an answer. -/
theorem NeverTimeout.within_ne {reply : Reply (Except BundlerError ByteArray)}
    (h : reply.NeverTimeout) (limit : Option Duration) (l : Duration) :
    reply.within limit ≠ .answered (.error (.timeout l)) := by
  intro hwithin
  obtain ⟨hnow, hlater⟩ := h l
  unfold within at hwithin
  cases reply with
  | now answer =>
      cases hwithin
      exact hnow rfl
  | later delay answer =>
      cases limit with
      | none =>
          cases hwithin
          exact hlater delay rfl
      | some d =>
          by_cases hdelay : delay ≤ d
          · simp only [hdelay, if_true, Await.answered.injEq] at hwithin
            exact hlater delay (congrArg (Reply.later delay) hwithin)
          · simp [hdelay] at hwithin
  | never => cases limit <;> cases hwithin

end Reply

/-! ## What a build comes to -/

namespace Circumstances

variable {met : Circumstances} {limit limit' : Option Duration} {cwd : Path} {style : ImportStyle}
  {given : Option Configuration} {active : Configuration}

/-- An answer that came in time is also the answer within a longer limit. -/
theorem answer_of_noEarlier (hlimits : NoEarlier limit limit')
    (hintime : ∀ l, met.answer limit ≠ some (.error (.timeout l))) :
    met.answer limit' = met.answer limit := by
  have hwithin : met.reply.within limit' = met.reply.within limit := by
    apply Reply.within_of_noEarlier hlimits
    intro l htimedOut
    apply hintime l
    simp only [answer, htimedOut]
  simp only [answer, hwithin]

/-- If the bundler does not itself answer so, only the limit of the wait can be over. -/
theorem limit_of_answer (hbundler : met.reply.NeverTimeout) {l : Duration}
    (h : met.answer limit = some (.error (.timeout l))) : limit = some l := by
  unfold answer at h
  cases hwithin : met.reply.within limit with
  | unending => simp [hwithin] at h
  | timedOut passed =>
      obtain rfl : passed = l := by simpa [hwithin] using h
      exact Reply.limit_of_timedOut hwithin
  | answered outcome =>
      obtain rfl : outcome = .error (.timeout l) := by simpa [hwithin] using h
      exact absurd hwithin (hbundler.within_ne limit l)

/-- The time limit plays no part in whether a build is refused, nor in its paths. -/
theorem settle_cases (met : Circumstances) (cwd : Path) (style : ImportStyle)
    (given : Option Configuration) (active : Configuration) :
    (∃ e, ∀ limit, met.settle cwd style limit given active = (.failed (.configuration e), [])) ∨
      ∃ paths, BuildPaths.resolve cwd active = .ok paths ∧
        ∀ limit, met.settle cwd style limit given active =
          (met.ending limit paths active.debug,
            met.trace limit paths (active.script style).toUTF8 active.debug) := by
  unfold settle
  cases given.bind Configuration.fault? with
  | some e => exact .inl ⟨e, fun _ => rfl⟩
  | none =>
      cases BuildPaths.resolve cwd active with
      | error e => exact .inl ⟨e, fun _ => rfl⟩
      | ok paths => exact .inr ⟨paths, rfl, fun _ => rfl⟩

/-- A build fails for its bundler if its script is written and the bundler comes to an error. -/
theorem ending_eq_bundler_error_iff {paths : BuildPaths} {debug : Bool} {e : BundlerError} :
    met.ending limit paths debug = .failed (.bundler e) ↔
      met.refusesWrite paths.temp = false ∧ met.answer limit = some (.error e) := by
  unfold ending
  cases met.refusesWrite paths.temp with
  | true => simp
  | false =>
      cases met.answer limit with
      | none => simp
      | some outcome =>
          cases outcome with
          | error found => simp
          | ok contents => cases met.refusesWrite paths.target <;> simp

/-- A build whose bundler came to an error has written its script, called the bundler and stopped
there. -/
theorem settle_bundler_error {e : BundlerError}
    (h : (met.settle cwd style limit given active).1 = .failed (.bundler e)) :
    met.answer limit = some (.error e) ∧
      ∃ paths, BuildPaths.resolve cwd active = .ok paths ∧
        (met.settle cwd style limit given active).2 =
          [.write paths.temp (active.script style).toUTF8 true,
            .bundle paths.temp (some standaloneName)] := by
  obtain ⟨fault, hsettle⟩ | ⟨paths, hpaths, hsettle⟩ := met.settle_cases cwd style given active
  · rw [hsettle] at h
    cases h
  · rw [hsettle] at h ⊢
    obtain ⟨hwritten, hanswer⟩ := ending_eq_bundler_error_iff.1 h
    exact ⟨hanswer, paths, hpaths, by simp [trace, hwritten, hanswer]⟩

/-- More time changes nothing for a build that was not cut off. -/
theorem settle_of_noEarlier (hlimits : NoEarlier limit limit')
    (hintime : ∀ l, (met.settle cwd style limit given active).1 ≠
      .failed (.bundler (.timeout l))) :
    met.settle cwd style limit' given active = met.settle cwd style limit given active := by
  obtain ⟨fault, hsettle⟩ | ⟨paths, -, hsettle⟩ := met.settle_cases cwd style given active
  · rw [hsettle, hsettle]
  · rw [hsettle] at hintime
    rw [hsettle, hsettle]
    cases hrefuses : met.refusesWrite paths.temp with
    -- The bundler is not called, so its time plays no part.
    | true => simp [ending, trace, hrefuses]
    | false =>
        have hanswer : met.answer limit' = met.answer limit := by
          apply answer_of_noEarlier hlimits
          intro l hover
          exact hintime l (ending_eq_bundler_error_iff.2 ⟨hrefuses, hover⟩)
        simp only [ending, trace, hanswer]

end Circumstances

/-! ## Two builders -/

/-- The build failed because its time was over. -/
def StepReport.TimedOut (r : StepReport) (l : Duration) : Prop :=
  r.result = .finished (.failed (.bundler (.timeout l)))

namespace Builder

/-- The second builder differs from the first one in its time limit only, and that ends a wait no
earlier. -/
structure MorePatient (b b' : Builder) : Prop where
  configuration : b'.configuration = b.configuration
  style : b'.style = b.style
  stage : b'.stage = b.stage
  timeout : NoEarlier b.timeout b'.timeout

variable {b b' : Builder}

theorem MorePatient.active (h : b.MorePatient b') (given : Option Configuration) :
    b'.active given = b.active given := by
  unfold Builder.active
  rw [h.configuration]

/-- One call that is not cut off: a builder with more patience returns the same, does the same and
is left the same. -/
theorem perform_of_morePatient (cwd : Path) (h : b.MorePatient b') (step : SessionStep)
    (hintime : ∀ l, ¬(b.perform cwd step).TimedOut l) :
    (b.perform cwd step).SameBuild (b'.perform cwd step) ∧
      (b.perform cwd step).builder.MorePatient (b'.perform cwd step).builder := by
  have hconfiguration : (b'.perform cwd step).builder.configuration =
      (b.perform cwd step).builder.configuration := by
    rw [perform_configuration, perform_configuration, h.configuration]
  cases step with
  | configure c =>
      cases hcheck : c.check with
      | error e =>
          rw [perform_configure_of_error cwd b hcheck, perform_configure_of_error cwd b' hcheck]
          exact ⟨⟨rfl, rfl, h.stage⟩, h⟩
      | ok _ =>
          rw [perform_configure_of_ok cwd b hcheck, perform_configure_of_ok cwd b' hcheck]
          exact ⟨⟨rfl, rfl, h.stage⟩, rfl, h.style, h.stage, h.timeout⟩
  | style style => exact ⟨⟨rfl, rfl, h.stage⟩, h.configuration, rfl, h.stage, h.timeout⟩
  | timeout limit => exact ⟨⟨rfl, rfl, h.stage⟩, h.configuration, h.style, h.stage, .refl _⟩
  | build given met =>
      obtain ⟨hresult, heffects, hstage, hstyle, htimeout⟩ := perform_build cwd b given met
      obtain ⟨-, -, -, hstyle', htimeout'⟩ := perform_build cwd b' given met
      have hsettled : met.settle cwd b'.style b'.timeout given (b'.active given) =
          met.settle cwd b.style b.timeout given (b.active given) := by
        rw [h.style, h.active given]
        apply Circumstances.settle_of_noEarlier h.timeout
        intro l hover
        apply hintime l
        rw [StepReport.TimedOut, hresult, hover]
      have hsame := sameBuild_of_settle cwd hsettled
      refine ⟨hsame, hconfiguration, ?_, hsame.stage, ?_⟩
      · rw [hstyle, hstyle', h.style]
      · rw [htimeout, htimeout']
        exact h.timeout

/-- A session in which nothing is cut off goes the same way with a builder that has more patience,
call by call. -/
theorem performAll_of_morePatient (cwd : Path) (h : b.MorePatient b') (steps : List SessionStep)
    (hintime : ∀ report ∈ b.performAll cwd steps, ∀ l, ¬report.TimedOut l) :
    List.Forall₂ StepReport.SameBuild (b.performAll cwd steps) (b'.performAll cwd steps) := by
  induction steps generalizing b b' with
  | nil => exact .nil
  | cons step rest ih =>
      obtain ⟨hfirst, hrest⟩ := List.forall_mem_cons.1 hintime
      obtain ⟨hsame, hleft⟩ := perform_of_morePatient cwd h step hfirst
      exact .cons hsame (ih hleft hrest)

/-- **A time limit only cuts off.**  A build that does not fail for its time returns the same, does
the same, ends in the same stage and keeps the same configuration under every limit that is as long
or longer, and without one.  If the bundler does not itself answer that its time is over, then a
build that fails so names the limit that was set; it has written the entry script and called the
bundler, it has not touched the target and it has removed nothing.  Without a limit no build fails
for its time. -/
theorem time_limit_only_cuts_off (cwd : Path) (b : Builder) (given : Option Configuration)
    (met : Circumstances) :
    let report (limit : Option Duration) :=
      { b with timeout := limit }.perform cwd (.build given met)
    (∀ limit limit', NoEarlier limit limit' → (∀ l, ¬(report limit).TimedOut l) →
        (report limit).SameBuild (report limit') ∧
          (report limit').builder.configuration = (report limit).builder.configuration) ∧
      (met.reply.NeverTimeout →
        (∀ limit l, (report limit).TimedOut l →
          limit = some l ∧
            ∃ paths, BuildPaths.resolve cwd (b.active given) = .ok paths ∧
              (report limit).effects =
                [.write paths.temp ((b.active given).script b.style).toUTF8 true,
                  .bundle paths.temp (some standaloneName)] ∧
              (∀ contents done, Effect.write paths.target contents done ∉
                (report limit).effects) ∧
              ∀ p done, Effect.remove p done ∉ (report limit).effects) ∧
          ∀ l, ¬(report none).TimedOut l) := by
  intro report
  have hcut (hbundler : met.reply.NeverTimeout) (limit : Option Duration) (l : Duration)
      (hover : (report limit).TimedOut l) :
      limit = some l ∧ ∃ paths, BuildPaths.resolve cwd (b.active given) = .ok paths ∧
        (report limit).effects =
          [.write paths.temp ((b.active given).script b.style).toUTF8 true,
            .bundle paths.temp (some standaloneName)] := by
    obtain ⟨hresult, heffects, -, -, -⟩ :=
      perform_build cwd { b with timeout := limit } given met
    have hfailed := StepResult.finished.inj (hresult.symm.trans hover)
    obtain ⟨hanswer, paths, hpaths, htrace⟩ := Circumstances.settle_bundler_error hfailed
    exact ⟨Circumstances.limit_of_answer hbundler hanswer, paths, hpaths, heffects.trans htrace⟩
  refine ⟨fun limit limit' hlimits hintime => ?_, fun hbundler => ⟨fun limit l hover => ?_, ?_⟩⟩
  · have hpatient : MorePatient { b with timeout := limit } { b with timeout := limit' } :=
      ⟨rfl, rfl, rfl, hlimits⟩
    obtain ⟨hsame, hleft⟩ := perform_of_morePatient cwd hpatient (.build given met) hintime
    exact ⟨hsame, hleft.configuration⟩
  · obtain ⟨hlimit, paths, hpaths, heffects⟩ := hcut hbundler limit l hover
    refine ⟨hlimit, paths, hpaths, heffects, ?_, ?_⟩
    · rw [heffects]
      simp [(temp_ne_target hpaths).symm]
    · rw [heffects]
      simp
  · intro l hover
    obtain ⟨hlimit, -⟩ := hcut hbundler none l hover
    cases hlimit

/-- An answer just at the limit of no time at all is taken, so the build is the same without a
limit.  A bundler that never answers is cut off, and of its build only the entry script is there. -/
theorem builds_at_and_after_the_limit :
    let named : Configuration := { Configuration.empty with outputFilename := some "odl.js" }
    let met (reply : Reply (Except BundlerError ByteArray)) : Circumstances :=
      ⟨fun _ => false, fun _ => true, reply⟩
    let justInTime := met (.later (.ofSeconds 0) (.ok "var a;".toUTF8))
    let hanging := met .never
    let report (limit : Option Duration) (met : Circumstances) :=
      { Builder.initial with timeout := limit }.perform ⟨"/site"⟩ (.build (some named) met)
    let temp : Path := ⟨"/site/odl.js.__tmp.js"⟩
    (report (some (.ofSeconds 0)) justInTime).SameBuild (report none justInTime) ∧
      (report none justInTime).builder.stage = .done ∧
      (report (some (.ofSeconds 2)) hanging).TimedOut (.ofSeconds 2) ∧
      (report (some (.ofSeconds 2)) hanging).effects =
        [.write temp (named.script .commonJs).toUTF8 true, .bundle temp (some standaloneName)] := by
  intro named met justInTime hanging report temp
  have hbelow : BuildPaths.below ⟨"/site"⟩ none "odl.js" =
      ⟨⟨"/site"⟩, ⟨"/site/odl.js"⟩, temp⟩ := by decide
  have hresolved : BuildPaths.resolve ⟨"/site"⟩ named = .ok ⟨⟨"/site"⟩, ⟨"/site/odl.js"⟩, temp⟩ :=
    congrArg Except.ok hbelow
  obtain ⟨hlonger, -⟩ :=
    time_limit_only_cuts_off ⟨"/site"⟩ Builder.initial (some named) justInTime
  obtain ⟨hsame, -⟩ := hlonger (some (.ofSeconds 0)) none (.unlimited _)
    (fun l hover => nomatch hover)
  have hnever : hanging.reply.NeverTimeout := fun l => ⟨nofun, nofun⟩
  obtain ⟨-, hcut⟩ := time_limit_only_cuts_off ⟨"/site"⟩ Builder.initial (some named) hanging
  obtain ⟨hnamed, -⟩ := hcut hnever
  have hover : (report (some (.ofSeconds 2)) hanging).TimedOut (.ofSeconds 2) := rfl
  obtain ⟨-, paths, hpaths, heffects, -⟩ := hnamed (some (.ofSeconds 2)) (.ofSeconds 2) hover
  obtain rfl : paths = ⟨⟨"/site"⟩, ⟨"/site/odl.js"⟩, temp⟩ :=
    Except.ok.inj (hpaths.symm.trans hresolved)
  exact ⟨hsame, rfl, hover, heffects⟩

end Builder
end PluginBundle
