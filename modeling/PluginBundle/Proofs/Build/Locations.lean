import PluginBundle.Bundler.Command
import PluginBundle.Proofs.Build.Placement

/-!
# The paths of a build are absolute

A build and its bundler may run in different directories, so the paths of a build must mean the same
everywhere.  They do: an absolute working directory makes the base directory absolute, whatever kind
of text is given for it, and what is joined to an absolute path is absolute.  Written out as base
directory, the one that was found leads to the same paths again from anywhere.
-/

namespace PluginBundle

namespace Path

variable {p q : Path}

theorem isAbsolute_iff : p.isAbsolute = true ↔ ∃ rest, p.text = "/" ++ rest := by
  rw [isAbsolute, chars, beq_iff_eq, List.head?_eq_some_iff]
  constructor
  · rintro ⟨rest, hrest⟩
    refine ⟨String.ofList rest, String.toList_inj.1 ?_⟩
    simp [hrest]
  · rintro ⟨rest, hrest⟩
    exact ⟨rest.toList, by simp [hrest]⟩

/-- An absolute path stays absolute with any text behind it. -/
theorem isAbsolute_of_text {rest : String} (hp : p.isAbsolute = true)
    (htext : q.text = p.text ++ rest) : q.isAbsolute = true := by
  obtain ⟨front, hfront⟩ := isAbsolute_iff.1 hp
  exact isAbsolute_iff.2 ⟨front ++ rest, by rw [htext, hfront, String.append_assoc]⟩

/-- Whatever is joined to an absolute path, the result is absolute. -/
theorem isAbsolute_join_of_left (hp : p.isAbsolute = true) (q : Path) :
    (p.join q).isAbsolute = true := by
  cases hq : q.isAbsolute with
  | true => rw [join, if_pos hq, hq]
  | false => rw [isAbsolute_join hq, hp]

end Path

namespace BuildPaths

theorem resolve_eq_ok {c : Configuration} {name : String} (hname : c.outputFilename = some name)
    (hfull : name ≠ "") (cwd : Path) :
    resolve cwd c = .ok (below (baseOf cwd c) c.outputPath name) := by
  simp [resolve, hname, hfull]

theorem baseOf_isAbsolute {cwd : Path} (hcwd : cwd.isAbsolute = true) (c : Configuration) :
    (baseOf cwd c).isAbsolute = true := by
  unfold baseOf
  split
  · exact hcwd
  · rename_i dir _
    cases hdir : dir.isAbsolute with
    | true => simpa using hdir
    | false => simpa using Path.isAbsolute_join_of_left hcwd dir

section Below

variable {baseDir : Path} {outputPath : Option Path} {name : String}

theorem target_isAbsolute (hbase : baseDir.isAbsolute = true) :
    (below baseDir outputPath name).target.isAbsolute = true := by
  cases outputPath with
  | none => exact Path.isAbsolute_join_of_left hbase _
  | some dir => exact Path.isAbsolute_join_of_left (Path.isAbsolute_join_of_left hbase dir) _

theorem temp_text : (below baseDir outputPath name).temp.text =
    (below baseDir outputPath name).target.text ++ tempSuffix := rfl

/-- Relative parts are written behind the base directory. -/
theorem exists_target_text (hdir : ∀ dir, outputPath = some dir → dir.isAbsolute = false)
    (hname : (Path.mk name).isAbsolute = false) :
    ∃ rest, (below baseDir outputPath name).target.text = baseDir.text ++ rest := by
  cases outputPath with
  | none => exact ⟨_, Path.text_join hname⟩
  | some dir =>
      refine ⟨baseDir.separator ++ dir.text ++ ((baseDir.join dir).separator ++ name), ?_⟩
      rw [below, Path.text_join hname, Path.text_join (hdir dir rfl), String.append_assoc,
        String.append_assoc]

end Below

/-- **The paths of a build mean the same everywhere.**  A configuration that names its bundle has
paths from every absolute working directory, and all three are absolute.  So a program that is given
the temporary file sees a slash first and no option.  The temporary file has the name of the target
with the suffix behind it, and the target lies below the base directory unless a part of it is
absolute.  With the base directory written out, the paths are the same from every other working
directory. -/
theorem resolve_same_paths_everywhere (cwd : Path) (hcwd : cwd.isAbsolute = true)
    (c : Configuration) (name : String) (hname : c.outputFilename = some name) (hfull : name ≠ "") :
    ∃ paths, resolve cwd c = .ok paths ∧
      (paths.baseDir.isAbsolute = true ∧ paths.target.isAbsolute = true ∧
        paths.temp.isAbsolute = true) ∧
      (∀ (b : CommandBundler) (standalone : Option String), ∃ entry options,
        (b.invocation paths.temp standalone).arguments = ("/" ++ entry) :: options) ∧
      paths.temp.text = paths.target.text ++ tempSuffix ∧
      ((∀ dir, c.outputPath = some dir → dir.isAbsolute = false) →
        (Path.mk name).isAbsolute = false →
          ∃ rest, paths.target.text = paths.baseDir.text ++ rest) ∧
      ∀ cwd', resolve cwd' (c.withBase (some paths.baseDir)) = .ok paths := by
  have hbase := baseOf_isAbsolute hcwd c
  have htarget : (below (baseOf cwd c) c.outputPath name).target.isAbsolute = true :=
    target_isAbsolute hbase
  have htemp := Path.isAbsolute_of_text htarget temp_text
  refine ⟨_, resolve_eq_ok hname hfull cwd, ⟨hbase, htarget, htemp⟩, ?_, temp_text,
    exists_target_text, ?_⟩
  · intro b standalone
    obtain ⟨entry, hentry⟩ := Path.isAbsolute_iff.1 htemp
    obtain ⟨kind, program, workingDir⟩ := b
    refine ⟨entry, ?_⟩
    rw [← hentry]
    cases kind <;> cases standalone <;> exact ⟨_, rfl⟩
  · intro cwd'
    have hagain : (c.withBase (some (baseOf cwd c))).outputFilename = some name := hname
    refine (resolve_eq_ok hagain hfull cwd').trans ?_
    rw [baseOf_withBase hbase]
    rfl

/-- The paths below a relative base directory that ends in a slash, with an empty directory in
between, are found again from another working directory. -/
theorem paths_of_relative_base :
    let c : Configuration :=
      { Configuration.empty with
        baseDir := some ⟨"sub/"⟩
        outputPath := some ⟨""⟩
        outputFilename := some "odl.js" }
    let paths : BuildPaths :=
      ⟨⟨"/work/sub/"⟩, ⟨"/work/sub/odl.js"⟩, ⟨"/work/sub/odl.js.__tmp.js"⟩⟩
    (Path.mk "/work").isAbsolute = true ∧ c.outputFilename = some "odl.js" ∧ "odl.js" ≠ "" ∧
      resolve ⟨"/work"⟩ c = .ok paths ∧ paths.temp.isAbsolute = true ∧
      (∃ rest, paths.target.text = paths.baseDir.text ++ rest) ∧
      resolve ⟨"/elsewhere"⟩ (c.withBase (some paths.baseDir)) = .ok paths := by
  intro c paths
  have hcwd : (Path.mk "/work").isAbsolute = true := by decide
  have hbelow : below (baseOf ⟨"/work"⟩ c) c.outputPath "odl.js" = paths := by decide +kernel
  have hresolved : resolve ⟨"/work"⟩ c = .ok paths :=
    (resolve_eq_ok rfl (by decide) _).trans (congrArg Except.ok hbelow)
  obtain ⟨paths', hresolved', ⟨-, -, htemp⟩, -, -, hbehind, hagain⟩ :=
    resolve_same_paths_everywhere ⟨"/work"⟩ hcwd c "odl.js" rfl (by decide)
  rw [hresolved] at hresolved'
  cases hresolved'
  have hrelative : ∀ dir, c.outputPath = some dir → dir.isAbsolute = false := by
    rintro _ ⟨⟩
    decide
  exact ⟨hcwd, rfl, by decide, hresolved, htemp, hbehind hrelative (by decide),
    hagain ⟨"/elsewhere"⟩⟩

end BuildPaths

end PluginBundle
