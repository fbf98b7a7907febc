import PluginBundle.CommandLine.Execute
import PluginBundle.Proofs.Bundler.ProjectProgram

/-!
# Which bundler is chosen

A program that is given on the command line is taken as it is.  Otherwise a bundler is looked for in
places: among the programs of the project and along the search path, for each kind that the command
line admits.  A run asks these places in several rounds, once for a kind and again for the program of
that kind.  This module shows that the rounds come to one search through `places`, which has the
places in their order of preference:

* `selectBundler_eq_firstHit` – the choice is the first hit among the places.
* `firstHit_eq_some_iff` – the first hit is the one of least rank, since the places are sorted.
* `hit?_fileName?` – every program that is found has the name of its kind, also along a search path
  of relative directories.
* `selection_obeys_priority` – the law of the choice.

The tree of files and the search path are the same for all rounds.  Whether the program that is
chosen can be started is not asked here.
-/

namespace PluginBundle

variable {d : Disk} {s : Surroundings} {projectDir : Option Path}

/-! ## Places -/

/-- Where a program is looked for. -/
inductive LookupLevel where
  | project
  | searchPath
  deriving DecidableEq, Repr

/-- A level, and the kind whose program is looked for there. -/
structure LookupPlace where
  level : LookupLevel
  kind : BundlerKind
  deriving DecidableEq, Repr

namespace LookupPlace

/-- Programs of the project go before those of the search path, and browserify goes before esbuild
within a level. -/
def rank : LookupPlace → Nat
  | ⟨.project, .browserify⟩ => 0
  | ⟨.project, .esbuild⟩ => 1
  | ⟨.searchPath, .browserify⟩ => 2
  | ⟨.searchPath, .esbuild⟩ => 3

/-- The program that is found in a place. -/
def hit? (d : Disk) (s : Surroundings) (projectDir : Option Path) (p : LookupPlace) : Option Path :=
  match p.level with
  | .project => findLocal d s projectDir p.kind.program
  | .searchPath => d.which s p.kind.program

/-- The places for kinds, in order of preference. -/
def places (kinds : List BundlerKind) : List LookupPlace :=
  kinds.map (⟨.project, ·⟩) ++ kinds.map (⟨.searchPath, ·⟩)

theorem mem_places_iff {kinds : List BundlerKind} {p : LookupPlace} :
    p ∈ places kinds ↔ p.kind ∈ kinds := by
  obtain ⟨level, kind⟩ := p
  cases level <;> simp [places]

/-- The first hit among the places for kinds. -/
def firstHit (d : Disk) (s : Surroundings) (projectDir : Option Path) (kinds : List BundlerKind) :
    Option (BundlerKind × Path) :=
  (places kinds).findSome? fun p => (hit? d s projectDir p).map (p.kind, ·)

/-! ### Rounds of questions -/

/-- To ask for a kind that has something, and then for what it has, is to ask for the first thing. -/
theorem findSome?_map_pair {α β : Type} (f : α → Option β) (as : List α) :
    (as.findSome? fun a => (f a).map (a, ·)) =
      (as.find? fun a => (f a).isSome).bind fun a => (f a).map (a, ·) := by
  induction as with
  | nil => rfl
  | cons a rest ih =>
      rw [List.findSome?_cons, List.find?_cons]
      cases hfirst : f a with
      | none => simpa using ih
      | some b => simp [hfirst]

/-- The project is asked for all kinds before the search path is. -/
theorem firstHit_eq (d : Disk) (s : Surroundings) (projectDir : Option Path)
    (kinds : List BundlerKind) :
    firstHit d s projectDir kinds =
      (kinds.findSome? fun kind => (findLocal d s projectDir kind.program).map (kind, ·)).or
        (kinds.findSome? fun kind => (d.which s kind.program).map (kind, ·)) := by
  rw [firstHit, places, List.findSome?_append, List.findSome?_map, List.findSome?_map]
  rfl

/-- For one kind there are two places to ask. -/
theorem firstHit_singleton (d : Disk) (s : Surroundings) (projectDir : Option Path)
    (kind : BundlerKind) :
    firstHit d s projectDir [kind] =
      ((findLocal d s projectDir kind.program).or (d.which s kind.program)).map (kind, ·) := by
  rw [firstHit_eq]
  cases hlocal : findLocal d s projectDir kind.program with
  | some path => simp [hlocal]
  | none => cases hwhich : d.which s kind.program <;> simp [hlocal, hwhich]

end LookupPlace

open LookupPlace

/-- Detection comes to the first kind that the search path has. -/
theorem detectAmong_fst (d : Disk) (s : Surroundings) (kinds : List BundlerKind) :
    (detectAmong d s kinds).1 = kinds.find? fun kind => (d.which s kind.program).isSome := by
  induction kinds with
  | nil => rfl
  | cons kind rest ih =>
      rw [List.find?_cons]
      unfold detectAmong
      cases hwhich : d.which s kind.program with
      | none => simpa using ih
      | some path => rfl

/-- The result of a look-up that came to a kind and a program, or to nothing. -/
def lookupResult (projectDir : Option Path) (missing : BundlerKind) :
    Option (BundlerKind × Path) → Except BundlerError CommandBundler
  | some (kind, path) => .ok ⟨kind, path, projectDir⟩
  | none => .error (.notFound missing.program)

theorem lookupResult_eq_ok_iff {missing : BundlerKind} {hit : Option (BundlerKind × Path)}
    {b : CommandBundler} :
    lookupResult projectDir missing hit = .ok b ↔
      b.workingDir = projectDir ∧ hit = some (b.kind, b.program) := by
  obtain ⟨kind, program, workingDir⟩ := b
  cases hit with
  | none => simp [lookupResult]
  | some found => simp [lookupResult, Prod.ext_iff, and_comm, and_assoc, eq_comm]

theorem lookupResult_eq_error_iff {missing : BundlerKind} {hit : Option (BundlerKind × Path)}
    {e : BundlerError} :
    lookupResult projectDir missing hit = .error e ↔
      e = .notFound missing.program ∧ hit = none := by
  cases hit with
  | none => simp [lookupResult, eq_comm]
  | some found => simp [lookupResult]

/-- A look-up for one kind is the search through its two places. -/
theorem locate_fst (d : Disk) (s : Surroundings) (kind : BundlerKind) (projectDir : Option Path) :
    (CommandBundler.locate d s kind projectDir).1 =
      lookupResult projectDir kind (firstHit d s projectDir [kind]) := by
  rw [firstHit_singleton]
  unfold CommandBundler.locate
  cases hlocal : findLocal d s projectDir kind.program with
  | some path => rfl
  | none => cases hwhich : d.which s kind.program <;> rfl

/-! ## Names of programs -/

namespace Path

/-- A name that is put behind a path is its last name. -/
theorem fileName?_of_names {p : Path} {front : List String} {name : String}
    (hnames : p.names = front ++ [name]) (hname : name ≠ "..") : p.fileName? = some name := by
  have hlast : p.names.getLast? = some name := by simp [hnames]
  simp only [fileName?, hlast, if_neg hname]

/-- A path keeps its last name when it is made to start at the root. -/
theorem names_fromRoot (cwd : Path) {p : Path} {front : List String} {name : String}
    (hnames : p.names = front ++ [name]) (hrelative : (Path.mk name).isAbsolute = false)
    (hwhole : (Path.mk name).names = [name]) :
    ∃ before, (fromRoot cwd p).names = before ++ [name] := by
  unfold fromRoot
  split
  · exact ⟨front, hnames⟩
  · refine ⟨(front.foldl (fun q part => q.join ⟨part⟩) cwd).names, ?_⟩
    rw [hnames, List.foldl_append, List.foldl_cons, List.foldl_nil, names_join hrelative, hwhole]

end Path

namespace BundlerKind

variable (kind : BundlerKind)

theorem program_names : (Path.mk kind.program).names = [kind.program] := by
  cases kind <;> decide

theorem program_ne_parent : kind.program ≠ ".." := by
  cases kind <;> decide

theorem localProgram_fileName? (dir : Path) :
    (localProgram dir kind.program).fileName? = some kind.program := by
  have hnames : (localProgram dir kind.program).names =
      (dir.names ++ ["node_modules", ".bin"]) ++ [kind.program] := by
    rw [kind.localProgram_names]
    simp [localNames]
  exact Path.fileName?_of_names hnames kind.program_ne_parent

/-- Whatever the search path holds, what is found along it has the name that was looked for. -/
theorem which_fileName? {path : Path} (h : d.which s kind.program = some path) :
    path.fileName? = some kind.program := by
  unfold Disk.which at h
  split at h
  · cases h
  have hmem := List.mem_of_find?_eq_some h
  obtain ⟨dir, -, rfl⟩ := List.mem_map.1 hmem
  have hnames : (dir.join ⟨kind.program⟩).names = dir.names ++ [kind.program] := by
    rw [Path.names_join kind.program_isAbsolute, kind.program_names]
  obtain ⟨before, hbefore⟩ :=
    Path.names_fromRoot s.cwdPath hnames kind.program_isAbsolute kind.program_names
  exact Path.fileName?_of_names hbefore kind.program_ne_parent

end BundlerKind

namespace LookupPlace

variable {p : LookupPlace} {path : Path} {kinds : List BundlerKind}

/-- The project has a program of a kind where its file for that program is. -/
theorem findLocal_eq_some_iff {program : String} :
    findLocal d s projectDir program = some path ↔
      ∃ dir, projectDir = some dir ∧ path = localProgram dir program ∧
        d.isFile s.cwd path = true := by
  cases projectDir with
  | none => simp [findLocal]
  | some dir =>
      by_cases hfile : d.isFile s.cwd (localProgram dir program) = true
      · simp only [findLocal, if_pos hfile, Option.some.injEq]
        constructor
        · rintro rfl
          exact ⟨dir, rfl, rfl, hfile⟩
        · rintro ⟨_, rfl, rfl, -⟩
          rfl
      · simp only [findLocal, if_neg hfile, Option.some.injEq]
        constructor
        · intro h
          cases h
        · rintro ⟨_, rfl, rfl, hother⟩
          exact absurd hother hfile

/-- **A program that is found has the name of its kind.** -/
theorem hit?_fileName? (h : hit? d s projectDir p = some path) :
    path.fileName? = some p.kind.program := by
  unfold hit? at h
  split at h
  · obtain ⟨dir, -, rfl, -⟩ := findLocal_eq_some_iff.1 h
    exact p.kind.localProgram_fileName? dir
  · exact p.kind.which_fileName? h

/-! ## The best place -/

/-- The place holds the program, and no place for the kinds that goes before it holds any. -/
structure Best (d : Disk) (s : Surroundings) (projectDir : Option Path) (kinds : List BundlerKind)
    (p : LookupPlace) (path : Path) : Prop where
  admitted : p.kind ∈ kinds
  found : hit? d s projectDir p = some path
  first : ∀ q : LookupPlace, q.kind ∈ kinds → (hit? d s projectDir q).isSome = true →
    p.rank ≤ q.rank

/-- The places are asked in the order of their ranks. -/
def Sorted (kinds : List BundlerKind) : Prop :=
  (places kinds).Pairwise fun p q => p.rank < q.rank

theorem sorted_all : Sorted BundlerKind.all := by
  unfold Sorted
  decide

theorem sorted_singleton (kind : BundlerKind) : Sorted [kind] := by
  unfold Sorted
  cases kind <;> decide

/-- No two places have one rank. -/
theorem rank_injective : ∀ p q : LookupPlace, p.rank = q.rank → p = q := by
  rintro ⟨_ | _, _ | _⟩ ⟨_ | _, _ | _⟩ h <;> first | rfl | cases h

/-- There is one best place at most. -/
theorem Best.unique {q : LookupPlace} {other : Path} (h : Best d s projectDir kinds p path)
    (hother : Best d s projectDir kinds q other) : p = q ∧ path = other := by
  have hle : p.rank ≤ q.rank := h.first q hother.admitted (by simp [hother.found])
  have hge : q.rank ≤ p.rank := hother.first p h.admitted (by simp [h.found])
  obtain rfl := rank_injective p q (Nat.le_antisymm hle hge)
  have hsame : some path = some other := h.found.symm.trans hother.found
  exact ⟨rfl, Option.some.inj hsame⟩

theorem best_of_firstHit (hsorted : Sorted kinds) {kind : BundlerKind}
    (h : firstHit d s projectDir kinds = some (kind, path)) :
    ∃ level, Best d s projectDir kinds ⟨level, kind⟩ path := by
  obtain ⟨before, p, after, hplaces, hfound, hbefore⟩ := List.findSome?_eq_some_iff.1 h
  obtain ⟨found, hhit, hpair⟩ := Option.map_eq_some_iff.1 hfound
  obtain ⟨rfl, rfl⟩ := Prod.mk.inj hpair
  have hmem : p ∈ places kinds := by simp [hplaces]
  refine ⟨p.level, mem_places_iff.1 hmem, hhit, fun q hq hsome => ?_⟩
  have hplace : q ∈ before ++ p :: after := hplaces ▸ mem_places_iff.2 hq
  rcases List.mem_append.1 hplace with hearlier | hlater
  · -- A place that was asked before holds nothing.
    have hnone := hbefore q hearlier
    rw [Option.map_eq_none_iff] at hnone
    simp [hnone] at hsome
  · rcases List.mem_cons.1 hlater with rfl | hafter
    · exact Nat.le_refl _
    · unfold Sorted at hsorted
      rw [hplaces, List.pairwise_append] at hsorted
      exact Nat.le_of_lt ((List.pairwise_cons.1 hsorted.2.1).1 q hafter)

/-- There is no hit if and only if all places are empty. -/
theorem firstHit_eq_none_iff :
    firstHit d s projectDir kinds = none ↔
      ∀ q : LookupPlace, q.kind ∈ kinds → hit? d s projectDir q = none := by
  rw [firstHit, List.findSome?_eq_none_iff]
  simp only [Option.map_eq_none_iff, mem_places_iff]

/-- **The first hit is the best one.** -/
theorem firstHit_eq_some_iff (hsorted : Sorted kinds) {kind : BundlerKind} :
    firstHit d s projectDir kinds = some (kind, path) ↔
      ∃ level, Best d s projectDir kinds ⟨level, kind⟩ path := by
  constructor
  · exact best_of_firstHit hsorted
  · rintro ⟨level, hbest⟩
    cases hfirst : firstHit d s projectDir kinds with
    | none =>
        have hnone := firstHit_eq_none_iff.1 hfirst ⟨level, kind⟩ hbest.admitted
        rw [hbest.found] at hnone
        cases hnone
    | some hit =>
        obtain ⟨level', hbest'⟩ := best_of_firstHit hsorted hfirst
        obtain ⟨hplace, hpath⟩ := hbest'.unique hbest
        have hkind : hit.1 = kind := congrArg LookupPlace.kind hplace
        rw [← hkind, ← hpath]

end LookupPlace

namespace Arguments

variable {a : Arguments}

/-- The kinds that the command line admits: the one that is asked for, or all of them. -/
def admitted (a : Arguments) : List BundlerKind :=
  match a.bundler with
  | some kind => [kind]
  | none => BundlerKind.all

/-- **The choice is the first hit among the places**, although it is made in rounds. -/
theorem selectBundler_eq_firstHit (s : Surroundings) (d : Disk) (projectDir : Option Path)
    (hbin : a.bundlerBin = none) :
    (a.selectBundler s d projectDir).1 =
      lookupResult projectDir (a.bundler.getD .browserify)
        (firstHit d s projectDir a.admitted) := by
  cases hbundler : a.bundler with
  | some kind =>
      simp only [selectBundler, admitted, hbundler, hbin, Option.getD_some]
      exact locate_fst d s kind projectDir
  | none =>
      simp only [selectBundler, admitted, hbundler, Option.getD_none, firstHit_eq,
        findSome?_map_pair]
      cases hlocal : BundlerKind.all.find? fun kind =>
          (findLocal d s projectDir kind.program).isSome with
      | some kind =>
          have hfound := List.find?_some hlocal
          obtain ⟨path, hpath⟩ := Option.isSome_iff_exists.1 hfound
          simp only [locate_fst, firstHit_singleton, hpath, Option.some_or, Option.map_some,
            Option.bind_some, lookupResult]
      | none =>
          have hdetected := detectAmong_fst d s BundlerKind.all
          cases hdetect : detectBundler d s with
          | mk found log =>
              have hfound : (BundlerKind.all.find? fun kind => (d.which s kind.program).isSome) =
                  found := by
                rw [← hdetected]
                exact congrArg Prod.fst hdetect
              cases found with
              | none =>
                  rw [hfound]
                  rfl
              | some kind =>
                  -- The second round asks the project again, and it has nothing of that kind.
                  have hmissing : findLocal d s projectDir kind.program = none := by
                    simpa using List.find?_eq_none.1 hlocal kind (List.mem_of_find?_eq_some hfound)
                  have hwhich := List.find?_some hfound
                  obtain ⟨path, hpath⟩ := Option.isSome_iff_exists.1 hwhich
                  simp only [hfound, locate_fst, firstHit_singleton, hmissing, hpath,
                    Option.none_or, Option.map_some, Option.bind_none, Option.bind_some,
                    lookupResult]

theorem sorted_admitted (a : Arguments) : Sorted a.admitted := by
  unfold admitted
  split
  · exact sorted_singleton _
  · exact sorted_all

/-- A program of its own is accepted on the command line only together with a kind. -/
theorem exists_bundler_of_bundlerBin (hvalid : a.validate = .ok ()) {bin : Path}
    (hbin : a.bundlerBin = some bin) : ∃ kind, a.bundler = some kind := by
  cases hbundler : a.bundler with
  | some kind => exact ⟨kind, rfl⟩
  | none =>
      simp only [validate, hbin, hbundler, Option.isSome_some, Option.isNone_none, Bool.and_self,
        if_true] at hvalid
      split at hvalid
      · cases hvalid
      · split at hvalid <;> cases hvalid

/-- **How a bundler is chosen.**  A program that is given is taken as it is, with the kind that is
given along with it.  Otherwise the choice is the program in the best place: a program of the project
goes before one of the search path, and browserify before esbuild within each of these levels, where a
kind that is asked for is the only one admitted.  Nothing is found if and only if all admitted places
are empty; the error then names the program that is asked for, or else browserify.  A program that was
looked up has the name of the kind whose arguments it is given. -/
theorem selection_obeys_priority (d : Disk) (s : Surroundings) (a : Arguments)
    (projectDir : Option Path) (hvalid : a.validate = .ok ()) :
    let choice := (a.selectBundler s d projectDir).1
    (∀ bin, a.bundlerBin = some bin →
        ∃ kind, a.bundler = some kind ∧ choice = .ok ⟨kind, bin, projectDir⟩) ∧
      (a.bundlerBin = none →
        (∀ b, choice = .ok b ↔
          b.workingDir = projectDir ∧
            ∃ level, Best d s projectDir a.admitted ⟨level, b.kind⟩ b.program) ∧
        (∀ e, choice = .error e ↔
          e = .notFound (a.bundler.getD .browserify).program ∧
            ∀ p : LookupPlace, p.kind ∈ a.admitted → hit? d s projectDir p = none) ∧
        ∀ b, choice = .ok b → b.program.fileName? = some b.kind.program) := by
  intro choice
  refine ⟨fun bin hbin => ?_, fun hbin => ?_⟩
  · obtain ⟨kind, hbundler⟩ := exists_bundler_of_bundlerBin hvalid hbin
    refine ⟨kind, hbundler, ?_⟩
    simp only [choice, selectBundler, hbundler, hbin]
  · have hchoice : choice = lookupResult projectDir (a.bundler.getD .browserify)
        (firstHit d s projectDir a.admitted) := selectBundler_eq_firstHit s d projectDir hbin
    have hok : ∀ b, choice = .ok b ↔
        b.workingDir = projectDir ∧
          ∃ level, Best d s projectDir a.admitted ⟨level, b.kind⟩ b.program := by
      intro b
      rw [hchoice, lookupResult_eq_ok_iff, firstHit_eq_some_iff a.sorted_admitted]
    have herror : ∀ e, choice = .error e ↔
        e = .notFound (a.bundler.getD .browserify).program ∧
          ∀ p : LookupPlace, p.kind ∈ a.admitted → hit? d s projectDir p = none := by
      intro e
      rw [hchoice, lookupResult_eq_error_iff, firstHit_eq_none_iff]
    refine ⟨hok, herror, fun b hb => ?_⟩
    obtain ⟨-, level, hbest⟩ := (hok b).1 hb
    exact hit?_fileName? hbest.found

/-- The project has esbuild, which need not be executable to be found, and the search path has
browserify, the kind that is asked for first: the project's program is chosen. -/
theorem project_goes_before_search_path :
    let s : Surroundings := ⟨["site"], [("PATH", "/bin")]⟩
    let d : Disk :=
      ⟨[(["bin"], .directory), (["bin", "browserify"], .file ⟨#[0x7f]⟩ true),
        (["site"], .directory), (["site", "node_modules"], .directory),
        (["site", "node_modules", ".bin"], .directory),
        (["site", "node_modules", ".bin", "esbuild"], .file ⟨#[0x7f]⟩ false)]⟩
    let own : Path := ⟨"/site/node_modules/.bin/esbuild"⟩
    Arguments.empty.validate = .ok () ∧ Arguments.empty.bundlerBin = none ∧
      hit? d s (some ⟨"/site"⟩) ⟨.searchPath, .browserify⟩ = some ⟨"/bin/browserify"⟩ ∧
      (Arguments.empty.selectBundler s d (some ⟨"/site"⟩)).1 =
        .ok ⟨.esbuild, own, some ⟨"/site"⟩⟩ ∧
      own.fileName? = some BundlerKind.esbuild.program := by
  intro s d own
  have hbest : Best d s (some ⟨"/site"⟩) Arguments.empty.admitted ⟨.project, .esbuild⟩ own := by
    refine ⟨by decide, by decide +kernel, ?_⟩
    rintro ⟨level, kind⟩ - hsome
    have hmissing : hit? d s (some ⟨"/site"⟩) ⟨.project, .browserify⟩ = none := by decide +kernel
    cases level with
    | project =>
        cases kind with
        | browserify =>
            rw [hmissing] at hsome
            cases hsome
        | esbuild => exact Nat.le_refl _
    | searchPath => cases kind <;> decide
  obtain ⟨-, hlookup⟩ := selection_obeys_priority d s Arguments.empty (some ⟨"/site"⟩) rfl
  obtain ⟨hok, -, hname⟩ := hlookup rfl
  let chosen : CommandBundler := ⟨.esbuild, own, some ⟨"/site"⟩⟩
  have hchoice : (Arguments.empty.selectBundler s d (some ⟨"/site"⟩)).1 = .ok chosen :=
    (hok chosen).2 ⟨rfl, .project, hbest⟩
  have hfile : own.fileName? = some BundlerKind.esbuild.program := hname chosen hchoice
  have hother : hit? d s (some ⟨"/site"⟩) ⟨.searchPath, .browserify⟩ = some ⟨"/bin/browserify"⟩ := by
    decide +kernel
  exact ⟨rfl, rfl, hother, hchoice, hfile⟩

end Arguments

end PluginBundle
