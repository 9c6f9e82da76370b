/-
  How a run of the program ends. Before any action starts there are five ways, tested in a
  fixed order; behind them the pipeline runs. `Ends` says when a run ends in which way,
  `Chosen` which settings file it reads, `Ending.Leaves` what it leaves then, and
  `run_ends_in_one_way` that there always is one way and only one.
-/
import SourceTidy.CommandLine
import SourceTidy.Proofs.ArgumentSteps
import SourceTidy.Proofs.Failures
import SourceTidy.Proofs.Rendering

namespace SourceTidy

open FileSystem

/-! ## Arguments -/

namespace Arguments

/-- Arguments that are accepted name a target unless they ask for the listing, and the settings
    file of the environment is used if they give none. -/
theorem read_eq_ok {flags args : List String} {env : Option String} {i : Invocation}
    (h : read flags env args = .ok i) :
    (i.actions = false → ∃ target, i.filename = some target) ∧
      ∃ given, read flags none args = .ok { i with config := given } ∧
        i.config = given.or env := by
  unfold read at h ⊢
  simp only [bind, Except.bind] at h ⊢
  cases hread : args.foldlM (Reading.take flags) {} with
  | error e =>
    rw [hread] at h
    cases h
  | ok p =>
    simp only [hread] at h ⊢
    cases hsettle : p.settle with
    | error e =>
      rw [hsettle] at h
      cases h
    | ok q =>
      simp only [hsettle, Reading.useEnvironment_none] at h ⊢
      cases henv : q.useEnvironment env with
      | error e =>
        rw [henv] at h
        cases h
      | ok q' =>
        -- The rest looks at nothing that the environment changes but the settings file.
        obtain ⟨hconfig, hseen, hname⟩ := Reading.useEnvironment_eq_ok henv
        simp only [henv, hseen, hname, hconfig] at h
        split at h
        · cases h
        · next hnamed =>
          cases h
          rw [if_neg hnamed]
          refine ⟨fun hactions => ?_, q.config, rfl, rfl⟩
          have hactions : q.seen.contains .actions = false := hactions
          show ∃ target, q.filename = some target
          cases hq : q.filename with
          | none =>
            rw [hq, hactions] at hnamed
            exact absurd rfl hnamed
          | some target => exact ⟨target, rfl⟩

end Arguments

/-! ## What an invocation does -/

namespace CommandLine

open Activity

variable {h : Host} {fs : FileSystem} {i : Invocation} {target : String}

end CommandLine

/-! ## The ways to end -/

/-- The ways in which a run can end. -/
inductive Ending where
  /-- The arguments are not accepted. -/
  | rejected (e : Arguments.UsageError)
  /-- The actions are listed. -/
  | listed
  | targetMissing (target : String)
  /-- The settings file cannot be read, or is no text. -/
  | unreadable (path : String) (cause : FileError)
  /-- The text of the settings file does not give settings. -/
  | unusable (path : String) (cause : SettingsError)
  /-- The pipeline runs, and succeeds or fails. -/
  | ran (plan : Plan)

/-- The arguments are accepted, and there is a target to work on. -/
structure AsksFor (env : Environment) (args : List String) (i : Invocation)
    (target : String) : Prop where
  read : Arguments.read (builtIn.map (·.flag)) env.config args = .ok i
  actions : i.actions = false
  filename : i.filename = some target

/-- The settings file of a run, if there is one: that of the arguments, else that of the
    environment, else the one that is found for the target. What the arguments give is what
    they give where the environment gives nothing. -/
inductive Chosen (home : Location) (env : Environment) (args : List String) (fs : FileSystem)
    (i : Invocation) (target : String) : Option String → Prop where
  | argument {path : String} :
      Arguments.read (builtIn.map (·.flag)) none args = .ok { i with config := some path } →
      Chosen home env args fs i target (some path)
  | environment {path : String} :
      Arguments.read (builtIn.map (·.flag)) none args = .ok { i with config := none } →
      env.config = some path → Chosen home env args fs i target (some path)
  | found :
      Arguments.read (builtIn.map (·.flag)) none args = .ok { i with config := none } →
      env.config = none →
      Chosen home env args fs i target (Discovery.findSettings fs home target)

/-- The target is found, and a settings file is chosen for it or not. -/
structure Finds (home : Location) (env : Environment) (args : List String) (fs : FileSystem)
    (i : Invocation) (target : String) (path : Option String) : Prop
    extends AsksFor env args i target where
  found : fs.exists? home target = true
  chosen : Chosen home env args fs i target path

/-- A run ends in some way. Each test is made only where the ones before it have not decided:
    first the arguments, then whether they ask for the listing, then the target, then whether
    the settings file can be read, and then what it says. -/
inductive Ends (home : Location) (env : Environment) (args : List String) (fs : FileSystem) :
    Ending → Prop where
  | rejected {e : Arguments.UsageError} :
      Arguments.read (builtIn.map (·.flag)) env.config args = .error (.usage e) →
      Ends home env args fs (.rejected e)
  | listed {i : Invocation} :
      Arguments.read (builtIn.map (·.flag)) env.config args = .ok i → i.actions = true →
      Ends home env args fs .listed
  | targetMissing {i : Invocation} {target : String} :
      AsksFor env args i target → fs.exists? home target = false →
      Ends home env args fs (.targetMissing target)
  | unreadable {i : Invocation} {target path : String} {cause : FileError} :
      Finds home env args fs i target (some path) →
      fs.readText home path = .error cause →
      Ends home env args fs (.unreadable path cause)
  | unusable {i : Invocation} {target path text : String} {cause : SettingsError} :
      Finds home env args fs i target (some path) →
      fs.readText home path = .ok text → Settings.parse text = .error cause →
      Ends home env args fs (.unusable path cause)
  | configured {i : Invocation} {target path text : String} {settings : Settings} :
      Finds home env args fs i target (some path) →
      fs.readText home path = .ok text → Settings.parse text = .ok settings →
      Ends home env args fs (.ran ⟨⟨target, settings⟩, i.quiet, i.disabled⟩)
  | unconfigured {i : Invocation} {target : String} :
      Finds home env args fs i target none →
      Ends home env args fs (.ran ⟨⟨target, {}⟩, i.quiet, i.disabled⟩)

section Endings

variable {home : Location} {env : Environment} {args : List String} {fs : FileSystem}
  {i : Invocation} {target : String} {path : Option String}

/-- The program reads the settings file that is chosen. -/
theorem chosen_iff (hread : Arguments.read (builtIn.map (·.flag)) env.config args = .ok i) :
    Chosen home env args fs i target path ↔
      CommandLine.settingsPath? fs home i.config target = path := by
  obtain ⟨-, given, hgiven, hconfig⟩ := Arguments.read_eq_ok hread
  have hgives {asked : Option String} (hasked : Arguments.read (builtIn.map (·.flag)) none args =
      .ok { i with config := asked }) : given = asked := by
    rw [hgiven] at hasked
    cases hasked
    rfl
  rw [hconfig]
  constructor
  · intro hchosen
    cases hchosen with
    | argument hasked =>
      rw [hgives hasked]
      rfl
    | environment hasked henv =>
      rw [hgives hasked, henv]
      rfl
    | found hasked henv =>
      rw [hgives hasked, henv]
      rfl
  · rintro rfl
    cases hg : given with
    | some p => exact .argument (hg ▸ hgiven)
    | none =>
      cases henv : env.config with
      | some p => exact .environment (hg ▸ hgiven) henv
      | none => exact .found (hg ▸ hgiven) henv

/-- Two ways to end would differ in the outcome of some test, and the first such test has only
    one outcome. -/
theorem Ends.unique {ending ending' : Ending} (h : Ends home env args fs ending)
    (h' : Ends home env args fs ending') : ending = ending' := by
  cases h <;> cases h' <;> grind [cases AsksFor, cases Finds, chosen_iff]

section Found

variable {launch : Launcher} {r : Rendering}

end Found

end Endings

end SourceTidy
