/-
  Reading one argument. An option is found by its name, which no other option has
  (`find?_long`), and what follows depends on what has been read so far only through what that
  settles to: an option is added to it (`flag_of_settle`, `configOption_of_settle`), and so is
  a file name, which is pending for a while (`positional_of_settle`).
-/
import SourceTidy.Arguments.Basic

namespace SourceTidy

namespace Arguments

/-! ## Options by their names -/

/-- The letter that the name of an option begins with. -/
def Switch.initial : Switch → Char
  | quiet => 'q'
  | actions => 'a'
  | config => 'c'
  | turnOff _ => 'n'
  | help => 'h'
  | version => 'v'

theorem Switch.head?_long (s : Switch) : s.long.toList.head? = some s.initial := by
  cases s with
  | turnOff flag => simp [Switch.long, optOut, Switch.initial]
  | _ => rfl

theorem Switch.long_injective {s s' : Switch} (h : s.long.toList = s'.long.toList) : s = s' := by
  have hinitial : s.initial = s'.initial := by
    have hhead := s.head?_long
    rw [h, s'.head?_long] at hhead
    exact (Option.some.inj hhead).symm
  cases s with
  | turnOff flag =>
    cases s' with
    | turnOff flag' =>
      have hflag : flag.toList = flag'.toList := by simpa [Switch.long, optOut] using h
      rw [String.toList_inj.1 hflag]
    | _ => exact absurd hinitial (by simp [Switch.initial])
  | _ => cases s' <;> simp [Switch.initial] at hinitial ⊢

/-- An option is found by its name. -/
theorem find?_long {flags : List String} {s : Switch} (hs : s ∈ switches flags) :
    (switches flags).find? (fun s' => s'.long.toList = s.long.toList) = some s := by
  cases hfind : (switches flags).find? (fun s' => s'.long.toList = s.long.toList) with
  | none =>
    have hnone := List.find?_eq_none.1 hfind s hs
    simp at hnone
  | some s' =>
    have hlong := List.find?_some hfind
    rw [Switch.long_injective (of_decide_eq_true hlong)]

namespace Reading

section Steps

variable {flags : List String} {p q : Reading} {s : Switch}

/-- An option that stands alone. -/
theorem longOption_alone (hs : s ∈ switches flags) (hconfig : s ≠ .config)
    (hequals : '=' ∉ s.long.toList) : longOption flags p s.long.toList = p.flag s true := by
  have hname : s.long.toList.takeWhile (· ≠ '=') = s.long.toList := by
    rw [← List.append_nil s.long.toList, List.takeWhile_append_of_pos, List.takeWhile_nil]
    intro c hc
    exact decide_eq_true fun heq => hequals (heq ▸ hc)
  unfold longOption
  simp only [hname, find?_long hs]
  cases s with
  | config => exact absurd rfl hconfig
  | _ => rfl

/-- The option for the settings file, with its value behind the first equals sign. -/
theorem longOption_config (flags : List String) (p : Reading) (path : String) :
    longOption flags p ("config".toList ++ '=' :: path.toList) = p.configOption (some path) := by
  have hname : ("config".toList ++ '=' :: path.toList).takeWhile (· ≠ '=') =
      Switch.config.long.toList := by simp [Switch.long]
  have hvalue : ("config".toList ++ '=' :: path.toList).drop (Switch.config.long.toList.length + 1)
      = path.toList := by simp [Switch.long]
  have hlength : Switch.config.long.toList.length ≠
      ("config".toList ++ '=' :: path.toList).length := by simp [Switch.long]
  have hmem : Switch.config ∈ switches flags := by simp [switches]
  unfold longOption
  simp only [hname, find?_long hmem, hvalue, if_neg hlength, String.ofList_toList]

theorem take_long (hplain : p.plainOnly = false) {body : String} (hbody : body ≠ "") :
    take flags p ("--" ++ body) = longOption flags p body.toList := by
  have hlist : ("--" ++ body).toList = '-' :: '-' :: body.toList := by simp
  unfold take
  rw [hplain, hlist]
  cases hb : body.toList with
  | nil => exact absurd (by simpa using hb) hbody
  | cons c rest => rfl

/-- An argument that does not look like an option. -/
theorem take_positional (hplain : p.plainOnly = false) (hpending : p.pending ≠ .awaiting)
    {argument : String} (hdash : argument.toList.head? ≠ some '-') :
    take flags p argument = p.positional argument := by
  unfold take
  rw [hplain, if_neg Bool.false_ne_true]
  split
  · next h => exact absurd (by rw [h]; rfl) hdash
  · next h => exact absurd (by rw [h]; rfl) hdash
  · next h => exact absurd (by rw [h]; rfl) hdash
  · split
    · next h => exact absurd h hpending
    · rfl

/-! ## Settling -/

theorem setConfig_eq_ok {value : String} (h : p.setConfig value = .ok q) :
    q = { p with config := some value, pending := .nothing } := by
  unfold setConfig at h
  split at h
  · cases h
  · split at h
    · cases h
    · exact (Except.ok.inj h).symm

theorem setConfig_of_none {value : String} (hnew : p.config = none) (hne : value ≠ "") :
    p.setConfig value = .ok { p with config := some value, pending := .nothing } := by
  unfold setConfig
  rw [hnew, if_neg (by simp), if_neg (by simpa using hne)]

theorem useEnvironment_none (p : Reading) : p.useEnvironment none = .ok p := by
  unfold useEnvironment
  cases p.config <;> rfl

/-- What the environment can add is a settings file, if none is given. -/
theorem useEnvironment_eq_ok {env : Option String} (h : p.useEnvironment env = .ok q) :
    q.config = p.config.or env ∧ q.seen = p.seen ∧ q.filename = p.filename := by
  cases env with
  | none =>
    rw [useEnvironment_none] at h
    cases h
    exact ⟨Option.or_none.symm, rfl, rfl⟩
  | some value =>
    unfold useEnvironment at h
    cases hp : p.config with
    | none =>
      rw [hp] at h
      rw [setConfig_eq_ok h]
      exact ⟨rfl, rfl, rfl⟩
    | some given =>
      rw [hp] at h
      cases h
      exact ⟨hp, rfl, rfl⟩

/-- The environment only spoils a reading by an empty settings file. -/
theorem exists_useEnvironment {env : Option String} (henv : p.config = none → env ≠ some "") :
    ∃ q, p.useEnvironment env = .ok q := by
  unfold useEnvironment
  cases hconfig : p.config with
  | some path => exact ⟨p, rfl⟩
  | none =>
    cases env with
    | none => exact ⟨p, rfl⟩
    | some path =>
      have hne : path ≠ "" := fun h => henv hconfig (congrArg some h)
      exact ⟨_, setConfig_of_none hconfig hne⟩

theorem settle_of_nothing (h : p.pending = .nothing) : p.settle = .ok p := by
  unfold settle
  rw [h]

/-- Settling changes nothing but the value that was pending. -/
theorem settle_eq_ok (h : p.settle = .ok q) :
    p.pending ≠ .awaiting ∧ q.pending = .nothing ∧ q.named = p.named ∧
      q.plainOnly = p.plainOnly := by
  unfold settle at h
  cases hpending : p.pending with
  | nothing =>
    rw [hpending] at h
    cases h
    exact ⟨nofun, hpending, rfl, rfl⟩
  | awaiting =>
    rw [hpending] at h
    cases h
  | config value =>
    rw [hpending] at h
    rw [setConfig_eq_ok h]
    exact ⟨nofun, rfl, rfl, rfl⟩
  | filename value =>
    rw [hpending] at h
    simp only at h
    split at h
    · cases h
    · cases h
      exact ⟨nofun, rfl, rfl, rfl⟩

/-- Nor does it ask whether options may follow. -/
theorem settle_plainOnly (p : Reading) :
    { p with plainOnly := true }.settle = p.settle.map ({ · with plainOnly := true }) := by
  obtain ⟨seen, config, filename, pending, named, plainOnly⟩ := p
  cases pending with
  | nothing => rfl
  | awaiting => rfl
  | config value =>
    show setConfig _ value = (setConfig _ value).map _
    unfold setConfig
    cases config.isSome <;> cases value.isEmpty <;> rfl
  | filename value =>
    simp only [settle]
    cases value.isEmpty <;> rfl

theorem flag_of_settle (h : p.settle = .ok q) (hhelp : s ≠ .help) (hversion : s ≠ .version)
    (hnew : s ∉ q.seen) (long : Bool) :
    p.flag s long = .ok { q with seen := q.seen ++ [s] } := by
  have hseen : q.seen.contains s = false := by simpa using hnew
  unfold flag
  rw [h]
  cases s with
  | help => exact absurd rfl hhelp
  | version => exact absurd rfl hversion
  | _ =>
    show (if _ then _ else _) = _
    rw [hseen]
    rfl

theorem configOption_of_settle (h : p.settle = .ok q) (hnew : q.config = none) {path : String}
    (hne : path ≠ "") :
    p.configOption (some path) = .ok { q with config := some path, pending := .nothing } := by
  unfold configOption
  rw [h]
  exact setConfig_of_none hnew hne

/-- A file name is pending first, and settled later. -/
theorem positional_of_settle (h : p.settle = .ok q) (hnew : q.named = false) {path : String}
    (hne : path ≠ "") :
    ∃ p', p.positional path = .ok p' ∧
      p'.settle = .ok { q with filename := some path, named := true } := by
  obtain ⟨-, hpending, hnamed, -⟩ := settle_eq_ok h
  refine ⟨{ q with pending := .filename path, named := true }, ?_, ?_⟩
  · unfold positional
    rw [← hnamed, hnew, h]
    rfl
  · unfold settle
    simp only [if_neg (show ¬path.isEmpty = true by simpa using hne)]
    rw [← hpending]

/-- Behind two dashes the target is no option, whatever it looks like. -/
theorem foldlM_dashes {args : List String} {r : Reading}
    (hfold : args.foldlM (take flags) r = .ok p) (hsettle : p.settle = .ok q)
    (hplain : q.plainOnly = false) (hnamed : q.named = false) {target : String}
    (hne : target ≠ "") :
    ∃ p', (args ++ ["--", target]).foldlM (take flags) r = .ok p' ∧
      p'.settle =
        .ok { q with plainOnly := true, filename := some target, named := true } := by
  obtain ⟨-, -, -, hsame⟩ := settle_eq_ok hsettle
  have hdashes : p.take flags "--" = .ok { p with plainOnly := true } := by
    unfold take
    rw [← hsame, hplain]
    rfl
  have hsettle' := p.settle_plainOnly
  rw [hsettle] at hsettle'
  obtain ⟨p', hp', hsettle''⟩ := positional_of_settle hsettle' hnamed hne
  refine ⟨p', ?_, hsettle''⟩
  rw [List.foldlM_append, hfold]
  show (p.take flags "--" >>= _) = _
  rw [hdashes]
  exact (bind_pure _).trans hp'

end Steps

end Reading

end Arguments

end SourceTidy
