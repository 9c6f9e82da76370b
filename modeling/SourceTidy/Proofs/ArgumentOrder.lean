/-
  Command lines in any order. A `Wish` is one thing that an argument asks for, and `standing`
  is what has been read when some wishes have been. Reading keeps to that, up to the value that
  is pending: one more argument adds its wish (`take_written`), so a command line gives what
  its wishes give together (`foldlM_written`), and the invocation is read off them
  (`read_ordered`). `any_order_gives_invocation` says it of every order, and what the pipeline
  does then.
-/
import SourceTidy.CommandLine
import SourceTidy.Proofs.ArgumentSteps
import SourceTidy.Proofs.Turns

namespace SourceTidy

namespace Arguments

/-! ## Wishes -/

/-- One thing that an argument asks for. -/
inductive Wish where
  | turnOff (flag : String)
  | quiet
  | config (path : String)
  | target (path : String)

namespace Wish

/-- The argument that asks for it. -/
def written : Wish → String
  | turnOff flag => "--no-" ++ flag
  | quiet => "--quiet"
  | config path => "--config=" ++ path
  | target path => path

/-- The option that it needs, which can be there only once; the file name needs none, and can
    be there only once as well. -/
def slot : Wish → Option Switch
  | turnOff flag => some (.turnOff flag)
  | quiet => some .quiet
  | config _ => some .config
  | target _ => none

def switch? : Wish → Option Switch
  | turnOff flag => some (.turnOff flag)
  | quiet => some .quiet
  | _ => none

def config? : Wish → Option String
  | config path => some path
  | _ => none

def target? : Wish → Option String
  | target path => some path
  | _ => none

theorem switch?_eq_turnOff {w : Wish} {flag : String} :
    w.switch? = some (.turnOff flag) ↔ w = .turnOff flag := by
  cases w <;> simp [switch?]

theorem switch?_eq_quiet {w : Wish} : w.switch? = some .quiet ↔ w = .quiet := by
  cases w <;> simp [switch?]

theorem config?_eq_some {w : Wish} {path : String} :
    w.config? = some path ↔ w = .config path := by
  cases w <;> simp [config?]

theorem target?_eq_some {w : Wish} {path : String} :
    w.target? = some path ↔ w = .target path := by
  cases w <;> simp [target?]

/-- What may be asked for where the actions have some flags. -/
def Allowed (flags : List String) : Wish → Prop
  | turnOff flag => flag ∈ flags ∧ '=' ∉ flag.toList
  | quiet => True
  | config path => path ≠ ""
  | target path => path ≠ "" ∧ path.toList.head? ≠ some '-'

end Wish

/-- What has been read when some wishes have been, and nothing is pending. -/
def standing (ws : List Wish) : Reading :=
  { seen := ws.filterMap Wish.switch?
    config := ws.findSome? Wish.config?
    filename := ws.findSome? Wish.target?
    named := (ws.findSome? Wish.target?).isSome }

section Standing

variable {ws : List Wish}

theorem mem_seen_standing {s : Switch} :
    s ∈ (standing ws).seen ↔ ∃ w ∈ ws, w.switch? = some s := List.mem_filterMap

theorem turnOff_mem_seen {flag : String} :
    .turnOff flag ∈ (standing ws).seen ↔ .turnOff flag ∈ ws := by
  rw [mem_seen_standing]
  simp only [Wish.switch?_eq_turnOff, exists_eq_right]

theorem quiet_mem_seen : .quiet ∈ (standing ws).seen ↔ .quiet ∈ ws := by
  rw [mem_seen_standing]
  simp only [Wish.switch?_eq_quiet, exists_eq_right]

theorem actions_not_mem_seen : .actions ∉ (standing ws).seen := by
  rw [mem_seen_standing]
  rintro ⟨w, -, hs⟩
  cases w <;> cases hs

/-- A value that some wish has, and no wish has another, is the one that is found. -/
theorem findSome?_eq {f : Wish → Option String} {o : Option String}
    (h : ∀ a, (∃ w ∈ ws, f w = some a) ↔ o = some a) : ws.findSome? f = o := by
  cases hfind : ws.findSome? f with
  | none =>
    rw [List.findSome?_eq_none_iff] at hfind
    cases o with
    | none => rfl
    | some a =>
      obtain ⟨w, hw, ha⟩ := (h a).2 rfl
      rw [hfind w hw] at ha
      cases ha
  | some a =>
    obtain ⟨w, hw, ha⟩ := List.exists_of_findSome?_eq_some hfind
    exact ((h a).1 ⟨w, hw, ha⟩).symm

theorem not_mem_seen {s : Switch} (hnew : some s ∉ ws.map Wish.slot) :
    s ∉ (standing ws).seen := by
  rw [mem_seen_standing]
  rintro ⟨w, hw, hs⟩
  refine hnew (List.mem_map.2 ⟨w, hw, ?_⟩)
  cases w with
  | turnOff flag => exact hs
  | quiet => exact hs
  | _ => cases hs

theorem config_of_new (hnew : some Switch.config ∉ ws.map Wish.slot) :
    ws.findSome? Wish.config? = none := by
  rw [List.findSome?_eq_none_iff]
  intro w hw
  cases w with
  | config path => exact absurd (List.mem_map.2 ⟨_, hw, rfl⟩) hnew
  | _ => rfl

theorem target_of_new (hnew : none ∉ ws.map Wish.slot) : ws.findSome? Wish.target? = none := by
  rw [List.findSome?_eq_none_iff]
  intro w hw
  cases w with
  | target path => exact absurd (List.mem_map.2 ⟨_, hw, rfl⟩) hnew
  | _ => rfl

end Standing

section Steps

variable {flags : List String} {ws : List Wish} {p : Reading}

/-- An option without a value is seen. -/
theorem take_switch {s : Switch} (hp : p.settle = .ok (standing ws)) (hplain : p.plainOnly = false)
    (hs : s ∈ switches flags) (hkind : s ≠ .config ∧ s ≠ .help ∧ s ≠ .version)
    (hequals : '=' ∉ s.long.toList) (hnew : some s ∉ ws.map Wish.slot) :
    p.take flags ("--" ++ s.long) =
      .ok { standing ws with seen := (standing ws).seen ++ [s] } := by
  have hname : s.long ≠ "" := by
    intro h
    have hhead := s.head?_long
    rw [h] at hhead
    cases hhead
  rw [Reading.take_long hplain hname, Reading.longOption_alone hs hkind.1 hequals,
    Reading.flag_of_settle hp hkind.2.1 hkind.2.2 (not_mem_seen hnew)]

/-- One more argument adds its wish to what has been read. -/
theorem take_written {w : Wish} (hp : p.settle = .ok (standing ws))
    (hplain : p.plainOnly = false) (hw : w.Allowed flags) (hnew : w.slot ∉ ws.map Wish.slot) :
    ∃ p', p.take flags w.written = .ok p' ∧ p'.settle = .ok (standing (ws ++ [w])) := by
  cases w with
  | turnOff flag =>
    obtain ⟨hflag, hequals⟩ := hw
    have hwritten : (Wish.turnOff flag).written = "--" ++ (Switch.turnOff flag).long :=
      String.toList_inj.1 (by simp [Wish.written, Switch.long, optOut])
    have hmem : Switch.turnOff flag ∈ switches flags := by simp [switches, hflag]
    have hlong : '=' ∉ (Switch.turnOff flag).long.toList := by
      simpa [Switch.long, optOut] using hequals
    rw [hwritten]
    refine ⟨_, take_switch hp hplain hmem (by simp) hlong hnew, ?_⟩
    rw [Reading.settle_of_nothing rfl]
    simp [standing, Wish.switch?, Wish.config?, Wish.target?]
  | quiet =>
    have hmem : Switch.quiet ∈ switches flags := by simp [switches]
    refine ⟨_, take_switch hp hplain hmem (by simp) (by decide) hnew, ?_⟩
    rw [Reading.settle_of_nothing rfl]
    simp [standing, Wish.switch?, Wish.config?, Wish.target?]
  | config path =>
    have hwritten : (Wish.config path).written = "--" ++ ("config=" ++ path) :=
      String.toList_inj.1 (by simp [Wish.written])
    have hbody : ("config=" ++ path).toList = "config".toList ++ '=' :: path.toList := by simp
    rw [hwritten, Reading.take_long hplain (by simp), hbody, Reading.longOption_config,
      Reading.configOption_of_settle hp (config_of_new hnew) hw]
    refine ⟨_, rfl, ?_⟩
    rw [Reading.settle_of_nothing rfl]
    simp [standing, Wish.switch?, Wish.config?, Wish.target?, config_of_new hnew]
  | target path =>
    obtain ⟨hne, hdash⟩ := hw
    obtain ⟨hpending, -⟩ := Reading.settle_eq_ok hp
    have hnamed : (standing ws).named = false := by
      show (ws.findSome? Wish.target?).isSome = false
      rw [target_of_new hnew]
      rfl
    obtain ⟨p', hp', hsettle⟩ := Reading.positional_of_settle hp hnamed hne
    refine ⟨p', ?_, ?_⟩
    · exact (Reading.take_positional hplain hpending hdash).trans hp'
    · rw [hsettle]
      simp [standing, Wish.switch?, Wish.config?, Wish.target?, target_of_new hnew]

/-- The arguments of some wishes, each allowed and none there twice, are read to the end. -/
theorem foldlM_written (hallowed : ∀ w ∈ ws, w.Allowed flags)
    (hslots : (ws.map Wish.slot).Nodup) :
    ∃ p, (ws.map Wish.written).foldlM (Reading.take flags) {} = .ok p ∧
      p.settle = .ok (standing ws) := by
  induction ws using List.reverseRecOn with
  | nil => exact ⟨{}, rfl, rfl⟩
  | append_singleton ws w ih =>
    rw [List.map_append, List.nodup_append] at hslots
    obtain ⟨hbefore, hw⟩ := List.forall_mem_append.1 hallowed
    obtain ⟨p, hfold, hp⟩ := ih hbefore hslots.1
    have hplain : p.plainOnly = false := (Reading.settle_eq_ok hp).2.2.2.symm
    have hnew : w.slot ∉ ws.map Wish.slot :=
      fun hmem => hslots.2.2 _ hmem _ (List.mem_singleton_self _) rfl
    obtain ⟨p', htake, hp'⟩ := take_written hp hplain (hw w (List.mem_singleton_self w)) hnew
    refine ⟨p', ?_, hp'⟩
    rw [List.map_append, List.foldlM_append, hfold]
    exact (bind_pure (p.take flags w.written)).trans htake

end Steps

/-! ## The invocation -/

/-- The invocation is read off what has been read, once that is settled. -/
theorem read_of_settled {flags : List String} {env : Option String} {args : List String}
    {p q : Reading} {target : String} (hfold : args.foldlM (Reading.take flags) {} = .ok p)
    (hsettle : p.settle = .ok q) (hactions : .actions ∉ q.seen) (htarget : q.filename = some target)
    (henv : q.config = none → env ≠ some "") :
    read flags env args =
      .ok ⟨q.seen.contains .quiet, false, q.config.or env, some target,
        flags.filter fun f => q.seen.contains (.turnOff f)⟩ := by
  have hactions' : q.seen.contains .actions = false := by simpa using hactions
  obtain ⟨r, hr⟩ := Reading.exists_useEnvironment henv
  obtain ⟨hconfig, hseen, hfilename⟩ := Reading.useEnvironment_eq_ok hr
  unfold read
  rw [hfold]
  show (p.settle >>= _) = _
  rw [hsettle]
  show (q.useEnvironment env >>= _) = _
  rw [hr]
  show (if _ then _ else _) = _
  rw [hseen, hactions', hfilename, htarget, hconfig]
  rfl

/-- The arguments that turn off some flags, ask for quiet or not, and name a settings file or
    not. -/
def optionsFor (off : List String) (quiet : Bool) (config : Option String) : List String :=
  off.map ("--no-" ++ ·) ++ (if quiet then ["--quiet"] else []) ++
    config.toList.map ("--config=" ++ ·)

/-- The command lines that hold some options in any order and a target. It stands anywhere
    among them if it does not start with a dash, or last and behind two dashes, whatever it
    looks like. -/
inductive Ordered (off : List String) (quiet : Bool) (config : Option String) (target : String) :
    List String → Prop where
  | among (front back : List String) : (front ++ back).Perm (optionsFor off quiet config) →
      target.toList.head? ≠ some '-' → Ordered off quiet config target (front ++ target :: back)
  | last (options : List String) : options.Perm (optionsFor off quiet config) →
      Ordered off quiet config target (options ++ ["--", target])

/-- The wishes behind the options. -/
def wishesFor (off : List String) (quiet : Bool) (config : Option String) : List Wish :=
  off.map .turnOff ++ (if quiet then [.quiet] else []) ++ config.toList.map .config

section Wishes

variable {off : List String} {quiet : Bool} {config : Option String}

theorem map_written_wishesFor :
    (wishesFor off quiet config).map Wish.written = optionsFor off quiet config := by
  unfold wishesFor optionsFor
  cases quiet <;> simp [Wish.written, Function.comp_def]

theorem nodup_slots {target : Option String} {ws : List Wish} (hoff : off.Nodup)
    (h : ws.Perm (target.toList.map .target ++ wishesFor off quiet config)) :
    (ws.map Wish.slot).Nodup := by
  rw [(h.map Wish.slot).nodup_iff]
  have hflags : (off.map fun f => some (Switch.turnOff f)).Nodup := by
    refine hoff.map fun f f' h => ?_
    cases h
    rfl
  unfold wishesFor
  cases target <;> cases quiet <;> cases config <;>
    simp [Wish.slot, Function.comp_def, List.nodup_append, hflags]

/-- Arguments in another order come from the wishes in another order. -/
theorem exists_perm_of_perm_map {options : List String} {ws : List Wish}
    (h : options.Perm (ws.map Wish.written)) :
    ∃ ws' : List Wish, ws'.Perm ws ∧ options = ws'.map Wish.written := by
  have hwritten : List.Forall₂ (fun s (w : Wish) => s = w.written) (ws.map Wish.written) ws := by
    rw [List.forall₂_map_left_iff]
    exact List.forall₂_same.2 fun _ _ => rfl
  obtain ⟨ws', hoptions, hperm⟩ := List.perm_comp_forall₂ h hwritten
  have heq : List.Forall₂ (· = ·) options (ws'.map Wish.written) :=
    List.forall₂_map_right_iff.2 hoptions
  rw [List.forall₂_eq_eq_eq] at heq
  exact ⟨ws', hperm, heq⟩

/-- The wishes in a command line: those behind the options, perhaps one for a target, and no
    others. -/
structure AskedFor (off : List String) (quiet : Bool) (config target : Option String)
    (ws : List Wish) : Prop where
  turnOff : ∀ flag, .turnOff flag ∈ ws ↔ flag ∈ off
  quiet : .quiet ∈ ws ↔ quiet = true
  config : ∀ path, .config path ∈ ws ↔ config = some path
  target : ∀ path, .target path ∈ ws ↔ target = some path

theorem askedFor_of_perm {target : Option String} {ws : List Wish}
    (h : ws.Perm (target.toList.map .target ++ wishesFor off quiet config)) :
    AskedFor off quiet config target ws := by
  unfold wishesFor at h
  constructor
  · intro flag
    rw [h.mem_iff]
    cases quiet <;> simp
  · rw [h.mem_iff]
    cases quiet <;> simp
  · intro path
    rw [h.mem_iff]
    cases quiet <;> simp
  · intro path
    rw [h.mem_iff]
    cases quiet <;> simp

namespace AskedFor

variable {target : Option String} {ws : List Wish}

theorem config_standing (h : AskedFor off quiet config target ws) :
    (standing ws).config = config := by
  refine findSome?_eq fun path => ?_
  simp only [Wish.config?_eq_some, exists_eq_right, h.config]

theorem filename_standing (h : AskedFor off quiet config target ws) :
    (standing ws).filename = target := by
  refine findSome?_eq fun path => ?_
  simp only [Wish.target?_eq_some, exists_eq_right, h.target]

theorem allowed {flags : List String} (h : AskedFor off quiet config target ws)
    (hoff : ∀ flag ∈ off, flag ∈ flags ∧ '=' ∉ flag.toList) (hconfig : config ≠ some "")
    (htarget : ∀ path, target = some path → path ≠ "" ∧ path.toList.head? ≠ some '-') :
    ∀ w ∈ ws, w.Allowed flags := by
  intro w hw
  cases w with
  | turnOff flag => exact hoff flag ((h.turnOff flag).1 hw)
  | quiet => trivial
  | config path =>
    rintro rfl
    exact hconfig ((h.config "").1 hw)
  | target path => exact htarget path ((h.target path).1 hw)

/-- What has been asked for is what the invocation has. -/
theorem read_eq {flags args : List String} {env : Option String} {path : String} {p q : Reading}
    (h : AskedFor off quiet config target ws) (henv : config = none → env ≠ some "")
    (hfold : args.foldlM (Reading.take flags) {} = .ok p) (hsettle : p.settle = .ok q)
    (hseen : q.seen = (standing ws).seen) (hconfig : q.config = (standing ws).config)
    (hpath : q.filename = some path) :
    read flags env args =
      .ok ⟨quiet, false, config.or env, some path, flags.filter (· ∈ off)⟩ := by
  rw [h.config_standing] at hconfig
  have hread := read_of_settled hfold hsettle (hseen ▸ actions_not_mem_seen) hpath (hconfig ▸ henv)
  have hquiet : (standing ws).seen.contains .quiet = quiet := by
    rw [Bool.eq_iff_iff, List.contains_iff_mem, quiet_mem_seen, h.quiet]
  have hoff : ∀ flag, (standing ws).seen.contains (.turnOff flag) = decide (flag ∈ off) := by
    intro flag
    rw [Bool.eq_iff_iff, List.contains_iff_mem, turnOff_mem_seen, h.turnOff, decide_eq_true_iff]
  rw [hread, hseen, hquiet, hconfig]
  simp only [hoff]

end AskedFor

end Wishes

/-- The invocation of a command line, whatever its order. -/
theorem read_ordered {flags off args : List String} {quiet : Bool} {config env : Option String}
    {target : String} (hoff : ∀ flag ∈ off, flag ∈ flags ∧ '=' ∉ flag.toList)
    (hnodup : off.Nodup) (hconfig : config ≠ some "") (henv : config = none → env ≠ some "")
    (htarget : target ≠ "") (hargs : Ordered off quiet config target args) :
    read flags env args =
      .ok ⟨quiet, false, config.or env, some target, flags.filter (· ∈ off)⟩ := by
  cases hargs with
  | among front back hperm hdash =>
    rw [← map_written_wishesFor] at hperm
    obtain ⟨ws, hws, hwritten⟩ := exists_perm_of_perm_map hperm
    obtain ⟨wsFront, wsBack, rfl, rfl, rfl⟩ := List.map_eq_append_iff.1 hwritten.symm
    have hall : (wsFront ++ .target target :: wsBack).Perm
        ((some target).toList.map .target ++ wishesFor off quiet config) :=
      List.perm_middle.trans (hws.cons _)
    have hasked := askedFor_of_perm hall
    have hallowed := hasked.allowed hoff hconfig fun path hpath => by
      cases hpath
      exact ⟨htarget, hdash⟩
    obtain ⟨p, hfold, hsettle⟩ := foldlM_written hallowed (nodup_slots hnodup hall)
    rw [List.map_append, List.map_cons] at hfold
    exact hasked.read_eq henv hfold hsettle rfl rfl hasked.filename_standing
  | last options hperm =>
    rw [← map_written_wishesFor] at hperm
    obtain ⟨ws, hws, rfl⟩ := exists_perm_of_perm_map hperm
    have hall : ws.Perm
        ((none : Option String).toList.map .target ++ wishesFor off quiet config) := hws
    have hasked := askedFor_of_perm hall
    have hallowed := hasked.allowed hoff hconfig nofun
    obtain ⟨p, hfold, hsettle⟩ := foldlM_written hallowed (nodup_slots hnodup hall)
    have hnamed : (standing ws).named = false := by
      show (standing ws).filename.isSome = false
      rw [hasked.filename_standing]
      rfl
    obtain ⟨p', hfold', hsettle'⟩ := Reading.foldlM_dashes hfold hsettle rfl hnamed htarget
    exact hasked.read_eq henv hfold' hsettle' rfl rfl rfl

end Arguments

/-! ## The pipeline behind it -/

/-- Actions that do not fail make a run that does not, if they are not turned off. -/
theorem runAll_outcome_ok {p : Plan} {h : Host} {actions : List Action}
    (hrun : ∀ a ∈ actions, p.isDisabled a = false → ∀ fs, (a.run p h fs).outcome = .ok ())
    (fs : FileSystem) : (runAll p actions h fs).outcome = .ok () := by
  induction actions generalizing fs with
  | nil => rfl
  | cons a rest ih =>
    obtain ⟨ha, hrest⟩ := List.forall_mem_cons.1 hrun
    have hwork : (p.work a h fs).outcome = .ok () := by
      cases hd : p.isDisabled a with
      | true => rw [Plan.work_of_disabled hd]
      | false =>
        rw [Plan.work_of_enabled hd]
        exact ha hd fs
    exact runAll_cons_outcome_ok.2 ⟨hwork, ih hrest _⟩

/-- **The order of a command line does not matter.** The options turn off some of the actions,
    ask for quiet or not, and name a settings file or not; they come in any order, and the
    target stands anywhere among them, or behind two dashes if it looks like an option. Then
    the invocation asks for just that: where no settings file is named it is the one that the
    environment names, if it names one. In the pipeline that follows, if the actions that are
    left do not fail, each action has its turn, in the order of the actions: one that has been
    turned off does nothing, and each other one is run on the files that it finds. -/
theorem any_order_gives_invocation {actions : List Action} {off args : List String} {quiet : Bool}
    {config env : Option String} {target : String}
    (hflags : ∀ a ∈ actions, '=' ∉ a.flag.toList) (hoff : off ⊆ actions.map (·.flag))
    (hnodup : off.Nodup) (hconfig : config ≠ some "") (henv : config = none → env ≠ some "")
    (htarget : target ≠ "") (hargs : Arguments.Ordered off quiet config target args) :
    ∃ i, Arguments.read (actions.map (·.flag)) env args = .ok i ∧
      i.quiet = quiet ∧ i.actions = false ∧ i.config = config.or env ∧
      i.filename = some target ∧ (∀ flag, flag ∈ i.disabled ↔ flag ∈ off) ∧
      ∀ (settings : Settings) (h : Host) (fs : FileSystem),
        let p : Plan := ⟨⟨target, settings⟩, i.quiet, i.disabled⟩
        let turns := p.turns h fs actions
        let run := runAll p actions h fs
        (∀ a ∈ actions, a.flag ∉ off → ∀ fs, (a.run p h fs).outcome = .ok ()) →
        run.outcome = .ok () ∧ turns.map Turn.action = actions ∧
        (∀ t ∈ turns, t.report =
          if t.action.flag ∈ off then ⟨.ok (), .start t.found⟩
          else t.action.run p h t.found) ∧
        Turn.Handed fs turns run.progress.files ∧
        run.progress.out = turns.flatMap (Turn.pieces p) := by
  have hoff' : ∀ flag ∈ off, flag ∈ actions.map (·.flag) ∧ '=' ∉ flag.toList := by
    intro flag hflag
    obtain ⟨a, ha, rfl⟩ := List.mem_map.1 (hoff hflag)
    exact ⟨hoff hflag, hflags a ha⟩
  have hread := Arguments.read_ordered hoff' hnodup hconfig henv htarget hargs
  have hdisabled : ∀ flag, flag ∈ (actions.map (·.flag)).filter (· ∈ off) ↔ flag ∈ off := by
    intro flag
    rw [List.mem_filter, decide_eq_true_iff]
    exact and_iff_right_of_imp fun hflag => hoff hflag
  refine ⟨_, hread, rfl, rfl, rfl, rfl, hdisabled, ?_⟩
  intro settings h fs p turns run hrun
  have hisDisabled : ∀ a, p.isDisabled a = decide (a.flag ∈ off) := by
    intro a
    rw [Bool.eq_iff_iff, decide_eq_true_iff]
    exact List.contains_iff_mem.trans (hdisabled a.flag)
  have hok : run.outcome = .ok () := by
    refine runAll_outcome_ok (fun a ha hd => hrun a ha ?_) fs
    rw [hisDisabled] at hd
    exact of_decide_eq_false hd
  refine ⟨hok, (turns_of_ok hok).1, fun t ht => ?_, runAll_handed p h fs actions,
    runAll_out p h fs actions⟩
  have hhappens := p.happens_of_mem_turns ht
  unfold Turn.Happens at hhappens
  rw [hisDisabled] at hhappens
  by_cases hflag : t.action.flag ∈ off
  · rw [if_pos (decide_eq_true hflag)] at hhappens
    rw [if_pos hflag, hhappens]
  · rw [if_neg (by simpa using hflag)] at hhappens
    rw [if_neg hflag, hhappens]

/-- Actions that speak. -/
def chorus : List Action :=
  [.scripted "A" "a" "" .speak, .scripted "B" "b" "" .speak, .scripted "C" "c" "" .speak]

/-- A target between the options, with the settings file of the environment; and a target that
    looks like an option, with a settings file that does as well. -/
theorem any_order_gives_invocation_chorus :
    (∃ i, Arguments.read (chorus.map (·.flag)) (some "e.toml") ["--no-c", "x.py", "--no-a"] =
        .ok i ∧ i.quiet = false ∧ i.config = some "e.toml" ∧ i.filename = some "x.py" ∧
      (runAll ⟨⟨"x.py", {}⟩, i.quiet, i.disabled⟩ chorus bareHost .empty).outcome = .ok ()) ∧
    ∃ i, Arguments.read (chorus.map (·.flag)) (some "")
        ["--quiet", "--config=--no-a=1", "--no-b", "--", "--no-a"] = .ok i ∧
      i.quiet = true ∧ i.config = some "--no-a=1" ∧ i.filename = some "--no-a" ∧
      (∀ flag, flag ∈ i.disabled ↔ flag ∈ ["b"]) ∧
      ∀ t ∈ (Plan.mk ⟨"--no-a", {}⟩ i.quiet i.disabled).turns bareHost .empty chorus,
        t.action.flag = "b" → t.report = ⟨.ok (), .start t.found⟩ := by
  have hflags : ∀ a ∈ chorus, '=' ∉ a.flag.toList := by decide
  have hspeak : ∀ p, ∀ a ∈ chorus, ∀ fs, (a.run p bareHost fs).outcome = .ok () := by
    intro p
    simp only [chorus, List.forall_mem_cons]
    exact ⟨fun _ => rfl, fun _ => rfl, fun _ => rfl, fun _ ha => nomatch ha⟩
  constructor
  · have hargs : Arguments.Ordered ["a", "c"] false none "x.py" ["--no-c", "x.py", "--no-a"] :=
      .among ["--no-c"] ["--no-a"] (by decide) (by decide)
    have henv : (none : Option String) = none → some "e.toml" ≠ some "" := by decide
    obtain ⟨i, hread, hquiet, -, hconfig, hfilename, -, hrun⟩ :=
      any_order_gives_invocation hflags (by decide) (by decide) (by decide) henv (by decide) hargs
    obtain ⟨hok, -⟩ := hrun {} bareHost .empty fun a ha _ => hspeak _ a ha
    exact ⟨i, hread, hquiet, hconfig, hfilename, hok⟩
  · have hargs : Arguments.Ordered ["b"] true (some "--no-a=1") "--no-a"
        ["--quiet", "--config=--no-a=1", "--no-b", "--", "--no-a"] :=
      .last ["--quiet", "--config=--no-a=1", "--no-b"] (by decide)
    have henv : some "--no-a=1" = none → some "" ≠ some "" := by decide
    obtain ⟨i, hread, hquiet, -, hconfig, hfilename, hdisabled, hrun⟩ :=
      any_order_gives_invocation hflags (by decide) (by decide) (by decide) henv (by decide) hargs
    obtain ⟨-, -, hturns, -⟩ := hrun {} bareHost .empty fun a ha _ => hspeak _ a ha
    refine ⟨i, hread, hquiet, hconfig, hfilename, hdisabled, fun t ht hflag => ?_⟩
    have hreport := hturns t ht
    rw [hflag] at hreport
    exact hreport

end SourceTidy
