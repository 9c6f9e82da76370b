/-
  How a visit goes for whoever is called at its files. There is one list of paths, the one that
  a watcher is called with who never fails. Anybody else is called with the paths of this list
  in turn, each time with what the call before has left, and the first call that fails is the
  last and gives its failure to the visit (`visit_calls_in_turn`). If none fails, the visit ends
  well or at the first entry, in the order of routes, that it cannot see, when all files have
  been met whose routes come before that entry (`exists_endsAt`).
-/
import SourceTidy.Proofs.Obstacles

namespace SourceTidy

open FileSystem

/-! ## Calls in turn -/

section InTurn

variable {γ : Type}

/-- Calls at some paths, one after the other and all of them well, take one context to another. -/
inductive Called (call : String → γ → Except Failure Unit × γ) :
    List String → γ → γ → Prop where
  | nil {c : γ} : Called call [] c c
  | cons {path : String} {paths : List String} {c c' c'' : γ} :
      call path c = (.ok (), c') → Called call paths c' c'' → Called call (path :: paths) c c''

/-- What comes of calls at the paths of a list where the end is to be `o`: the paths that have
    been called with, how it ends, and the context in the end. All calls go well, or one fails
    and is the last, and its failure is the end. -/
inductive InTurn (call : String → γ → Except Failure Unit × γ) (paths : List String)
    (o : Except Failure Unit) (c : γ) : List String → Except Failure Unit → γ → Prop where
  | all {c' : γ} : Called call paths c c' → InTurn call paths o c paths o c'
  | stopped {before after : List String} {path : String} {c' c'' : γ} {f : Failure} :
      paths = before ++ path :: after → Called call before c c' →
      call path c' = (.error f, c'') → InTurn call paths o c (before ++ [path]) (.error f) c''

variable {call : String → γ → Except Failure Unit × γ} {paths qs : List String} {path : String}
  {o r : Except Failure Unit} {c c' c'' : γ}

theorem InTurn.of_error {f : Failure} (h : call path c = (.error f, c')) :
    InTurn call (path :: paths) o c [path] (.error f) c' := by
  rw [← List.nil_append [path]]
  exact .stopped rfl .nil h

theorem InTurn.cons (h : call path c = (.ok (), c')) (hrest : InTurn call paths o c' qs r c'') :
    InTurn call (path :: paths) o c (path :: qs) r c'' := by
  cases hrest with
  | all hcalled => exact .all (.cons h hcalled)
  | @stopped before after path' c₁ _ f hpaths hcalled hfail =>
    rw [← List.cons_append]
    exact .stopped (by rw [hpaths]; rfl) (.cons h hcalled) hfail

/-- Calls that never fail are made at all paths. -/
theorem InTurn.of_never (hnever : ∀ path c, (call path c).1 = .ok ())
    (h : InTurn call paths o c qs r c') : qs = paths ∧ r = o := by
  cases h with
  | all => exact ⟨rfl, rfl⟩
  | @stopped before after path c₁ _ f _ _ hfail =>
    have hok := hnever path c₁
    rw [hfail] at hok
    cases hok

end InTurn

/-- The watcher keeps a context in its state. At a path it makes a call with the context and
    ends as that does; notes leave the context as it is. -/
structure Watcher.Calls {σ γ : Type} (w : Watcher σ) (context : σ → γ)
    (call : String → γ → Except Failure Unit × γ) : Prop where
  meet : ∀ path s, call path (context s) = ((w.meet path s).1, context (w.meet path s).2)
  tell : ∀ n s, context (w.tell n s) = context s

namespace Walk

section Replay

variable {σ γ : Type} {w : Watcher σ} {context : σ → γ}
  {call : String → γ → Except Failure Unit × γ}

/-- Going through the items of a tour makes calls in turn, at the files with the extension. -/
theorem replay_inTurn (hc : w.Calls context call) (ext : String) {items : List Item}
    {s s' : σ} {ps qs : List String} {r : Except Failure Unit}
    (h : replay w.recording ext items (s, ps) = (r, (s', qs))) :
    ∃ called, qs = ps ++ called ∧
      InTurn call ((files items).filter (Path.hasExtension · ext)) (outcome items) (context s)
        called r (context s') := by
  induction items generalizing s ps with
  | nil =>
    cases h
    exact ⟨[], (List.append_nil _).symm, .all .nil⟩
  | cons item items ih =>
    cases item with
    | file path =>
      simp only [replay, files, outcome] at h ⊢
      by_cases hext : Path.hasExtension path ext = true
      · rw [if_pos hext] at h
        rw [List.filter_cons, if_pos hext]
        have hcall := hc.meet path s
        rcases hmeet : w.meet path s with ⟨f | u, s₁⟩
        · rw [hmeet] at hcall
          simp only [Watcher.recording, hmeet] at h
          cases h
          exact ⟨[path], rfl, .of_error hcall⟩
        · rw [hmeet] at hcall
          simp only [Watcher.recording, hmeet] at h
          obtain ⟨called, rfl, hturn⟩ := ih h
          exact ⟨path :: called, List.append_assoc .., hturn.cons hcall⟩
      · rw [if_neg hext] at h
        rw [List.filter_cons, if_neg hext]
        exact ih h
    | other path => exact ih h
    | skipped n =>
      obtain ⟨called, hqs, hturn⟩ := ih h
      rw [show context (w.tell n s) = context s from hc.tell n s] at hturn
      exact ⟨called, hqs, hturn⟩
    | fault f =>
      cases h
      exact ⟨[], (List.append_nil _).symm, .all .nil⟩

/-- Who never fails is called at all files of the tour. -/
theorem replay_never (hnever : ∀ path s, (w.meet path s).1 = .ok ()) (ext : String)
    {items : List Item} {s s' : σ} {ps : List String} {o : Except Failure Unit}
    (h : replay w.recording ext items (s, []) = (o, (s', ps))) :
    ps = (files items).filter (Path.hasExtension · ext) ∧ o = outcome items := by
  have hc : w.Calls (fun _ => ()) fun _ _ => (.ok (), ()) :=
    ⟨fun path s => by rw [hnever path s], fun _ _ => rfl⟩
  obtain ⟨called, rfl, hturn⟩ := replay_inTurn hc ext h
  exact hturn.of_never fun _ _ => rfl

end Replay

/-! ## The order of routes -/

theorem RouteLt.trans {ns ms ks : List String} (h : RouteLt ns ms) (h' : RouteLt ms ks) :
    RouteLt ns ks :=
  List.lex_trans (fun h h' => List.lt_trans h h') h h'

theorem RouteLt.extend {ns ms ks : List String} (h : RouteLt ns ms) (hms : ms <+: ks) :
    RouteLt ns ks := by
  obtain ⟨rest, rfl⟩ := hms
  exact List.Lex.append_right NameLt rest h

theorem RouteLt.not_start {ns ms : List String} (h : RouteLt ms ns) : ¬ns <+: ms := fun hns =>
  Std.Asymm.asymm ms ms (h.extend hns) (h.extend hns)

/-- What goes on comes later. -/
theorem routeLt_of_start {ns ms : List String} (h : ns <+: ms) (hne : ns ≠ ms) :
    RouteLt ns ms := by
  obtain ⟨rest, rfl⟩ := h
  cases rest with
  | nil => exact absurd (List.append_nil ns).symm hne
  | cons n rest =>
    have hlt : RouteLt (ns ++ []) (ns ++ n :: rest) := List.Lex.append_left NameLt .nil ns
    rwa [List.append_nil] at hlt

/-! ## The first fault -/

variable {fs : FileSystem} {home top : Location} {root : String} {items : List Item}
  {marks : List (List String × Item)}

/-- Before the first fault of a tour there are the files that are met. -/
theorem exists_first_fault {f : Failure} (h : outcome items = .error f) :
    ∃ before after, items = before ++ .fault f :: after ∧ Smooth before ∧
      files items = files before := by
  induction items with
  | nil => cases h
  | cons item items ih =>
    have hcons : (∀ g, item ≠ .fault g) → outcome items = .error f →
        (∀ xs, files (item :: xs) = files [item] ++ files xs) →
        ∃ before after, item :: items = before ++ .fault f :: after ∧ Smooth before ∧
          files (item :: items) = files before := by
      intro hitem hout hfiles
      obtain ⟨before, after, hitems, hs, heq⟩ := ih hout
      exact ⟨item :: before, after, by rw [hitems]; rfl, smooth_cons.2 ⟨hitem, hs⟩,
        by rw [hfiles, hfiles before, heq]⟩
    cases item with
    | file path => exact hcons nofun h fun _ => rfl
    | other path => exact hcons nofun h fun _ => rfl
    | skipped n => exact hcons nofun h fun _ => rfl
    | fault g =>
      cases h
      exact ⟨[], items, rfl, fun _ => List.not_mem_nil, rfl⟩

/-- Marks cut at the first that is a fault. -/
structure CutAtFault (marks before : List (List String × Item)) (ns : List String)
    (f : Failure) (after : List (List String × Item)) : Prop where
  eq : marks = before ++ (ns, .fault f) :: after
  smooth : ∀ m ∈ before, ∀ g, m.2 ≠ .fault g

/-- The marks before the first fault are those of the files that are met. -/
theorem Marked.exists_cut (hm : Marked fs home top root items marks) {f : Failure}
    (h : outcome items = .error f) :
    ∃ before ns after, CutAtFault marks before ns f after ∧
      files items = before.map (Path.descend root ·.1) ∧
      ∀ m ∈ before, FileRoute fs top m.1 := by
  obtain ⟨first, last, hitems, hs, hfiles⟩ := exists_first_fault h
  have heq := hm.items
  rw [hitems, List.filter_append, List.filter_cons_of_pos rfl] at heq
  obtain ⟨before, rest, hmarks, hbefore, hrest⟩ := List.map_eq_append_iff.1 heq.symm
  obtain ⟨⟨ns, item⟩, after, rfl, hitem, -⟩ := List.map_eq_cons_iff.1 hrest
  cases hitem
  have hstands : ∀ m ∈ before, Stands fs home top root m.1 m.2 := fun m hmem =>
    hm.stands m (hmarks ▸ List.mem_append_left _ hmem)
  obtain ⟨hmet, hroutes⟩ := files_of_marks hs hbefore.symm hstands
  refine ⟨before, ns, after, ⟨hmarks, fun m hmem g hg => ?_⟩, hfiles.trans hmet, hroutes⟩
  have hin : m.2 ∈ first.filter Item.isMarked := hbefore ▸ List.mem_map_of_mem hmem
  rw [hg] at hin
  exact hs g (List.mem_filter.1 hin).1

/-- The walk below a root comes to its end at an entry: something is there that cannot be seen,
    and no such entry comes before it in the order of routes. -/
structure EndsAt (fs : FileSystem) (home top : Location) (root : String) (ns : List String)
    (e : FileError) : Prop where
  unseen : Unseen fs home top root ns e
  present : e ≠ .notFound
  first : ∀ ms e', Unseen fs home top root ms e' → e' ≠ .notFound → ms = ns ∨ RouteLt ns ms

section Cut

variable {before after : List (List String × Item)} {ns : List String} {f : Failure}
  (hm : Marked fs home top root items marks) (hcut : CutAtFault marks before ns f after)
include hm hcut

theorem CutAtFault.lt_of_before {m : List String × Item} (h : m ∈ before) : RouteLt m.1 ns := by
  have hord := hm.ordered
  rw [hcut.eq, List.pairwise_append] at hord
  exact hord.2.2 m h _ (List.mem_cons_self ..)

theorem CutAtFault.lt_of_after {m : List String × Item} (h : m ∈ after) : RouteLt ns m.1 := by
  have hord := hm.ordered
  rw [hcut.eq, List.pairwise_append, List.pairwise_cons] at hord
  exact hord.2.1.1 m h

variable (hne : root ≠ "")
include hne

/-- No fault stands before the first. -/
theorem CutAtFault.le_of_fault {ks : List String} {e : FileError} (hks : ks ≠ [])
    (hnames : ∀ n ∈ ks, isName n = true)
    (hmem : Item.fault (.walk root (Path.descend root ks) e) ∈ items) :
    ks = ns ∨ RouteLt ns ks := by
  obtain ⟨ms, e', hmark, hu, -, heq⟩ := hm.exists_of_fault hmem
  simp only [Failure.walk.injEq, true_and] at heq
  obtain rfl : ks = ms :=
    Path.descend_inj hne hks (ne_nil_of_unseen hu) hnames (isName_of_unseen hu) heq.1
  rw [hcut.eq, List.mem_append, List.mem_cons] at hmark
  rcases hmark with hmark | hmark | hmark
  · exact absurd rfl (hcut.smooth _ hmark _)
  · cases hmark
    exact Or.inl rfl
  · exact Or.inr (hcut.lt_of_after hm hmark)

/-- A route before the first fault has no fault on it. -/
theorem CutAtFault.clear {ms : List String} (hnames : ∀ n ∈ ms, isName n = true)
    (hlt : RouteLt ms ns) : Clear root items ms := by
  intro ks e hks hpre hmem
  rcases hcut.le_of_fault hm hne hks (fun n hn => hnames n (hpre.subset hn)) hmem with rfl | h
  · exact hlt.not_start hpre
  · exact (hlt.trans h).not_start hpre

variable (h : Tour fs home root (.enter [] root) items) (hres : fs.resolve home root = .ok top)
  (htop : fs.node? top = some .directory)
include h hres htop

/-- The first fault stands at the first entry that cannot be seen. -/
theorem CutAtFault.endsAt :
    ∃ e, EndsAt fs home top root ns e ∧ f = .walk root (Path.descend root ns) e := by
  have hstand : Stands fs home top root ns (.fault f) :=
    hm.stands (ns, .fault f) (hcut.eq ▸ List.mem_append_right _ (List.mem_cons_self ..))
  cases hstand with
  | @fault e hu he =>
    refine ⟨e, ⟨hu, he, fun ms e' hu' he' => ?_⟩, rfl⟩
    have hnames := isName_of_unseen hu'
    -- The entry is met unless a fault on the way to it is met first.
    by_cases hclear : Clear root items ms.dropLast
    · have hmem := mem_of_unseen h hres htop hu' hclear
      rw [unseen_eq_fault he'] at hmem
      exact hcut.le_of_fault hm hne (ne_nil_of_unseen hu') hnames hmem
    · obtain ⟨ks, e'', hks, hpre, hmem⟩ := exists_of_not_clear hclear
      have hpre' : ks <+: ms := hpre.trans <| List.dropLast_prefix ms
      rcases hcut.le_of_fault hm hne hks (fun n hn => hnames n (hpre'.subset hn)) hmem with
        rfl | hlt
      · by_cases heq : ms = ks
        · exact Or.inl heq
        · exact Or.inr (routeLt_of_start hpre' (Ne.symm heq))
      · exact Or.inr (hlt.extend hpre')

/-- Every file that comes before the first fault is met before it. -/
theorem CutAtFault.mem_of_lt {ms : List String} (hroute : FileRoute fs top ms)
    (hlt : RouteLt ms ns) : ms ∈ before.map Prod.fst := by
  have hclear := hcut.clear hm hne (isName_of_fileRoute hroute) hlt
  obtain ⟨ks, hmark, hroute', heq⟩ :=
    hm.exists_of_file (mem_of_fileRoute h hres htop hroute hclear)
  obtain rfl : ms = ks := fileRoute_unique hne hroute hroute' heq
  rw [hcut.eq, List.mem_append, List.mem_cons] at hmark
  rcases hmark with hmark | hmark | hmark
  · exact List.mem_map_of_mem hmark
  · cases hmark
  · exact absurd (List.prefix_refl _) (hlt.trans (hcut.lt_of_after hm hmark)).not_start

end Cut

/-- Where a tour is ended by a fault, that is the first entry which cannot be seen, and the files
    that have been met are those whose routes come before it. -/
theorem exists_endsAt (hres : fs.resolve home root = .ok top)
    (htop : fs.node? top = some .directory) (h : Tour fs home root (.enter [] root) items)
    {f : Failure} (hout : outcome items = .error f) :
    ∃ ns e, EndsAt fs home top root ns e ∧ f = .walk root (Path.descend root ns) e ∧
      ∃ routes : List (List String), files items = routes.map (Path.descend root) ∧
        (∀ ms, ms ∈ routes ↔ FileRoute fs top ms ∧ RouteLt ms ns) ∧
        routes.Pairwise RouteLt := by
  have hne := ne_empty_of_resolve hres
  obtain ⟨marks, hm⟩ := exists_marks hres htop h
  obtain ⟨before, ns, after, hcut, hfiles, hroutes⟩ := hm.exists_cut hout
  obtain ⟨e, hends, hf⟩ := hcut.endsAt hm hne h hres htop
  refine ⟨ns, e, hends, hf, before.map Prod.fst, ?_, fun ms => ⟨fun hms => ?_, ?_⟩, ?_⟩
  · rw [hfiles, List.map_map]
    rfl
  · obtain ⟨m, hmem, rfl⟩ := List.mem_map.1 hms
    exact ⟨hroutes m hmem, hcut.lt_of_before hm hmem⟩
  · rintro ⟨hroute, hlt⟩
    exact hcut.mem_of_lt hm hne h hres htop hroute hlt
  · exact List.pairwise_map.2 (List.pairwise_append.1 (hcut.eq ▸ hm.ordered)).1

/-- The paths are those of the files with the extension that come before an entry, in the order of
    their routes. -/
def MetBefore (fs : FileSystem) (top : Location) (root ext : String) (ns : List String)
    (ps : List String) : Prop :=
  ∃ routes : List (List String), ps = routes.map (Path.descend root) ∧
    (∀ ms, ms ∈ routes ↔ FileRoute fs top ms ∧
      Path.hasExtension (Path.descend root ms) ext = true ∧ RouteLt ms ns) ∧
    routes.Pairwise RouteLt

/-- How a tour of something that is there ends, and what has been met by then. -/
theorem ends_of_visitTour (h : VisitTour fs home root items) {n : Node}
    (hlook : fs.look home root = .ok n) (ext : String) :
    outcome items = .ok () ∨ n = .directory ∧ ∃ top ns e, fs.resolve home root = .ok top ∧
      EndsAt fs home top root ns e ∧
      outcome items = .error (.walk root (Path.descend root ns) e) ∧
      MetBefore fs top root ext ns ((files items).filter (Path.hasExtension · ext)) := by
  unfold VisitTour at h
  simp only [hlook] at h
  cases n with
  | directory =>
    simp only at h
    split at h
    · rw [h]
      exact Or.inl rfl
    · cases hout : outcome items with
      | ok u => exact Or.inl rfl
      | error f =>
        obtain ⟨top, hres, htop⟩ := look_eq_ok.1 hlook
        obtain ⟨ns, e, hends, rfl, routes, hfiles, hroutes, hord⟩ := exists_endsAt hres htop h hout
        refine Or.inr ⟨rfl, top, ns, e, hres, hends, rfl, routes.filter fun ms =>
          Path.hasExtension (Path.descend root ms) ext, ?_, fun ms => ?_, hord.filter _⟩
        · rw [hfiles, List.filter_map]
          rfl
        · rw [List.mem_filter, hroutes, and_assoc, and_comm (b := _ = true)]
  | file content =>
    simp only at h
    rw [h]
    exact Or.inl rfl
  | link target =>
    simp only at h
    rw [h]
    exact Or.inl rfl
  | device =>
    simp only at h
    rw [h]
    exact Or.inl rfl

end Walk

open Walk

section Visit

variable {σ τ γ : Type} {w : Watcher σ} {v : Watcher τ} {context : σ → γ}
  {call : String → γ → Except Failure Unit × γ} {home : Location} {root ext : String}
  {s s' : σ} {t t' : τ} {o r : Except Failure Unit} {ps qs : List String}

/-- **A visit makes its calls in turn.** Take the paths that a watcher is called with who never
    fails. Any other watcher is called with these paths in the same order, each time in the
    context that the call before has left, up to the first call that fails; the visit then ends
    with the failure of that call. If no call fails the visit ends as it does for the other one,
    and the extension has no say in that. Where there is nothing at the root, it ends before any
    call. Where there is something, it ends well, or below a directory at the first entry that
    it cannot see, after exactly the files whose routes come before that entry. -/
theorem visit_calls_in_turn (hw : w.KeepsShape) (hc : w.Calls context call)
    (hv : v.KeepsShape) (hnever : ∀ path t, (v.meet path t).1 = .ok ())
    (hs : (w.files s).SameShape (v.files t))
    (hall : visit v.recording home root ext (t, []) = (o, (t', ps)))
    (hvisit : visit w.recording home root ext (s, []) = (r, (s', qs))) :
    InTurn call ps o (context s) qs r (context s') ∧
    (∀ ext', (visit v home root ext' t).1 = o) ∧
    (∀ cause, (w.files s).look home root = .error cause →
      r = .error (.file root .missingEntity) ∧ qs = [] ∧ s' = s) ∧
    (∀ n, (w.files s).look home root = .ok n → o = .ok () ∨
      n = .directory ∧ ∃ top ns e, (w.files s).resolve home root = .ok top ∧
        EndsAt (w.files s) home top root ns e ∧
        o = .error (.walk root (Path.descend root ns) e) ∧
        MetBefore (w.files s) top root ext ns ps) := by
  obtain ⟨items, htour, -⟩ := exists_visitTour (w.files s) home root
  rw [visit_eq_replay hw.recording htour ext (s, []) (SameShape.refl _)] at hvisit
  rw [visit_eq_replay hv.recording htour ext (t, []) hs] at hall
  obtain ⟨rfl, rfl⟩ := replay_never hnever ext hall
  refine ⟨?_, fun ext' => ?_, fun cause hlook => ?_, fun n hlook => ?_⟩
  · obtain ⟨called, hcalled, hturn⟩ := replay_inTurn hc ext hvisit
    rw [List.nil_append] at hcalled
    rwa [hcalled]
  · rw [visit_eq_replay hv htour ext' t hs, replay_outcome hnever]
  · unfold VisitTour at htour
    simp only [hlook] at htour
    rw [htour] at hvisit
    cases hvisit
    exact ⟨rfl, rfl, rfl⟩
  · exact ends_of_visitTour htour hlook ext

/-- A directory with two texts, a link through the first of them and another text. -/
def barred : FileSystem :=
  ⟨[(["d"], .directory), (["d", "a.py"], .file []), (["d", "b.py"], .file []),
    (["d", "c"], .link "a.py/x"), (["d", "e.py"], .file [])], by decide, by decide⟩

/-- Without anybody who fails, it is the link that ends the visit. -/
theorem visit_barred : visit Watcher.idle.recording [] "d" ".py" (barred, []) =
    (.error (.walk "d" "d/c" .notDirectory), (barred, ["d/a.py", "d/b.py"])) := by
  have hres : barred.resolve [] "d" = .ok ["d"] := by decide
  have hopen : barred.openDirectory [] "d" = .ok (["d"], [("a.py", .file []), ("b.py", .file []),
      ("c", .link "a.py/x"), ("e.py", .file [])]) :=
    openDirectory_of_sorted hres (by decide) (by decide) (by decide) (by decide)
  have hc : barred.resolve [] (Path.join "d" "c") = .error .notDirectory := by decide
  have hgc : glance barred [] "d" [⟨"d", ["d"]⟩] (Path.join "d" "c") (.link "a.py/x") =
      some (.fault (.walk "d" "d/c" .notDirectory)) := by
    simp only [glance, hc]
    rfl
  have htour : Tour barred [] "d" (.enter [] "d") _ :=
    .opened hopen (.passed rfl (.passed rfl (.passed hgc (.passed rfl .done))))
  exact visit_idle_of_tour hres (by decide) (by decide) htour rfl (by decide +kernel)

/-- A call that counts, and fails when it is the second. -/
def failSecond (path : String) (n : Nat) : Except Failure Unit × Nat :=
  (if n = 1 then .error (.gaveUp ("stop at " ++ path)) else .ok (), n + 1)

/-- A watcher that makes these calls. -/
def impatient : Watcher (FileSystem × Nat) where
  files := Prod.fst
  tell := fun _ s => s
  meet := fun path s => ((failSecond path s.2).1, (s.1, (failSecond path s.2).2))

/-- The second call ends the visit with its own failure, before the link can. -/
theorem visit_calls_in_turn_barred :
    ∃ s', visit impatient.recording [] "d" ".py" ((barred, 0), []) =
        (.error (.gaveUp "stop at d/b.py"), (s', ["d/a.py", "d/b.py"])) ∧ s'.2 = 2 := by
  have hw : impatient.KeepsShape := ⟨fun _ _ => SameShape.refl _, fun _ _ => SameShape.refl _⟩
  have hc : impatient.Calls Prod.snd failSecond := ⟨fun _ _ => rfl, fun _ _ => rfl⟩
  rcases hvisit : visit impatient.recording [] "d" ".py" ((barred, 0), []) with ⟨r, s', qs⟩
  obtain ⟨hturn, -⟩ := visit_calls_in_turn hw hc Watcher.idle_keepsShape (fun _ _ => rfl)
    (s := (barred, 0)) (t := barred) (SameShape.refl barred) visit_barred hvisit
  generalize hn : s'.2 = n at hturn
  cases hturn with
  | all hcalled =>
    -- The second call fails.
    cases hcalled with
    | cons h₁ hrest =>
      cases h₁
      cases hrest with
      | cons h₂ => cases h₂
  | @stopped before after path _ _ f hps hcalled hfail =>
    match before, hps, hcalled with
    | [], hps, .nil =>
      cases hps
      cases hfail
    | [_], hps, .cons h₁ .nil =>
      cases hps
      cases h₁
      cases hfail
      exact ⟨s', rfl, hn⟩
    | _ :: _ :: before, hps, _ =>
      have hlen := congrArg List.length hps
      simp at hlen

end Visit

end SourceTidy
