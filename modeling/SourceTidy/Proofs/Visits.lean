/-
  Which paths a visit calls its watcher with. They are the paths of the file routes of the
  directory at the root that have the extension, all of them, each once, and in the order of
  the routes (`visit_meets_routes`). Links back that are left out lose nothing: whatever
  directory can be reached at all is reached by some route (`visit_misses_no_file`). All this
  is not so where the root is one dash: there nothing is met (`visit_isDash`).
-/
import SourceTidy.Proofs.Routes
import SourceTidy.Proofs.Termination

namespace SourceTidy

open FileSystem Walk

section Visit

variable {σ : Type} {w : Watcher σ} {home top : Location} {root ext : String} {s s' : σ}
  {ps : List String}

/-- A visit of a directory that succeeds has taken a smooth tour of it. -/
theorem tour_of_visit (hw : w.KeepsShape) (hres : (w.files s).resolve home root = .ok top)
    (htop : (w.files s).node? top = some .directory) (hdash : ¬Path.isDash root)
    (h : visit w.recording home root ext (s, []) = (.ok (), (s', ps))) :
    ∃ items, Tour (w.files s) home root (.enter [] root) items ∧ Smooth items ∧
      ps = (files items).filter (Path.hasExtension · ext) := by
  obtain ⟨items, htour, -⟩ := exists_visitTour (w.files s) home root
  rw [visit_eq_replay hw.recording htour ext (s, []) (SameShape.refl _)] at h
  obtain ⟨hs, hps⟩ := replay_recording_ok h
  exact ⟨items, (visitTour_directory hres htop hdash).1 htour, hs, hps⟩

/-! ## Every file route, in order -/

instance : Std.Asymm NameLt := ⟨fun _ _ h h' => List.lt_asymm h h'⟩

instance : Std.Asymm RouteLt := inferInstanceAs (Std.Asymm (List.Lex NameLt))

/-- The paths that a visit calls its watcher with are those of some routes. -/
theorem routes_of_visit (hw : w.KeepsShape)
    (hres : (w.files s).resolve home root = .ok top)
    (htop : (w.files s).node? top = some .directory) (hdash : ¬Path.isDash root)
    (h : visit w.recording home root ext (s, []) = (.ok (), (s', ps))) :
    ∃ routes : List (List String), ps = routes.map (Path.descend root) ∧
      (∀ ns, ns ∈ routes ↔ FileRoute (w.files s) top ns ∧
        Path.hasExtension (Path.descend root ns) ext = true) ∧
      routes.Pairwise RouteLt := by
  obtain ⟨items, htour, hs, hps⟩ := tour_of_visit hw hres htop hdash h
  obtain ⟨marks, hmarks⟩ := exists_marks hres htop htour
  obtain ⟨hfiles, hroutes⟩ := files_of_marks hs hmarks.items hmarks.stands
  have hne := ne_empty_of_resolve hres
  have hmem : ∀ ns, ns ∈ marks.map Prod.fst ↔ FileRoute (w.files s) top ns := by
    intro ns
    constructor
    · intro hns
      obtain ⟨m, hm, rfl⟩ := List.mem_map.1 hns
      exact hroutes m hm
    · intro hns
      have hp := mem_files_of_fileRoute htour hs hres htop hns
      rw [hfiles] at hp
      obtain ⟨m, hm, heq⟩ := List.mem_map.1 hp
      exact List.mem_map.2 ⟨m, hm, fileRoute_unique hne (hroutes m hm) hns heq⟩
  refine ⟨(marks.map Prod.fst).filter fun ns => Path.hasExtension (Path.descend root ns) ext,
    ?_, ?_, ?_⟩
  · rw [hps, hfiles, List.filter_map, List.filter_map, List.map_map]
    rfl
  · intro ns
    rw [List.mem_filter, hmem]
  · exact (List.pairwise_map.2 hmarks.ordered).filter _

/-- **A visit takes every file route, and in order**: the paths that it calls its watcher with
    are those of the routes that end at a file and have the extension. Each comes once, and
    they come in the order of the bytes of their names, the first names first. The names
    themselves do not matter: no entry is left out for the way it is called. -/
theorem visit_meets_routes (hw : w.KeepsShape)
    (hres : (w.files s).resolve home root = .ok top)
    (htop : (w.files s).node? top = some .directory) (hdash : ¬Path.isDash root)
    (h : visit w.recording home root ext (s, []) = (.ok (), (s', ps))) :
    ∃ routes : List (List String), ps = routes.map (Path.descend root) ∧
      (∀ ns, ns ∈ routes ↔ FileRoute (w.files s) top ns ∧
        Path.hasExtension (Path.descend root ns) ext = true) ∧
      routes.Pairwise RouteLt ∧ ps.Nodup := by
  obtain ⟨routes, hps, hmem, hord⟩ := routes_of_visit hw hres htop hdash h
  refine ⟨routes, hps, hmem, hord, ?_⟩
  rw [hps]
  unfold List.Nodup
  rw [List.pairwise_map]
  refine hord.imp_of_mem ?_
  intro ns ms hns hms hlt heq
  have hsame : ns = ms := fileRoute_unique (ne_empty_of_resolve hres) ((hmem ns).1 hns).1
    ((hmem ms).1 hms).1 heq
  rw [hsame] at hlt
  exact Std.Asymm.asymm ms ms hlt hlt

/-- A directory with a link to the directory that it is in. -/
def tangled : FileSystem :=
  ⟨[(["d"], .directory), (["d", "a"], .directory), (["d", "a", "x.py"], .file []),
    (["d", "a.py"], .file []), (["d", "up"], .link "..")], by decide, by decide⟩

/-- The walk comes out through the link and back in by a plain entry, once. -/
theorem visit_tangled :
    visit Watcher.idle.recording [] "d" "py" (tangled, []) =
      (.ok (), (tangled, ["d/a/x.py", "d/a.py", "d/up/d/a/x.py", "d/up/d/a.py"])) := by
  have hopenTop : tangled.openDirectory [] (Path.join "d" "up") =
      .ok ([], [("d", .directory)]) :=
    openDirectory_of_sorted (by decide) rfl (by decide) (by decide) (by decide)
  have hopenD : ∀ path, tangled.resolve [] path = .ok ["d"] → tangled.openDirectory [] path =
      .ok (["d"], [("a", .directory), ("a.py", .file []), ("up", .link "..")]) := by
    intro path hpath
    exact openDirectory_of_sorted hpath (by decide) (by decide) (by decide) (by decide)
  have hopenA : ∀ path, tangled.resolve [] path = .ok ["d", "a"] →
      tangled.openDirectory [] path = .ok (["d", "a"], [("x.py", .file [])]) := by
    intro path hpath
    exact openDirectory_of_sorted hpath (by decide) (by decide) (by decide) (by decide)
  have hup : glance tangled [] "d" [⟨"d", ["d"]⟩] (Path.join "d" "up") (.link "..") = none := by
    have hres : tangled.resolve [] (Path.join "d" "up") = .ok [] := by decide
    simp only [glance, hres]
    rfl
  have hloop : glance tangled [] "d"
      [⟨Path.join (Path.join "d" "up") "d", ["d"]⟩, ⟨Path.join "d" "up", []⟩, ⟨"d", ["d"]⟩]
      (Path.join (Path.join (Path.join "d" "up") "d") "up") (.link "..") =
      some (.skipped (loopNote (Path.join (Path.join (Path.join "d" "up") "d") "up")
        ⟨Path.join "d" "up", []⟩)) := by
    have hres : tangled.resolve [] (Path.join (Path.join (Path.join "d" "up") "d") "up") =
        .ok [] := by decide +kernel
    simp only [glance, hres]
    rfl
  have hinner : Tour tangled [] "d" (.enter [⟨Path.join "d" "up", []⟩, ⟨"d", ["d"]⟩]
      (Path.join (Path.join "d" "up") "d")) _ :=
    .opened (hopenD (Path.join (Path.join "d" "up") "d") (by decide +kernel))
      (.entered rfl (.opened (hopenA (Path.join (Path.join (Path.join "d" "up") "d") "a")
        (by decide +kernel)) (.passed rfl .done)) (.passed rfl (.passed hloop .done)))
  have htour : Tour tangled [] "d" (.enter [] "d") _ :=
    .opened (hopenD "d" (by decide))
      (.entered rfl (.opened (hopenA (Path.join "d" "a") (by decide)) (.passed rfl .done))
        (.passed rfl (.entered hup (.opened hopenTop (.entered rfl hinner .done)) .done)))
  have hres : tangled.resolve [] "d" = .ok ["d"] := by decide
  exact visit_idle_of_tour hres (by decide) (by decide) htour rfl (by decide +kernel)

theorem visit_meets_routes_tangled :
    ∃ routes : List (List String),
      ["d/a/x.py", "d/a.py", "d/up/d/a/x.py", "d/up/d/a.py"] =
        routes.map (Path.descend "d") ∧
      (∀ ns, ns ∈ routes ↔ FileRoute tangled ["d"] ns ∧
        Path.hasExtension (Path.descend "d" ns) "py" = true) ∧
      routes.Pairwise RouteLt ∧
      ["d/a/x.py", "d/a.py", "d/up/d/a/x.py", "d/up/d/a.py"].Nodup :=
  visit_meets_routes (s := tangled) Watcher.idle_keepsShape (by decide) rfl (by decide)
    visit_tangled

/-! ## One dash -/

/-- Where the path of a directory is one dash, nothing is met. -/
theorem visit_isDash (hres : (w.files s).resolve home root = .ok top)
    (htop : (w.files s).node? top = some .directory) (hdash : Path.isDash root = true) :
    visit w home root ext s = (.ok (), s) := by
  have hlook : (w.files s).look home root = .ok .directory := look_eq_ok.2 ⟨top, hres, htop⟩
  unfold visit
  rw [hlook]
  exact if_pos hdash

/-- By any other path, the one file of a directory is met. -/
theorem visit_single {fs : FileSystem} {name : String} {content : Text.Bytes}
    (hres : fs.resolve home root = .ok top) (htop : fs.node? top = some .directory)
    (hdash : ¬Path.isDash root)
    (hnames : (fs.entries.filterMap fun e => nameIn? top e.1) = [name])
    (hfile : fs.node? (top ++ [name]) = some (.file content))
    (hext : Path.hasExtension name ext = true) :
    visit Watcher.idle.recording home root ext (fs, []) =
      (.ok (), (fs, [Path.join root name])) := by
  have hopen : fs.openDirectory home root = .ok (top, [(name, .file content)]) :=
    openDirectory_of_sorted hres htop hnames (List.pairwise_singleton _ _)
      (List.forall_mem_singleton.2 hfile)
  have htour : Tour fs home root (.enter [] root) _ := .opened hopen (.passed rfl .done)
  refine visit_idle_of_tour hres htop hdash htour rfl ?_
  have hjoin : Path.hasExtension (Path.join root name) ext = true := by
    rwa [Path.hasExtension_join (ne_empty_of_resolve hres) (isName_of_node? hfile)]
  simp only [files, List.filter_cons, hjoin, if_true, List.filter_nil]

/-- A directory that is called one dash, with a file in it. -/
def dashed : FileSystem :=
  ⟨[(["-"], .directory), (["-", "a.py"], .file [])], by decide, by decide⟩

theorem visit_dashed : visit Watcher.idle.recording [] "-/" ".py" (dashed, []) =
    (.ok (), (dashed, [])) :=
  have hres : dashed.resolve [] "-/" = .ok ["-"] := by decide
  visit_isDash (w := Watcher.idle.recording) (s := (dashed, [])) hres (by decide) (by decide)

theorem leads_dashed : dashed.Leads ["-"] "a.py" ["-", "a.py"] := ⟨by decide, 0, 0, by decide⟩

/-- With a slash behind it, the dash is no longer the text `-`, and still the one route is not
    taken. -/
theorem visit_dashed_takes_no_route :
    dashed.resolve [] "-/" = .ok ["-"] ∧ dashed.node? ["-"] = some .directory ∧
      FileRoute dashed ["-"] ["a.py"] ∧
      Path.hasExtension (Path.descend "-/" ["a.py"]) ".py" = true ∧
      visit Watcher.idle.recording [] "-/" ".py" (dashed, []) = (.ok (), (dashed, [])) :=
  ⟨by decide, by decide, FileRoute.file .top leads_dashed rfl, by decide, visit_dashed⟩

/-! ## No file is missed -/

/-- A directory can be reached from `top`, in any way at all: through entries that lead to
    directories, back and forth and as often as one likes. -/
inductive Reaches (fs : FileSystem) (top : Location) : Location → Prop where
  | top : Reaches fs top top
  | enter {here l : Location} {name : String} :
      Reaches fs top here → fs.Leads here name l → fs.node? l = some .directory →
      Reaches fs top l

/-- Wherever a route has been, some route ends. -/
theorem exists_descends_of_mem {fs : FileSystem} {ns : List String} {ls : List Location}
    (h : Descends fs top ns ls) {l : Location} (hl : l ∈ ls) :
    ∃ ns' above, Descends fs top ns' (l :: above) := by
  induction h with
  | top =>
    rw [List.mem_singleton.1 hl]
    exact ⟨[], [], .top⟩
  | @enter ns name here l' above hd hleads hld hback ih =>
    rcases List.mem_cons.1 hl with rfl | hl
    · exact ⟨_, _, .enter hd hleads hld hback⟩
    · exact ih hl

/-- What can be reached at all is reached by a route: where the next step would lead back, the
    route has been there already. -/
theorem exists_descends_of_reaches {fs : FileSystem} {dir : Location}
    (h : Reaches fs top dir) : ∃ ns above, Descends fs top ns (dir :: above) := by
  induction h with
  | top => exact ⟨[], [], .top⟩
  | @enter here l name _ hleads hld ih =>
    obtain ⟨ns, above, hd⟩ := ih
    by_cases hmem : l ∈ here :: above
    · exact exists_descends_of_mem hd hmem
    · exact ⟨_, _, .enter hd hleads hld fun _ => hmem⟩

/-- **A visit misses no file**: whatever directory can be reached from the root, and whatever
    entry of it leads to a file and has the extension, some path that the visit calls its
    watcher with is that of the entry, behind a path that leads to the directory. -/
theorem visit_misses_no_file (hw : w.KeepsShape)
    (hres : (w.files s).resolve home root = .ok top)
    (htop : (w.files s).node? top = some .directory) (hdash : ¬Path.isDash root)
    (h : visit w.recording home root ext (s, []) = (.ok (), (s', ps)))
    {dir l : Location} {name : String} {content : Text.Bytes}
    (hreach : Reaches (w.files s) top dir) (hleads : (w.files s).Leads dir name l)
    (hfile : (w.files s).node? l = some (.file content))
    (hext : Path.hasExtension name ext = true) :
    ∃ path, Path.join path name ∈ ps ∧ (w.files s).resolve home path = .ok dir := by
  obtain ⟨items, htour, hs, rfl⟩ := tour_of_visit hw hres htop hdash h
  obtain ⟨ns, above, hd⟩ := exists_descends_of_reaches hreach
  obtain ⟨as, here, items', hls, htour', -, hres'⟩ := tour_of_descends htour hs hres htop hd
  obtain ⟨rfl, -⟩ := List.cons.inj hls
  refine ⟨Path.descend root ns, ?_, hres'⟩
  have hmem := mem_files_of_fileRoute htour hs hres htop (.file hd hleads hfile)
  rw [Path.descend_concat] at hmem
  rw [List.mem_filter]
  refine ⟨hmem, ?_⟩
  rw [Path.hasExtension_join (ne_empty_of_resolve hres') (isName_of_leads hleads)]
  exact hext

/-- The directory `a` can also be reached round and round through the link. -/
theorem visit_misses_no_file_tangled :
    ∃ path, Path.join path "x.py" ∈ ["d/a/x.py", "d/a.py", "d/up/d/a/x.py", "d/up/d/a.py"] ∧
      tangled.resolve [] path = .ok ["d", "a"] :=
  have hup : tangled.Leads ["d"] "up" [] := ⟨by decide, 1, 0, by decide⟩
  have hd : tangled.Leads [] "d" ["d"] := ⟨by decide, 0, 0, by decide⟩
  have ha : tangled.Leads ["d"] "a" ["d", "a"] := ⟨by decide, 0, 0, by decide⟩
  have hx : tangled.Leads ["d", "a"] "x.py" ["d", "a", "x.py"] := ⟨by decide, 0, 0, by decide⟩
  have hround : Reaches tangled ["d"] ["d"] := .enter (.enter .top hup rfl) hd rfl
  have hreach : Reaches tangled ["d"] ["d"] := .enter (.enter hround hup rfl) hd rfl
  visit_misses_no_file (s := tangled) Watcher.idle_keepsShape (by decide) rfl (by decide)
    visit_tangled (.enter hreach ha rfl) hx rfl (by decide)

/-- The file in the directory called one dash is missed. -/
theorem visit_dashed_misses_file :
    dashed.resolve [] "-/" = .ok ["-"] ∧ Reaches dashed ["-"] ["-"] ∧
      dashed.Leads ["-"] "a.py" ["-", "a.py"] ∧ dashed.node? ["-", "a.py"] = some (.file []) ∧
      Path.hasExtension "a.py" ".py" = true ∧
      visit Watcher.idle.recording [] "-/" ".py" (dashed, []) = (.ok (), (dashed, [])) ∧
      ¬∃ path, Path.join path "a.py" ∈ ([] : List String) ∧ dashed.resolve [] path = .ok ["-"] :=
  ⟨by decide, .top, leads_dashed, by decide, by decide, visit_dashed, by simp⟩

end Visit

end SourceTidy
