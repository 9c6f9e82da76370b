/-
  One directory under several paths. What a visit takes are the routes of the directory, and
  they do not depend on how the directory is spelled (`exists_routes`); only what stands in
  front of them does. So all visits of a directory that succeed come to the same relative
  paths, each behind the visit's own root (`visit_respells`). A root that is one dash is the
  exception: there nothing is met.
-/
import Mathlib.Data.List.Sort
import SourceTidy.Proofs.Visits

namespace SourceTidy

open FileSystem Walk

namespace Path

/-! ## Relative paths -/

theorem getLast?_join_eq {dir name : String} (hname : name ≠ "") :
    (join dir name).toList.getLast? = name.toList.getLast? := by
  have hne : name.toList ≠ [] := by simpa using hname
  unfold join
  split
  · rfl
  · split
    · rw [String.toList_append, List.getLast?_append_of_ne_nil _ hne]
    · rw [String.toList_append, List.getLast?_append_of_ne_nil _ hne]

/-- What stands in front of a path has no say in how the path goes on. -/
theorem join_assoc {dir mid : String} (hdir : dir ≠ "") (hmid : mid ≠ "") (name : String) :
    join (join dir mid) name = join dir (join mid name) := by
  have hlast : (join dir mid).toList.getLast? = mid.toList.getLast? := getLast?_join_eq hmid
  by_cases hslash : mid.toList.getLast? = some '/'
  · rw [join_of_slash name (hlast.trans hslash), join_of_slash name hslash]
    by_cases hd : dir.toList.getLast? = some '/'
    · rw [join_of_slash _ hd, join_of_slash _ hd, String.append_assoc]
    · rw [join_of_not_slash _ hdir hd, join_of_not_slash _ hdir hd, String.append_assoc]
  · rw [join_of_not_slash name (join_ne_empty mid hdir) (hlast ▸ hslash),
      join_of_not_slash name hmid hslash]
    by_cases hd : dir.toList.getLast? = some '/'
    · rw [join_of_slash _ hd, join_of_slash _ hd, String.append_assoc, String.append_assoc,
        String.append_assoc]
    · rw [join_of_not_slash _ hdir hd, join_of_not_slash _ hdir hd]
      simp only [String.append_assoc]

/-- The path of a route is its root, and then the route. -/
theorem descend_eq_join {root : String} (hne : root ≠ "") {ns : List String} (hns : ns ≠ [])
    (hnames : ∀ n ∈ ns, isName n = true) : descend root ns = join root (descend "" ns) := by
  induction ns using List.reverseRecOn with
  | nil => exact absurd rfl hns
  | append_singleton ns n ih =>
    rw [descend_concat, descend_concat]
    cases ns with
    | nil => rfl
    | cons m ns =>
      have hfront : ∀ k ∈ m :: ns, isName k = true :=
        fun k hk => hnames k (List.mem_append_left _ hk)
      have hm : m ≠ "" := (isName_iff.1 (hfront m (List.mem_cons_self ..))).1
      have hrel : descend "" (m :: ns) ≠ "" := descend_ne_empty hm ns
      rw [ih (by simp) hfront, join_assoc hne hrel]

end Path

section Visit

variable {σ : Type} {w : Watcher σ} {top : Location} {s : σ}

theorem hasExtension_descend {fs : FileSystem} {a b : String} (ha : a ≠ "") (hb : b ≠ "")
    {ns : List String} (h : FileRoute fs top ns) (ext : String) :
    Path.hasExtension (Path.descend a ns) ext = Path.hasExtension (Path.descend b ns) ext := by
  have hnames := isName_of_fileRoute h
  cases h with
  | @file ns name =>
    have hname := hnames name (by simp)
    rw [Path.descend_concat, Path.descend_concat,
      Path.hasExtension_join (Path.descend_ne_empty ha ns) hname,
      Path.hasExtension_join (Path.descend_ne_empty hb ns) hname]

/-- The routes that a visit takes are those of its directory, however that is spelled. -/
theorem exists_routes (hw : w.KeepsShape) (htop : (w.files s).node? top = some .directory)
    (ext : String) :
    ∃ routes : List (List String), (∀ ns ∈ routes, FileRoute (w.files s) top ns) ∧
      ∀ (home : Location) (root : String) (s' : σ) (ps : List String),
        (w.files s).resolve home root = .ok top →
        visit w.recording home root ext (s, []) = (.ok (), (s', ps)) →
        ps = if Path.isDash root then [] else routes.map (Path.descend root) := by
  have hdashed : ∀ {home : Location} {root : String} {s' : σ} {ps : List String},
      (w.files s).resolve home root = .ok top → Path.isDash root = true →
      visit w.recording home root ext (s, []) = (.ok (), (s', ps)) → ps = [] := by
    intro home root s' ps hres hdash h
    rw [visit_isDash (w := w.recording) (s := (s, [])) hres htop hdash] at h
    cases h
    rfl
  by_cases hsome : ∃ (home : Location) (root : String) (s' : σ) (ps : List String),
      (w.files s).resolve home root = .ok top ∧ ¬Path.isDash root ∧
        visit w.recording home root ext (s, []) = (.ok (), (s', ps))
  · obtain ⟨home, root, s', ps, hres, hdash, h⟩ := hsome
    obtain ⟨routes, -, hmem, hord⟩ := routes_of_visit hw hres htop hdash h
    refine ⟨routes, fun ns hns => ((hmem ns).1 hns).1, ?_⟩
    intro home' root' s'' ps' hres' h'
    split
    · next hdash' => exact hdashed hres' hdash' h'
    · next hdash' =>
      obtain ⟨routes', hps', hmem', hord'⟩ := routes_of_visit hw hres' htop hdash' h'
      -- Both lists hold the same routes, and there is but one order for them.
      have hsame : routes' = routes := by
        refine hord'.eq_of_mem_iff hord fun ns => ?_
        rw [hmem, hmem']
        refine and_congr_right fun hroute => ?_
        rw [hasExtension_descend (ne_empty_of_resolve hres') (ne_empty_of_resolve hres) hroute]
      rw [hps', hsame]
  · refine ⟨[], List.forall_mem_nil _, ?_⟩
    intro home root s' ps hres h
    split
    · next hdash => exact hdashed hres hdash h
    · next hdash => exact absurd ⟨home, root, s', ps, hres, hdash, h⟩ hsome

/-- **How a directory is spelled only changes what stands in front.** Whatever path leads to a
    directory, and from wherever: if the visit succeeds, it comes to the same relative paths in
    the same order, each put behind that path with a slash between them unless it ends in one.
    A path that is one dash is taken for the standard input, and nothing is met. -/
theorem visit_respells (hw : w.KeepsShape) (htop : (w.files s).node? top = some .directory)
    (ext : String) :
    ∃ rels : List String, ∀ (home : Location) (root : String) (s' : σ) (ps : List String),
      (w.files s).resolve home root = .ok top →
      visit w.recording home root ext (s, []) = (.ok (), (s', ps)) →
      ps = if Path.isDash root then [] else rels.map (Path.join root) := by
  obtain ⟨routes, hroutes, hvisits⟩ := exists_routes hw htop ext
  refine ⟨routes.map (Path.descend ""), fun home root s' ps hres h => ?_⟩
  have hjoin : routes.map (Path.descend root) =
      (routes.map (Path.descend "")).map (Path.join root) := by
    rw [List.map_map]
    refine List.map_congr_left fun ns hns => ?_
    have hroute := hroutes ns hns
    exact Path.descend_eq_join (ne_empty_of_resolve hres) (fileRoute_ne_nil hroute)
      (isName_of_fileRoute hroute)
  rw [← hjoin]
  exact hvisits home root s' ps hres h

/-- By other paths, the file in the directory called one dash is met. -/
theorem visit_dashed_spelled {root : String} (hres : dashed.resolve [] root = .ok ["-"])
    (hdash : ¬Path.isDash root) :
    visit Watcher.idle.recording [] root ".py" (dashed, []) =
      (.ok (), (dashed, [Path.join root "a.py"])) :=
  visit_single hres (by decide) hdash (by decide) rfl (by decide)

theorem visit_respells_dashed :
    ∃ rels : List String, ["./-/a.py"] = rels.map (Path.join "./-") ∧
      ["-/.././-//a.py"] = rels.map (Path.join "-/.././-//") ∧
      [] = if Path.isDash "-/." then [] else rels.map (Path.join "-/.") := by
  have htop : dashed.node? ["-"] = some .directory := by decide
  obtain ⟨rels, hrels⟩ := visit_respells (w := Watcher.idle) (s := dashed)
    Watcher.idle_keepsShape htop ".py"
  have hpoint : dashed.resolve [] "./-" = .ok ["-"] := by decide
  have hback : dashed.resolve [] "-/.././-//" = .ok ["-"] := by decide
  have hdash : dashed.resolve [] "-/." = .ok ["-"] := by decide
  exact ⟨rels, hrels [] "./-" dashed _ hpoint (visit_dashed_spelled hpoint (by decide)),
    hrels [] "-/.././-//" dashed _ hback (visit_dashed_spelled hback (by decide)),
    hrels [] "-/." dashed _ hdash
      (visit_isDash (w := Watcher.idle.recording) (s := (dashed, [])) hdash (by decide)
        (by decide))⟩

/-- Two spellings of one directory, both visited with success, and no relative paths that they
    have in common. -/
theorem visit_dashed_respelled :
    dashed.resolve [] "-" = .ok ["-"] ∧ dashed.resolve [] "./-" = .ok ["-"] ∧
      visit Watcher.idle.recording [] "-" ".py" (dashed, []) = (.ok (), (dashed, [])) ∧
      visit Watcher.idle.recording [] "./-" ".py" (dashed, []) =
        (.ok (), (dashed, ["./-/a.py"])) ∧
      ¬∃ rels : List String, [] = rels.map (Path.join "-") ∧
        ["./-/a.py"] = rels.map (Path.join "./-") := by
  have hdash : dashed.resolve [] "-" = .ok ["-"] := by decide
  have hpoint : dashed.resolve [] "./-" = .ok ["-"] := by decide
  refine ⟨hdash, hpoint, ?_, visit_dashed_spelled hpoint (by decide), ?_⟩
  · exact visit_isDash (w := Watcher.idle.recording) (s := (dashed, [])) hdash (by decide)
      (by decide)
  · rintro ⟨rels, hnone, hone⟩
    rw [eq_comm, List.map_eq_nil_iff] at hnone
    rw [hnone] at hone
    cases hone

end Visit

end SourceTidy
