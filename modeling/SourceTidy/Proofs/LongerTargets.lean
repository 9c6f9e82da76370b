/-
  What the check of headers reports where the target is named by a longer path. A header names
  the end of a path, so that a line that is a header for a path is one for every longer path
  with the same end (`isHeaderFor_append`). The walks of both spellings take the same routes,
  and a route leads to the same file (`readFirstLine_descend`). So nothing is reported under
  the longer name that is not reported under the shorter one (`header_findings_shrink`).
-/
import SourceTidy.Proofs.HeaderFindings
import SourceTidy.Proofs.SingleTargets
import SourceTidy.Proofs.Spellings

namespace SourceTidy

open FileSystem Text Walk

/-! ## Headers for longer paths -/

theorem Path.join_append {target : String} (front : String) (hne : target ≠ "") (name : String) :
    join (front ++ target) name = front ++ join target name := by
  have hlast : (front ++ target).toList.getLast? = target.toList.getLast? := by
    rw [String.toList_append, List.getLast?_append_of_ne_nil _ (by simpa using hne)]
  by_cases hslash : target.toList.getLast? = some '/'
  · rw [join_of_slash name (hlast.trans hslash), join_of_slash name hslash, String.append_assoc]
  · rw [join_of_not_slash name (by simp [hne]) (hlast ▸ hslash),
      join_of_not_slash name hne hslash]
    simp only [String.append_assoc]

theorem Path.descend_append {target : String} (front : String) (hne : target ≠ "")
    (ns : List String) : descend (front ++ target) ns = front ++ descend target ns := by
  induction ns generalizing target with
  | nil => rfl
  | cons n ns ih =>
    show descend (join (front ++ target) n) ns = front ++ descend (join target n) ns
    rw [join_append front hne, ih (join_ne_empty n hne)]

/-- A header for a path is a header for every longer path with that end. -/
theorem isHeaderFor_append {line path marker : String}
    (h : Header.isHeaderFor line path marker = true) (front : String) :
    Header.isHeaderFor line (front ++ path) marker = true := by
  unfold Header.isHeaderFor Header.matchesPath at h ⊢
  rw [Bool.and_eq_true] at h ⊢
  refine ⟨h.1, ?_⟩
  have hword := h.2
  cases hlast : lastWord? line.toList with
  | none =>
    rw [hlast] at hword
    cases hword
  | some word =>
    rw [hlast] at hword
    have hsuffix : word <:+ path.toList := List.isSuffixOf_iff_suffix.1 hword
    rw [String.toList_append]
    exact List.isSuffixOf_iff_suffix.2 (hsuffix.trans (List.suffix_append _ _))

/-! ## One route, two paths -/

/-- The path leads to the directory at `top` and is not one dash, and its visit succeeds. -/
structure Visited (fs : FileSystem) (home top : Location) (ext root : String)
    (ps : List String) : Prop where
  leads : fs.resolve home root = .ok top
  notDash : ¬Path.isDash root
  visit : visit Watcher.idle.recording home root ext (fs, []) = (.ok (), (fs, ps))

section Spelled

variable {fs : FileSystem} {home top : Location} {ext a b : String} {ps qs : List String}
  {ns : List String}

/-- Wherever the path of a route to a file leads, it is the end of the route. -/
theorem Visited.resolve_descend (hv : Visited fs home top ext a ps)
    (htop : fs.node? top = some .directory) {name : String} {here l : Location}
    {above : List Location} (hd : Descends fs top ns (here :: above))
    (hleads : fs.Leads here name l) {m : Location}
    (hm : fs.resolve home (Path.descend a (ns ++ [name])) = .ok m) : m = l := by
  obtain ⟨items, htour, hs, -⟩ :=
    tour_of_visit (w := Watcher.idle) (s := fs) Watcher.idle_keepsShape hv.leads htop hv.notDash
      hv.visit
  obtain ⟨as, here', items', hls, -, -, hres⟩ := tour_of_descends htour hs hv.leads htop hd
  obtain ⟨rfl, -⟩ := List.cons.inj hls
  obtain ⟨k, harr⟩ := resolve_eq_ok.1 hres
  obtain ⟨n, hn⟩ := Option.isSome_iff_exists.1 hleads.1
  rw [Path.descend_concat] at hm
  exact leads_unique (leads_of_resolve_join harr hn hm) hleads

theorem resolve_of_readFirstLine {path line : String}
    (h : fs.readFirstLine home path = .ok line) : ∃ l, fs.resolve home path = .ok l := by
  cases hres : fs.resolve home path with
  | ok l => exact ⟨l, rfl⟩
  | error e =>
    unfold readFirstLine readBytes look at h
    rw [hres] at h
    cases h

/-- A file that can be read by the longer of two paths can be read by the shorter one, and what
    is read is the same. -/
theorem Visited.readFirstLine (ha : Visited fs home top ext a ps)
    (hb : Visited fs home top ext b qs) (htop : fs.node? top = some .directory)
    (hroute : FileRoute fs top ns) (hmem : Path.descend a ns ∈ ps)
    (hsize : (Path.descend a ns).utf8ByteSize ≤ (Path.descend b ns).utf8ByteSize)
    {line : String} (hline : fs.readFirstLine home (Path.descend b ns) = .ok line) :
    fs.readFirstLine home (Path.descend a ns) = .ok line := by
  obtain ⟨m, hm⟩ := resolve_of_readFirstLine hline
  obtain ⟨k, harr⟩ := resolve_eq_ok.1 hm
  have hlimit := (pathFault?_eq_none.1 (pathFault?_of_arrive harr)).2.2
  have hfile := isFile_of_visit ha.visit hmem (by omega)
  obtain ⟨m', content, hm', -⟩ := isFile_iff.1 hfile
  have hsame : m' = m := by
    cases hroute with
    | file hd hleads _ =>
      rw [ha.resolve_descend htop hd hleads hm', hb.resolve_descend htop hd hleads hm]
  rw [← hline]
  unfold FileSystem.readFirstLine readBytes look
  rw [hm, hm', hsame]

end Spelled

/-! ## Reports -/

/-- The routes that the check of headers reports behind a root. -/
def reported (fs : FileSystem) (home : Location) (marker root : String)
    (routes : List (List String)) : List (List String) :=
  (routes.takeWhile fun ns => hasFirstLine fs home (Path.descend root ns)).filter
    fun ns => lacksHeader fs home marker (Path.descend root ns)

/-- Each report is about a relative path behind the target. -/
theorem headerCheck_out (h : Host) (p : Plan) {fs fs₁ : FileSystem} {top : Location}
    {routes : List (List String)} (hne : p.job.target ≠ "")
    (hroutes : ∀ ns ∈ routes, FileRoute fs top ns)
    (hvisit : visit Watcher.idle.recording h.home p.job.target p.job.settings.extension (fs, []) =
      (.ok (), (fs₁, routes.map (Path.descend p.job.target)))) :
    (Action.headerCheck.run p h fs).progress.out =
      ((reported fs h.home p.job.settings.commentMarker p.job.target routes).map
        (Path.descend "")).flatMap fun rel =>
          findingLine "File header missing for" (Path.join p.job.target rel) := by
  refine (headerCheck_agrees h p hvisit).out.trans ?_
  rw [List.takeWhile_map, List.filter_map, List.flatMap_map, List.flatMap_map]
  refine List.flatMap_congr fun ns hns => ?_
  have hroute := hroutes ns ((List.takeWhile_sublist _).subset (List.mem_filter.1 hns).1)
  rw [Path.descend_eq_join hne (fileRoute_ne_nil hroute) (isName_of_fileRoute hroute)]

/-- Fewer elements in front of the first bad one, and fewer of them kept. -/
theorem filter_takeWhile_sublist {α : Type} {p q f g : α → Bool} {l : List α}
    (htake : ∀ x ∈ l, q x = true → p x = true)
    (hkeep : ∀ x ∈ l, q x = true → g x = true → f x = true) :
    ((l.takeWhile q).filter g).Sublist ((l.takeWhile p).filter f) := by
  induction l with
  | nil => exact List.Sublist.refl _
  | cons x l ih =>
    obtain ⟨hx, htake⟩ := List.forall_mem_cons.1 htake
    obtain ⟨hx', hkeep⟩ := List.forall_mem_cons.1 hkeep
    cases hq : q x with
    | false =>
      rw [List.takeWhile_cons, hq]
      exact List.nil_sublist _
    | true =>
      rw [List.takeWhile_cons, if_pos hq, List.takeWhile_cons, if_pos (hx hq)]
      cases hg : g x with
      | false =>
        rw [List.filter_cons_of_neg (by simp [hg])]
        exact (ih htake hkeep).trans ((List.sublist_cons_self x _).filter f)
      | true =>
        rw [List.filter_cons_of_pos hg, List.filter_cons_of_pos (hx' hq hg)]
        exact (ih htake hkeep).cons_cons x

/-- Behind the longer of two paths of a directory, no more is reported. -/
theorem reported_sublist {fs : FileSystem} {home top : Location} {ext target front : String}
    {routes : List (List String)} (marker : String) (htop : fs.node? top = some .directory)
    (hroutes : ∀ ns ∈ routes, FileRoute fs top ns)
    (hshort : Visited fs home top ext target (routes.map (Path.descend target)))
    (hlong : Visited fs home top ext (front ++ target)
      (routes.map (Path.descend (front ++ target)))) :
    (reported fs home marker (front ++ target) routes).Sublist
      (reported fs home marker target routes) := by
  have hlonger : ∀ ns, Path.descend (front ++ target) ns = front ++ Path.descend target ns :=
    Path.descend_append front (ne_empty_of_resolve hshort.leads)
  -- Where the file can be read by the longer path, both paths show the same first line.
  have hread : ∀ ns ∈ routes, ∀ line,
      fs.readFirstLine home (Path.descend (front ++ target) ns) = .ok line →
      fs.readFirstLine home (Path.descend target ns) = .ok line := by
    intro ns hns line hline
    have hsize : (Path.descend target ns).utf8ByteSize ≤
        (Path.descend (front ++ target) ns).utf8ByteSize := by
      rw [hlonger, String.utf8ByteSize_append]
      omega
    exact hshort.readFirstLine hlong htop (hroutes ns hns) (List.mem_map_of_mem hns) hsize hline
  refine filter_takeWhile_sublist (fun ns hns hfirst => ?_) fun ns hns hfirst hlacks => ?_
  · obtain ⟨line, hline⟩ := exists_of_hasFirstLine hfirst
    exact hasFirstLine_of_ok (hread ns hns line hline)
  · obtain ⟨line, hline⟩ := exists_of_hasFirstLine hfirst
    rw [lacksHeader_of_ok hline, hlonger, Bool.not_eq_true'] at hlacks
    rw [lacksHeader_of_ok (hread ns hns line hline), Bool.not_eq_true', Bool.eq_false_iff]
    intro hheader
    rw [isHeaderFor_append hheader] at hlacks
    cases hlacks

/-- **Under a longer name no more is reported.** A line that is a header for a path is a header
    for every longer path with that end. So let a directory be the target of the check of
    headers by a path that is not one dash, and again by a longer path that ends in the first
    one, and let both walks succeed. Then the same relative paths are reported, in the same
    order, but for some that may be left out under the longer path. -/
theorem header_findings_shrink (front : String) :
    (∀ line path marker : String, Header.isHeaderFor line path marker = true →
      Header.isHeaderFor line (front ++ path) marker = true) ∧
    ∀ (h : Host) (settings : Settings) (quiet : Bool) (disabled : List String)
      (target : String) (fs fs₁ fs₂ : FileSystem) (top : Location) (ps qs : List String),
      fs.node? top = some .directory → ¬Path.isDash target →
      fs.resolve h.home target = .ok top → fs.resolve h.home (front ++ target) = .ok top →
      visit Watcher.idle.recording h.home target settings.extension (fs, []) =
        (.ok (), (fs₁, ps)) →
      visit Watcher.idle.recording h.home (front ++ target) settings.extension (fs, []) =
        (.ok (), (fs₂, qs)) →
      ∃ short long : List String, long.Sublist short ∧
        (Action.headerCheck.run ⟨⟨target, settings⟩, quiet, disabled⟩ h fs).progress.out =
          short.flatMap (fun rel =>
            findingLine "File header missing for" (Path.join target rel)) ∧
        (Action.headerCheck.run ⟨⟨front ++ target, settings⟩, quiet, disabled⟩ h
          fs).progress.out =
          long.flatMap fun rel =>
            findingLine "File header missing for" (Path.join (front ++ target) rel) := by
  refine ⟨fun line path marker hheader => isHeaderFor_append hheader front, ?_⟩
  intro h settings quiet disabled target fs fs₁ fs₂ top ps qs htop hdash hres hres' hvisit hvisit'
  have hne := ne_empty_of_resolve hres
  have hne' := ne_empty_of_resolve hres'
  obtain ⟨routes, hroutes, hvisits⟩ :=
    exists_routes (w := Watcher.idle) (s := fs) Watcher.idle_keepsShape htop settings.extension
  have hps := hvisits h.home target fs₁ ps hres hvisit
  have hqs := hvisits h.home (front ++ target) fs₂ qs hres' hvisit'
  rw [if_neg hdash] at hps
  rw [hps] at hvisit
  have hout := headerCheck_out h ⟨⟨target, settings⟩, quiet, disabled⟩ hne hroutes hvisit
  by_cases hdash' : Path.isDash (front ++ target) = true
  · rw [if_pos hdash'] at hqs
    rw [hqs] at hvisit'
    have hout' := (headerCheck_agrees h ⟨⟨front ++ target, settings⟩, quiet, disabled⟩ hvisit').out
    exact ⟨_, [], List.nil_sublist _, hout, hout'⟩
  · rw [if_neg hdash'] at hqs
    rw [hqs] at hvisit'
    have hout' :=
      headerCheck_out h ⟨⟨front ++ target, settings⟩, quiet, disabled⟩ hne' hroutes hvisit'
    have hsublist := reported_sublist settings.commentMarker htop hroutes
      ⟨hres, hdash, Activity.visit_idle_sameShape hvisit (SameShape.refl fs)⟩
      ⟨hres', hdash', Activity.visit_idle_sameShape hvisit' (SameShape.refl fs)⟩
    exact ⟨_, _, hsublist.map (Path.descend ""), hout, hout'⟩

/-- A directory with a file whose first line, `# ./d/a.py`, names it by a long path. -/
def signed : FileSystem :=
  ⟨[(["d"], .directory), (["d", "a.py"], .file [35, 32, 46, 47, 100, 47, 97, 46, 112, 121])],
    by decide, by decide⟩

theorem visit_signed {root : String} (hres : signed.resolve [] root = .ok ["d"])
    (hdash : ¬Path.isDash root) :
    visit Watcher.idle.recording [] root ".py" (signed, []) =
      (.ok (), (signed, [Path.join root "a.py"])) :=
  visit_single hres (by decide) hdash (by decide) rfl (by decide)

/-- What is reported of `./d` is among what is reported of `d`. -/
theorem header_findings_shrink_signed :
    Header.isHeaderFor "# d/a.py" ("./" ++ "d/a.py") "#" = true ∧
      ∃ short long : List String, long.Sublist short ∧
        (Action.headerCheck.run ⟨⟨"d", {}⟩, false, []⟩ bareHost signed).progress.out =
            short.flatMap (fun rel =>
              findingLine "File header missing for" (Path.join "d" rel)) ∧
        (Action.headerCheck.run ⟨⟨"./" ++ "d", {}⟩, false, []⟩ bareHost signed).progress.out =
            long.flatMap fun rel =>
              findingLine "File header missing for" (Path.join ("./" ++ "d") rel) := by
  have hshort : signed.resolve [] "d" = .ok ["d"] := by decide
  have hlong : signed.resolve [] ("./" ++ "d") = .ok ["d"] := by decide
  have htop : signed.node? ["d"] = some .directory := by decide
  have hvisit := visit_signed hshort (by decide)
  have hvisit' := visit_signed hlong (by decide)
  obtain ⟨hheaders, hruns⟩ := header_findings_shrink "./"
  exact ⟨hheaders "# d/a.py" "d/a.py" "#" (by decide),
    hruns bareHost {} false [] "d" signed signed signed ["d"] _ _ htop (by decide)
      hshort hlong hvisit hvisit'⟩

/-- Both walks of the directory called one dash succeed, and under the longer name a file is
    reported that is not reported under the shorter one. -/
theorem longer_dash_reports_more :
    dashed.resolve [] "-/" = .ok ["-"] ∧ dashed.resolve [] ("./" ++ "-/") = .ok ["-"] ∧
      visit Watcher.idle.recording [] "-/" ".py" (dashed, []) = (.ok (), (dashed, [])) ∧
      visit Watcher.idle.recording [] ("./" ++ "-/") ".py" (dashed, []) =
        (.ok (), (dashed, ["./-/a.py"])) ∧
      (Action.headerCheck.run ⟨⟨"-/", {}⟩, false, []⟩ bareHost dashed).progress.out = [] ∧
      (Action.headerCheck.run ⟨⟨"./" ++ "-/", {}⟩, false, []⟩ bareHost dashed).progress.out =
        findingLine "File header missing for" "./-/a.py" := by
  have hshort : dashed.resolve [] "-/" = .ok ["-"] := by decide
  have hlong : dashed.resolve [] ("./" ++ "-/") = .ok ["-"] := by decide
  have hvisit := visit_dashed_spelled hlong (by decide)
  have hnone := headerCheck_agrees bareHost ⟨⟨"-/", {}⟩, false, []⟩ visit_dashed
  have hone := headerCheck_agrees bareHost ⟨⟨"./" ++ "-/", {}⟩, false, []⟩ hvisit
  exact ⟨hshort, hlong, visit_dashed, hvisit, hnone.out, hone.out.trans (by decide)⟩

end SourceTidy
