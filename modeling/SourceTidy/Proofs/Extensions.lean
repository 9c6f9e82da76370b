/-
  Which extensions a file name can have. It has the one behind its last point, so an extension
  holds no point of its own, and no slash (`extensionOf?_eq_some`). Settings ask no more of an
  extension than a point and something behind it. If that is free of points and slashes, all
  files are matched whose names end in the extension; otherwise no path is, and the actions
  that go by it do nothing (`accepted_extension_matches_or_never`).
-/
import SourceTidy.Proofs.Commands
import SourceTidy.Proofs.SingleTargets
import SourceTidy.Proofs.Walks

namespace SourceTidy

/-! ## Names and their extensions -/

namespace Path

theorem extensionOf?_of_not_mem {name : List Char} (h : '.' ∉ name) :
    extensionOf? name = none := by
  have hall : name.reverse.takeWhile (· ≠ '.') = name.reverse := by
    refine List.takeWhile_eq_self_iff.2 fun c hc => ?_
    rw [decide_eq_true_iff]
    rintro rfl
    exact h (List.mem_reverse.1 hc)
  simp only [extensionOf?, hall, List.length_reverse, decide_true, Bool.true_or, if_true]

theorem extensionOf?_append {e : List Char} (he : '.' ∉ e) (stem : List Char) :
    extensionOf? (stem ++ '.' :: e) = if stem = [] then none else some e := by
  have hrev : (stem ++ '.' :: e).reverse = e.reverse ++ '.' :: stem.reverse := by simp
  have hafter : (e.reverse ++ '.' :: stem.reverse).takeWhile (· ≠ '.') = e.reverse := by
    rw [List.takeWhile_append_of_pos]
    · simp
    · intro c hc
      rw [decide_eq_true_iff]
      rintro rfl
      exact he (List.mem_reverse.1 hc)
  have hbefore : (e.reverse ++ '.' :: stem.reverse).drop (e.reverse.length + 1) = stem.reverse := by
    rw [List.drop_length_add_append]
    rfl
  have hlength : e.reverse.length ≠ (stem ++ '.' :: e).length := by
    rw [List.length_reverse, List.length_append, List.length_cons]
    omega
  simp only [extensionOf?, hrev, hafter, hbefore, hlength, decide_false, Bool.false_or,
    List.isEmpty_reverse, List.isEmpty_iff, List.reverse_reverse]

/-- A name has an extension if something stands before its last point. -/
theorem extensionOf?_eq_some {name e : List Char} : extensionOf? name = some e ↔
    ∃ stem, stem ≠ [] ∧ name = stem ++ '.' :: e ∧ '.' ∉ e := by
  by_cases hmem : '.' ∈ name
  · obtain ⟨after, before, hrev, hafter⟩ := List.eq_append_cons_of_mem (List.mem_reverse.2 hmem)
    have hname : name = before.reverse ++ '.' :: after.reverse := by
      rw [← List.reverse_reverse name, hrev]
      simp
    have hafter' : '.' ∉ after.reverse := by simpa using hafter
    constructor
    · intro h
      rw [hname, extensionOf?_append hafter'] at h
      split at h
      · cases h
      · next hstem =>
        cases h
        exact ⟨_, hstem, hname, hafter'⟩
    · rintro ⟨stem, hstem, rfl, he⟩
      rw [extensionOf?_append he, if_neg hstem]
  · rw [extensionOf?_of_not_mem hmem]
    refine iff_of_false nofun ?_
    rintro ⟨stem, -, rfl, -⟩
    exact hmem (by simp)

/-! ## Paths and their extensions -/

theorem not_mem_of_fileName? {p name : List Char} (h : fileName? p = some name) : '/' ∉ name := by
  unfold fileName? at h
  split at h
  · next part hpart =>
    split at h
    · cases h
    · cases h
      exact not_mem_of_mem_split (List.mem_filter.1 (List.mem_of_getLast? hpart)).1
  · cases h

/-- The file name of a path is what follows its last slash, if that names something. -/
theorem fileName?_append {front name : List Char}
    (hfront : front = [] ∨ front.getLast? = some '/') (hslash : '/' ∉ name) (hne : name ≠ [])
    (hone : name ≠ ['.']) (htwo : name ≠ ['.', '.']) : fileName? (front ++ name) = some name := by
  have hname : named name = [name] := by
    unfold named
    rw [split_of_not_mem hslash]
    simp [hne, hone]
  have hlast : (named (front ++ name)).getLast? = some name := by
    rcases hfront with rfl | hfront
    · rw [List.nil_append, hname]
      rfl
    · obtain ⟨front', rfl⟩ := List.getLast?_eq_some_iff.1 hfront
      rw [List.append_assoc, List.singleton_append, named_append_slash, hname]
      simp
  unfold fileName?
  simp only [hlast, if_neg htwo]

theorem not_mem_of_extension? {p e : List Char} (h : extension? p = some e) :
    '.' ∉ e ∧ '/' ∉ e := by
  obtain ⟨name, hname, he⟩ := Option.bind_eq_some_iff.1 h
  obtain ⟨stem, -, rfl, hpoint⟩ := extensionOf?_eq_some.1 he
  have hslash := not_mem_of_fileName? hname
  exact ⟨hpoint, fun hmem => hslash (by simp [hmem])⟩

theorem hasExtension_point {path rest : String} : hasExtension path ("." ++ rest) = true ↔
    rest ≠ "" ∧ extension? path.toList = some rest.toList := by
  have hwanted : ("." ++ rest).toList = '.' :: rest.toList := by simp
  unfold hasExtension
  rw [hwanted]
  simp

/-- Nothing else stands in the way of being the extension of a file name. -/
def IsSingleExtension (rest : String) : Prop := '.' ∉ rest.toList ∧ '/' ∉ rest.toList

instance (rest : String) : Decidable (IsSingleExtension rest) :=
  inferInstanceAs (Decidable (_ ∧ _))

theorem isSingleExtension_of_hasExtension {path rest : String}
    (h : hasExtension path ("." ++ rest) = true) : IsSingleExtension rest :=
  not_mem_of_extension? (hasExtension_point.1 h).2

theorem hasExtension_append {front stem rest : String} (hrest : rest ≠ "")
    (hsingle : IsSingleExtension rest) (hfront : front = "" ∨ front.toList.getLast? = some '/')
    (hstem : stem ≠ "") (hslash : '/' ∉ stem.toList) :
    hasExtension (front ++ stem ++ ("." ++ rest)) ("." ++ rest) = true := by
  have hpath : (front ++ stem ++ ("." ++ rest)).toList =
      front.toList ++ (stem.toList ++ '.' :: rest.toList) := by simp
  have hstem' : stem.toList ≠ [] := by simpa using hstem
  have hrest' : rest.toList ≠ [] := by simpa using hrest
  -- The name does not end in a point, so it is none of the parts that name nothing or go up.
  have hlast : (stem.toList ++ '.' :: rest.toList).getLast? ≠ some '.' := by
    rw [List.append_cons, List.getLast?_append_of_ne_nil _ hrest']
    intro h
    exact hsingle.1 (List.mem_of_getLast? h)
  have hname : fileName? (front.toList ++ (stem.toList ++ '.' :: rest.toList)) =
      some (stem.toList ++ '.' :: rest.toList) := by
    refine fileName?_append (by simpa using hfront) ?_ (by simp) ?_ ?_
    · simpa [hslash] using hsingle.2
    · intro h
      exact hlast (by rw [h]; rfl)
    · intro h
      exact hlast (by rw [h]; rfl)
  refine hasExtension_point.2 ⟨hrest, ?_⟩
  rw [hpath, extension?, hname]
  exact extensionOf?_eq_some.2 ⟨_, hstem', rfl, hsingle.1⟩

end Path

/-! ## Walks that match nothing -/

/-- A walk alone puts nothing out and changes nothing. -/
theorem forFiles_unmatched {ext : String} (hext : ∀ path, Path.hasExtension path ext = false)
    (root : String) (each : String → Activity Unit) (h : Host) (fs : FileSystem) :
    (Activity.forFiles root ext each h fs).progress.files = fs ∧
      (Activity.forFiles root ext each h fs).progress.out = [] := by
  have hseq : Activity.Sequential root fun fs r => r.progress.files = fs ∧ r.progress.out = [] :=
    { idle := fun _ => ⟨rfl, rfl⟩
      noted := fun _ _ => ⟨rfl, rfl⟩
      fault := fun _ _ _ => ⟨rfl, rfl⟩
      absent := fun _ => ⟨rfl, rfl⟩
      seq := fun hp hr => ⟨hr.1.trans hp.1, List.append_eq_nil_iff.2 ⟨hp.2, hr.2⟩⟩ }
  refine Activity.forFiles_induct hseq (fun path fs hpath => ?_) fs
  rw [hext] at hpath
  cases hpath

/-! ## Extensions that settings may have -/

/-- An extension that settings may have is a point and something behind it. -/
theorem exists_rest_of_isExtension {ext : String} (h : IsExtension ext) :
    ∃ rest, rest ≠ "" ∧ ext = "." ++ rest := by
  obtain ⟨hpoint, hsize⟩ := h
  obtain ⟨cs, hcs⟩ := List.head?_eq_some_iff.1 hpoint
  have hext : ext = "." ++ String.ofList cs := by
    rw [← String.toList_inj]
    simp [hcs]
  refine ⟨String.ofList cs, ?_, hext⟩
  intro hempty
  have hone : ext = "." := by rw [hext, hempty, String.append_empty]
  rw [hone] at hsize
  exact absurd hsize (by decide)

theorem unmatched_of_not_single {rest : String} (h : ¬Path.IsSingleExtension rest)
    (path : String) : Path.hasExtension path ("." ++ rest) = false :=
  Bool.eq_false_iff.2 fun hpath => h (Path.isSingleExtension_of_hasExtension hpath)

theorem isExtension_of_mem {s : Settings} (hs : s.Sound) {a : Action × String}
    (ha : a ∈ fileActions s) : IsExtension a.2 := by
  simp only [fileActions, List.mem_cons, List.not_mem_nil, or_false] at ha
  rcases ha with rfl | rfl | rfl
  · exact hs.extension
  · exact hs.extension
  · exact hs.replExtension

/-- **An accepted extension matches what ends in it, or nothing at all.** The extension that an
    action goes by is a point and something behind it, in all settings that a text gives. If
    there is no other point in it and no slash, it is the extension of every path whose last
    part is some other characters with the extension behind them. If there is, no path has it,
    and the action leaves all files alone and puts out nothing, whatever its target is. -/
theorem accepted_extension_matches_or_never {text : String} {s : Settings}
    (hs : Settings.parse text = .ok s) :
    ∀ a ∈ fileActions s,
      ∃ rest, rest ≠ "" ∧ a.2 = "." ++ rest ∧
        (Path.IsSingleExtension rest → ∀ front stem : String,
          (front = "" ∨ front.toList.getLast? = some '/') → stem ≠ "" → '/' ∉ stem.toList →
          Path.hasExtension (front ++ stem ++ a.2) a.2 = true) ∧
        (¬Path.IsSingleExtension rest →
          (∀ path, Path.hasExtension path a.2 = false) ∧
          ∀ (target : String) (quiet : Bool) (disabled : List String) (h : Host)
            (fs : FileSystem),
            (a.1.run ⟨⟨target, s⟩, quiet, disabled⟩ h fs).progress.files = fs ∧
            (a.1.run ⟨⟨target, s⟩, quiet, disabled⟩ h fs).progress.out = []) := by
  intro a ha
  obtain ⟨hsound, -⟩ := Settings.sound_of_parse hs
  obtain ⟨each, hrun, -⟩ := exists_each_of_mem ha
  obtain ⟨rest, hrest, hext⟩ := exists_rest_of_isExtension (isExtension_of_mem hsound ha)
  refine ⟨rest, hrest, hext, fun hsingle front stem hfront hstem hslash => ?_, fun hmore => ?_⟩
  · rw [hext]
    exact Path.hasExtension_append hrest hsingle hfront hstem hslash
  · have hnever : ∀ path, Path.hasExtension path a.2 = false := by
      rw [hext]
      exact unmatched_of_not_single hmore
    refine ⟨hnever, fun target quiet disabled h fs => ?_⟩
    rw [hrun]
    exact forFiles_unmatched hnever target each h fs

theorem parse_second_point :
    Settings.parse "extension = '.tar.gz'\nrepl_extension = '.é'\n" =
      .ok { extension := ".tar.gz", replExtension := ".é" } := by
  have hdoc : Toml.parse? "extension = '.tar.gz'\nrepl_extension = '.é'\n" =
      some [("extension", .string ".tar.gz"), ("repl_extension", .string ".é")] := by cbv
  refine (Settings.parse_eq_ok hdoc).2 ⟨?_, Settings.check_eq_ok.1 (by decide)⟩
  rw [Settings.ofRows, Toml.sortedRows_of_sorted (by decide)]
  rfl

/-- A stem of one point is matched with its extension; the extension with a second point makes
    the check of headers do nothing. -/
theorem accepted_extension_matches_or_never_archive :
    ∃ s, Settings.parse "extension = '.tar.gz'\nrepl_extension = '.é'\n" = .ok s ∧
      Path.hasExtension "d/..é" s.replExtension = true ∧
      ∀ (target : String) (h : Host) (fs : FileSystem),
        (Action.headerCheck.run ⟨⟨target, s⟩, false, []⟩ h fs).progress.out = [] := by
  refine ⟨_, parse_second_point, ?_, ?_⟩
  · obtain ⟨rest, -, hext, hmatches, -⟩ := accepted_extension_matches_or_never parse_second_point
      (Action.replTest, ".é") (by simp [fileActions])
    obtain rfl : "é" = rest := (String.append_right_inj ".").1 hext
    exact hmatches (by decide) "d/" "." (Or.inr (by decide)) (by decide) (by decide)
  · obtain ⟨rest, -, hext, -, hnever⟩ := accepted_extension_matches_or_never parse_second_point
      (Action.headerCheck, ".tar.gz") (by simp [fileActions])
    obtain rfl : "tar.gz" = rest := (String.append_right_inj ".").1 hext
    exact fun target h fs => ((hnever (by decide)).2 target false [] h fs).2

/-- Settings with a second point in the extension are accepted, and a file whose name is made
    of a stem and the extension is not matched. -/
theorem second_point_is_unmatched :
    ∃ s, Settings.parse "extension = '.tar.gz'\nrepl_extension = '.é'\n" = .ok s ∧
      Path.hasExtension ("a" ++ s.extension) s.extension = false :=
  ⟨_, parse_second_point, by decide⟩

end SourceTidy
