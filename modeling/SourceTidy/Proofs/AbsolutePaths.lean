/-
  Where absolute paths lead. An absolute path is made from the text of a path and looks at no
  file system: it goes down to the home, or starts at the top, and then through the parts of the
  path that name something. Parts that name nothing can be left out wherever they stand, and
  steps up and links are met at the same places, so that it leads to the file that the path
  leads to (`resolve_absolute`), as long as its text is not too long and the home itself can be
  reached in this way.
-/
import SourceTidy.Proofs.Commands

namespace SourceTidy

namespace Path

/-! ## What an absolute path is made of -/

/-- What stands in an absolute path in front of the names of the path that it is made from. -/
def frontOf (home path : String) : List Char :=
  if startsWithTwoSlashes path.toList then ['/']
  else if isAbsolute path then []
  else if home = "/" then []
  else home.toList

theorem split_append_slashed (s : List Char) {ps : List (List Char)}
    (h : ∀ part ∈ ps, '/' ∉ part) : split (s ++ slashed ps) = split s ++ ps := by
  induction ps generalizing s with
  | nil => simp [slashed]
  | cons part ps ih =>
    obtain ⟨hpart, hps⟩ := List.forall_mem_cons.1 h
    have hfront : s ++ slashed (part :: ps) = (s ++ '/' :: part) ++ slashed ps := by
      simp [slashed]
    rw [hfront, ih _ hps, split_append_slash, split_of_not_mem hpart, List.append_assoc]
    rfl

/-- The parts of a path, each after a slash, are the path after a slash. -/
theorem slashed_split (s : List Char) : slashed (split s) = '/' :: s := by
  induction s with
  | nil => rfl
  | cons c s ih =>
    rw [split]
    split
    · next hc =>
      rw [hc]
      exact congrArg ('/' :: ·) ih
    · cases hs : split s with
      | nil => exact absurd hs (split_ne_nil s)
      | cons part parts =>
        rw [hs] at ih
        exact congrArg ('/' :: c :: ·) (List.cons.inj ih).2

theorem mem_slashed {ps : List (List Char)} {c : Char} (hc : c ≠ '/') :
    c ∈ slashed ps ↔ ∃ part ∈ ps, c ∈ part := by
  simp [slashed, hc]

/-- What is in a path but the slashes is in its parts. -/
theorem mem_split {s : List Char} {c : Char} (hc : c ≠ '/') :
    c ∈ s ↔ ∃ part ∈ split s, c ∈ part := by
  rw [← mem_slashed hc, slashed_split, List.mem_cons, or_iff_right hc]

/-- Where the last part of a path names something, its absolute form ends there too. -/
theorem absolute?_eq {home path : String} {ps : List (List Char)} {last : List Char}
    (hsplit : split path.toList = ps ++ [last]) (hne : last ≠ []) (hpoint : last ≠ ['.']) :
    absolute? home path =
      some (String.ofList (frontOf home path ++ slashed (named path.toList))) := by
  have hnamed : named path.toList ≠ [] := by
    unfold named
    rw [hsplit]
    simp [hne, hpoint]
  have hempty : path.toList.isEmpty = false := by
    cases hpath : path.toList with
    | cons c s => rfl
    | nil =>
      rw [hpath] at hnamed
      exact absurd rfl hnamed
  have hlast : path.toList.getLast? ≠ some '/' := by
    intro hslash
    obtain ⟨s, hs⟩ := List.getLast?_eq_some_iff.1 hslash
    rw [hs, split_append_slash] at hsplit
    have hnil : [[]] = [last] := List.append_inj_right' hsplit rfl
    exact hne (List.singleton_inj.1 hnil).symm
  have hbody : (frontOf home path ++ slashed (named path.toList)).isEmpty = false := by
    cases hps : named path.toList with
    | nil => exact absurd hps hnamed
    | cons part ps => simp [slashed]
  have hnames : (named path.toList).isEmpty = false := by simpa using hnamed
  unfold absolute?
  simp only [hempty, hnames, hlast, Bool.false_and, Bool.false_eq_true, if_false, decide_false]
  unfold frontOf at hbody
  exact congrArg some (congrArg String.ofList (if_neg (by rw [hbody]; exact Bool.false_ne_true)))

/-- The front is no name if the path is absolute, and the way to the home otherwise. -/
theorem frontOf_cases {home : Location} {path : String}
    (hnames : isAbsolute path = false → home.all isName = true) :
    isAbsolute path = true ∧ (frontOf home.path path = [] ∨ frontOf home.path path = ['/']) ∨
      isAbsolute path = false ∧ frontOf home.path path = slashed (home.map String.toList) := by
  unfold frontOf
  split
  · next htwo => exact Or.inl ⟨isAbsolute_of_startsWithTwoSlashes htwo, Or.inr rfl⟩
  · split
    · next habsolute => exact Or.inl ⟨habsolute, Or.inl rfl⟩
    · next hrelative =>
      have hrelative : isAbsolute path = false := Bool.eq_false_iff.2 hrelative
      have hnames := hnames hrelative
      refine Or.inr ⟨hrelative, ?_⟩
      cases home with
      | nil => rfl
      | cons name home =>
        have hpath : (Location.path (name :: home)).toList =
            slashed ((name :: home).map String.toList) := by
          simp [Location.path]
        rw [← hpath, if_neg]
        intro htop
        rw [htop] at hpath
        have hname : name = "" ∧ ∀ n, n ∉ home := by simpa [slashed] using hpath
        rw [List.all_cons, Bool.and_eq_true] at hnames
        exact (isName_iff.1 hnames.1).1 hname.1

/-- A relative path in which every part names something is put behind the home as it is. -/
theorem absolute?_of_named {home : Location} (hnames : home.all isName = true) {path : String}
    (hrelative : isAbsolute path = false)
    (hnamed : ∀ part ∈ split path.toList, part ≠ [] ∧ part ≠ ['.']) :
    absolute? home.path path =
      some (String.ofList (slashed (home.map String.toList) ++ '/' :: path.toList)) := by
  have hall : named path.toList = split path.toList := by
    refine List.filter_eq_self.2 fun part hpart => ?_
    simpa using hnamed part hpart
  obtain hnil | ⟨ps, last, hsplit⟩ := List.eq_nil_or_concat (split path.toList)
  · exact absurd hnil (split_ne_nil _)
  · rw [List.concat_eq_append] at hsplit
    obtain ⟨hne, hpoint⟩ := hnamed last (by simp [hsplit])
    rw [absolute?_eq hsplit hne hpoint, hall, slashed_split]
    rcases frontOf_cases fun _ => hnames with ⟨habsolute, -⟩ | ⟨-, hfront⟩
    · rw [hrelative] at habsolute
      cases habsolute
    · rw [hfront]

theorem isAbsolute_frontOf {home : Location} {path : String}
    (hnames : isAbsolute path = false → home.all isName = true) {ps : List (List Char)}
    (hps : ps ≠ []) :
    isAbsolute (String.ofList (frontOf home.path path ++ slashed ps)) = true := by
  have hfront : FromSlash (frontOf home.path path) := by
    rcases frontOf_cases hnames with ⟨-, h | h⟩ | ⟨-, h⟩
    · rw [h]
      exact Or.inl rfl
    · rw [h]
      exact Or.inr rfl
    · rw [h]
      exact fromSlash_slashed _
  rcases hfront.append (fromSlash_slashed ps) with hnil | hhead
  · cases ps with
    | nil => exact absurd rfl hps
    | cons part ps => simp [slashed] at hnil
  · rw [isAbsolute, String.toList_ofList, hhead]
    rfl

end Path

namespace FileSystem

variable {fs : FileSystem}

/-! ## Parts that name nothing -/

theorem resolveFrom_cons {n : Nat} {here : Location} {part : String} {ps : List String}
    {a : Arrival} : fs.resolveFrom n here (part :: ps) = .ok a ↔
      ∃ b, fs.resolveFrom n here [part] = .ok b ∧ fs.resolveFrom b.links b.place ps = .ok a := by
  rw [← List.singleton_append, resolveFrom_append]
  cases fs.resolveFrom n here [part] with
  | error e => simp [Except.bind]
  | ok b => simp [Except.bind]

/-- Without the parts that name nothing, a path leads where it has led. -/
theorem resolveFrom_named {n : Nat} {here : Location} {parts : List (List Char)} {a : Arrival}
    (h : fs.resolveFrom n here (parts.map String.ofList) = .ok a) :
    fs.resolveFrom n here
      ((parts.filter fun part => part ≠ [] && part ≠ ['.']).map String.ofList) = .ok a := by
  induction parts generalizing n here with
  | nil => exact h
  | cons part parts ih =>
    rw [List.map_cons] at h
    obtain ⟨b, hb, hrest⟩ := resolveFrom_cons.1 h
    by_cases hpart : part = [] ∨ part = ['.']
    · have hunnamed : String.ofList part = "" ∨ String.ofList part = "." := by
        rcases hpart with rfl | rfl
        · exact Or.inl rfl
        · exact Or.inr rfl
      obtain ⟨rfl, -⟩ := (resolveFrom_unnamed hunnamed).1 hb
      rw [List.filter_cons_of_neg (by rcases hpart with rfl | rfl <;> decide)]
      exact ih hrest
    · rw [not_or] at hpart
      rw [List.filter_cons_of_pos (by simpa using hpart), List.map_cons]
      exact resolveFrom_cons.2 ⟨b, hb, ih hrest⟩

/-! ## The way to the home -/

/-- A directory that is reached from the top through directories alone. -/
def IsHome (fs : FileSystem) (home : Location) : Prop :=
  ∀ l, l <+: home → fs.node? l = some .directory

/-- Nothing is reached but through directories. -/
theorem directories_keptOnTheWay (fs : FileSystem) :
    fs.KeptOnTheWay fun l => ∀ m, m <+: l → m ≠ l → fs.node? m = some .directory where
  top := fun m hm hne => absurd (List.prefix_nil.1 hm) hne
  up := by
    intro l hl m hm hne
    refine hl m (hm.trans (List.dropLast_prefix l)) ?_
    rintro rfl
    exact hne (hm.eq_of_length_le (List.length_dropLast ▸ Nat.sub_le _ _))
  down := by
    intro l name n hl hdir _ m hm hne
    rcases List.prefix_concat_iff.1 hm with rfl | hm
    · exact absurd rfl hne
    · by_cases hml : m = l
      · rwa [hml]
      · exact hl m hm hml

/-- A directory that its own path leads to is reached through directories alone: there is no
    other way to the place of that name. -/
theorem isHome_of_resolve {home here : Location} (hreached : fs.resolve here home.path = .ok home)
    (hdir : fs.node? home = some .directory) : fs.IsHome home := by
  obtain ⟨k, harr⟩ := resolve_eq_ok.1 hreached
  have hparts := (arrive_eq_ok.1 harr).2
  rw [if_pos (Path.isAbsolute_path home)] at hparts
  have habove := (directories_keptOnTheWay fs).resolveFrom (directories_keptOnTheWay fs).top hparts
  intro l hl
  by_cases hlast : l = home
  · rwa [hlast]
  · exact habove l hl hlast

theorem resolveFrom_home {home : Location} (hhome : fs.IsHome home) (n : Nat) :
    fs.resolveFrom n [] ("" :: home) = .ok ⟨home, n⟩ := by
  induction home using List.reverseRecOn with
  | nil => exact (resolveFrom_unnamed (Or.inl rfl)).2 ⟨rfl, rfl⟩
  | append_singleton home name ih =>
    have hdir := hhome home (List.prefix_append home [name])
    have hentry := hhome (home ++ [name]) (List.prefix_refl _)
    have hfront := ih fun l hl => hhome l (hl.trans (List.prefix_append home [name]))
    rw [← List.cons_append]
    exact resolveFrom_concat.2 ⟨_, hfront, resolveFrom_entry n hdir hentry (by simp)⟩

/-- What stands in front of an absolute path leads to where the path starts. -/
theorem resolveFrom_frontOf {home : Location} {path : String}
    (hhome : Path.isAbsolute path = false → fs.IsHome home) (n : Nat) :
    fs.resolveFrom n [] ((Path.split (Path.frontOf home.path path)).map String.ofList) =
      .ok ⟨if Path.isAbsolute path then [] else home, n⟩ := by
  have hnames : Path.isAbsolute path = false → home.all isName = true :=
    fun hrelative => all_isName_of_node? (hhome hrelative home (List.prefix_refl _))
  have htop : fs.resolveFrom n [] [""] = .ok ⟨[], n⟩ :=
    (resolveFrom_unnamed (Or.inl rfl)).2 ⟨rfl, rfl⟩
  rcases Path.frontOf_cases hnames with ⟨habsolute, hfront | hfront⟩ | ⟨hrelative, hfront⟩
  · rw [hfront, if_pos habsolute]
    exact htop
  · rw [hfront, if_pos habsolute]
    exact resolveFrom_cons.2 ⟨_, htop, htop⟩
  · have hslash : ∀ part ∈ home.map String.toList, '/' ∉ part := by
      intro part hpart
      obtain ⟨name, hname, rfl⟩ := List.mem_map.1 hpart
      exact (Path.name_chars (List.all_eq_true.1 (hnames hrelative) name hname)).2.2
    have hsplit := Path.split_append_slashed [] hslash
    rw [List.nil_append] at hsplit
    rw [hfront, hsplit, if_neg (by simp [hrelative])]
    have hparts : (Path.split [] ++ home.map String.toList).map String.ofList = "" :: home := by
      simp [Path.split, Function.comp_def]
    rw [hparts]
    exact resolveFrom_home (hhome hrelative) n

/-! ## Paths to files -/

/-- Where a relative path leads somewhere, it starts from a directory. -/
theorem isDirectory_of_resolve {home l : Location} {path : String}
    (hres : fs.resolve home path = .ok l) (hrelative : Path.isAbsolute path = false) :
    fs.node? home = some .directory := by
  obtain ⟨k, harr⟩ := resolve_eq_ok.1 hres
  have hparts := (arrive_eq_ok.1 harr).2
  rw [if_neg (by simp [hrelative])] at hparts
  cases hp : Path.parts path with
  | nil => exact absurd (List.map_eq_nil_iff.1 hp) (Path.split_ne_nil _)
  | cons part ps =>
    rw [hp] at hparts
    exact isDirectory_of_resolveFrom hparts

/-- The last part of a path to a file names something. -/
theorem split_of_isFile {home l : Location} {path : String} {content : Text.Bytes}
    (hres : fs.resolve home path = .ok l) (hfile : fs.node? l = some (.file content)) :
    ∃ ps last, Path.split path.toList = ps ++ [last] ∧ last ≠ [] ∧ last ≠ ['.'] := by
  obtain ⟨k, harr⟩ := resolve_eq_ok.1 hres
  have hparts := (arrive_eq_ok.1 harr).2
  obtain hnil | ⟨ps, last, hsplit⟩ := List.eq_nil_or_concat (Path.split path.toList)
  · exact absurd hnil (Path.split_ne_nil _)
  · rw [List.concat_eq_append] at hsplit
    rw [Path.parts, hsplit, List.map_append, List.map_singleton] at hparts
    have hnamed : ¬(String.ofList last = "" ∨ String.ofList last = ".") := by
      intro hunnamed
      have hdir := ((resolveFrom_concat_unnamed hunnamed).1 hparts).2
      rw [hfile] at hdir
      cases hdir
    rw [not_or] at hnamed
    exact ⟨ps, last, hsplit, fun h => hnamed.1 (h ▸ rfl), fun h => hnamed.2 (h ▸ rfl)⟩

theorem not_mem_frontOf {home : Location} {path : String}
    (hnames : Path.isAbsolute path = false → home.all isName = true) :
    '\x00' ∉ Path.frontOf home.path path := by
  rcases Path.frontOf_cases hnames with ⟨-, h | h⟩ | ⟨hrelative, h⟩
  · rw [h]
    exact List.not_mem_nil
  · rw [h]
    decide
  · rw [h, Path.mem_slashed (by decide)]
    rintro ⟨part, hpart, hnul⟩
    obtain ⟨name, hname, rfl⟩ := List.mem_map.1 hpart
    exact (Path.isName_iff.1 (List.all_eq_true.1 (hnames hrelative) name hname)).2.2.2.2 hnul

/-- The absolute form of a path to a file leads to that file, from wherever, if it is not too
    long and, for a path that starts from the home, if the home can be reached from the top. -/
theorem resolve_absolute {home l : Location} {path absolute : String} {content : Text.Bytes}
    (hreached : Path.isAbsolute path = false → fs.resolve [] home.path = .ok home)
    (hres : fs.resolve home path = .ok l) (hfile : fs.node? l = some (.file content))
    (habsolute : Path.absolute? home.path path = some absolute)
    (hsize : absolute.utf8ByteSize ≤ pathLimit) (home' : Location) :
    fs.resolve home' absolute = .ok l := by
  have hhome : Path.isAbsolute path = false → fs.IsHome home :=
    fun hrelative => isHome_of_resolve (hreached hrelative) (isDirectory_of_resolve hres hrelative)
  have hnames : Path.isAbsolute path = false → home.all isName = true :=
    fun hrelative => all_isName_of_node? (hhome hrelative home (List.prefix_refl _))
  obtain ⟨ps, last, hsplit, hne, hpoint⟩ := split_of_isFile hres hfile
  have hnamed : Path.named path.toList ≠ [] := by
    unfold Path.named
    rw [hsplit]
    simp [hne, hpoint]
  rw [Path.absolute?_eq hsplit hne hpoint] at habsolute
  obtain rfl := Option.some.inj habsolute
  obtain ⟨k, harr⟩ := resolve_eq_ok.1 hres
  obtain ⟨hfault, hparts⟩ := arrive_eq_ok.1 harr
  have htop := Path.isAbsolute_frontOf hnames hnamed
  have hnul : '\x00' ∉ Path.frontOf home.path path ++ Path.slashed (Path.named path.toList) := by
    rw [List.mem_append, not_or, Path.mem_slashed (by decide)]
    refine ⟨not_mem_frontOf hnames, ?_⟩
    rintro ⟨part, hpart, hmem⟩
    exact (pathFault?_eq_none.1 hfault).2.1
      ((Path.mem_split (by decide)).2 ⟨part, (List.mem_filter.1 hpart).1, hmem⟩)
  have hslash : ∀ part ∈ Path.named path.toList, '/' ∉ part :=
    fun part hpart => Path.not_mem_of_mem_split (List.mem_filter.1 hpart).1
  have hsplit' := Path.split_append_slashed (Path.frontOf home.path path) hslash
  refine resolve_eq_ok.2 ⟨k, arrive_eq_ok.2 ⟨pathFault?_eq_none.2 ⟨?_, ?_, hsize⟩, ?_⟩⟩
  · rintro hempty
    rw [hempty] at htop
    cases htop
  · rw [String.toList_ofList]
    exact hnul
  · rw [if_pos htop, Path.parts, String.toList_ofList, hsplit', List.map_append,
      resolveFrom_append, resolveFrom_frontOf hhome]
    exact resolveFrom_named hparts

end FileSystem

end SourceTidy
