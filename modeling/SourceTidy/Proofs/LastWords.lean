/-
  Which lines are headers for a path. The last word of a line is the longest run without blanks
  that ends where the last character stands that is not blank (`lastWord?_eq_some_iff`). So a
  line is a header if it starts with the marker and this run is an end of the path, whatever
  stands between them (`header_ends_in_path`). An end of a path is not always the name of its
  file: what is shorter than the name is taken for a header as well, and nothing else is that
  does not name the file (`header_names_file_or_falls_short`).
-/
import Mathlib.Data.List.DropRight
import SourceTidy.Proofs.FirstLines

namespace SourceTidy

namespace Text

/-! ## Words -/

theorem words_cons_blank {b : Char} (hb : isBlank b = true) (s : List Char) :
    words (b :: s) = words s := by
  cases s with
  | nil => simp [words, hb]
  | cons d s => rw [words, if_pos hb]

section Letter

variable {c d : Char} (hc : isBlank c = false)
include hc

theorem words_singleton : words [c] = [[c]] := by
  simp [words, hc]

theorem words_before_blank (hd : isBlank d = true) (s : List Char) :
    words (c :: d :: s) = [c] :: words (d :: s) := by
  rw [words, if_neg (by simp [hc]), if_pos hd]

theorem words_before_letter (hd : isBlank d = false) (s : List Char) :
    words (c :: d :: s) = growFirst c (words (d :: s)) := by
  rw [words, if_neg (by simp [hc]), if_neg (by simp [hd])]

theorem words_cons_ne_nil (s : List Char) : words (c :: s) ≠ [] := by
  cases s with
  | nil => simp [words_singleton hc]
  | cons d s =>
    cases hd : isBlank d with
    | true => simp [words_before_blank hc hd]
    | false =>
      rw [words_before_letter hc hd]
      cases words (d :: s) <;> simp [growFirst]

end Letter

theorem growFirst_append {c : Char} {ws : List (List Char)} (hne : ws ≠ [])
    (vs : List (List Char)) : growFirst c (ws ++ vs) = growFirst c ws ++ vs := by
  cases ws with
  | nil => exact absurd rfl hne
  | cons w ws => rfl

/-- No word goes on over a blank. -/
theorem words_append_blank {b : Char} (hb : isBlank b = true) (s t : List Char) :
    words (s ++ b :: t) = words s ++ words t := by
  induction s with
  | nil => exact words_cons_blank hb t
  | cons c s ih =>
    cases hc : isBlank c with
    | true => rw [List.cons_append, words_cons_blank hc, words_cons_blank hc, ih]
    | false =>
      cases s with
      | nil =>
        show words (c :: b :: t) = _
        rw [words_before_blank hc hb, words_cons_blank hb, words_singleton hc]
        rfl
      | cons d s =>
        simp only [List.cons_append] at ih ⊢
        cases hd : isBlank d with
        | true =>
          rw [words_before_blank hc hd, words_before_blank hc hd, ih]
          rfl
        | false =>
          rw [words_before_letter hc hd, words_before_letter hc hd, ih]
          exact growFirst_append (words_cons_ne_nil hd s) _

theorem words_of_letters {w : List Char} (hne : w ≠ []) (h : ∀ c ∈ w, isBlank c = false) :
    words w = [w] := by
  induction w with
  | nil => exact absurd rfl hne
  | cons c w ih =>
    obtain ⟨hc, hw⟩ := List.forall_mem_cons.1 h
    cases w with
    | nil => exact words_singleton hc
    | cons d w =>
      rw [words_before_letter hc (hw d (List.mem_cons_self ..)), ih (by simp) hw]
      rfl

/-! ## The last word -/

/-- A line cut before and behind its last word. -/
structure CutAtLast (line front word back : List Char) : Prop where
  eq : line = front ++ word ++ back
  front : ∀ c ∈ front.getLast?, isBlank c = true
  ne_nil : word ≠ []
  letters : ∀ c ∈ word, isBlank c = false
  back : allBlank back = true

theorem lastWord?_of_cut {line front word back : List Char}
    (h : CutAtLast line front word back) : lastWord? line = some word := by
  obtain ⟨rfl, hfront, hne, hletters, hback⟩ := h
  have hword : words (word ++ back) = [word] := by
    cases back with
    | nil => rw [List.append_nil, words_of_letters hne hletters]
    | cons b back =>
      rw [allBlank_cons, Bool.and_eq_true] at hback
      rw [words_append_blank hback.1, words_of_letters hne hletters, words_of_allBlank hback.2,
        List.append_nil]
  unfold lastWord?
  rw [List.append_assoc]
  rcases List.eq_nil_or_concat front with rfl | ⟨front, b, rfl⟩
  · rw [List.nil_append, hword]
    rfl
  · have hb : isBlank b = true := hfront b (by simp)
    rw [List.concat_eq_append, List.append_assoc, List.singleton_append, words_append_blank hb,
      hword]
    simp

theorem exists_cut {line : List Char} (h : allBlank line = false) :
    ∃ front word back, CutAtLast line front word back := by
  induction line with
  | nil => cases h
  | cons c line ih =>
    cases hline : allBlank line with
    | true =>
      have hc : isBlank c = false := by
        rw [allBlank_cons, hline, Bool.and_true] at h
        exact h
      exact ⟨[], [c], line, rfl, by simp, by simp, by simpa using hc, hline⟩
    | false =>
      obtain ⟨front, word, back, rfl, hfront, hne, hletters, hback⟩ := ih hline
      cases front with
      | cons d front =>
        exact ⟨c :: d :: front, word, back, rfl, by simpa using hfront, hne, hletters, hback⟩
      | nil =>
        cases hc : isBlank c with
        | true => exact ⟨[c], word, back, rfl, by simpa using hc, hne, hletters, hback⟩
        | false =>
          exact ⟨[], c :: word, back, rfl, by simp, by simp,
            List.forall_mem_cons.2 ⟨hc, hletters⟩, hback⟩

/-- A run of characters without a blank, with nothing but blanks behind it. -/
structure EndRun (line run : List Char) : Prop where
  ne_nil : run ≠ []
  letters : ∀ c ∈ run, isBlank c = false
  stands : ∃ front back, line = front ++ run ++ back ∧ allBlank back = true

/-- The longest of these runs. -/
structure LastRun (line run : List Char) : Prop extends EndRun line run where
  longest : ∀ run', EndRun line run' → run'.length ≤ run.length

theorem CutAtLast.endRun {line front word back : List Char}
    (h : CutAtLast line front word back) : EndRun line word :=
  ⟨h.ne_nil, h.letters, front, back, h.eq, h.back⟩

/-- Without the blanks at its end, the line ends in the run. -/
theorem rdropWhile_endRun {front run back : List Char} (hne : run ≠ [])
    (hletters : ∀ c ∈ run, isBlank c = false) (hback : allBlank back = true) :
    (front ++ run ++ back).rdropWhile isBlank = front ++ run := by
  obtain ⟨run, c, rfl⟩ := (List.eq_nil_or_concat run).resolve_left hne
  have hc : isBlank c = false := hletters c (by simp)
  have hblank : ∀ b ∈ back.reverse, isBlank b = true := by
    simpa [allBlank] using hback
  rw [List.rdropWhile, List.reverse_append, List.dropWhile_append_of_pos hblank]
  simp [hc]

theorem lastRun_of_cut {line front word back : List Char}
    (h : CutAtLast line front word back) : LastRun line word := by
  refine { h.endRun with longest := fun run hrun => ?_ }
  obtain ⟨front', back', heq, hback'⟩ := hrun.stands
  have hends : front ++ word = front' ++ run := by
    rw [← rdropWhile_endRun h.ne_nil h.letters h.back, ← h.eq, heq,
      rdropWhile_endRun hrun.ne_nil hrun.letters hback']
  rcases List.append_eq_append_iff.1 hends with ⟨more, -, rfl⟩ | ⟨more, rfl, rfl⟩
  · simp
  · -- A longer run would hold the blank that stands before the word.
    rcases List.eq_nil_or_concat more with rfl | ⟨more, b, rfl⟩
    · simp
    · have hb : isBlank b = true := h.front b (by simp)
      have hb' : isBlank b = false := hrun.letters b (by simp)
      rw [hb] at hb'
      cases hb'

theorem LastRun.unique {line run run' : List Char} (h : LastRun line run)
    (h' : LastRun line run') : run = run' := by
  obtain ⟨front, back, rfl, hback⟩ := h.stands
  obtain ⟨front', back', heq, hback'⟩ := h'.stands
  have hlength := Nat.le_antisymm (h'.longest run h.toEndRun) (h.longest run' h'.toEndRun)
  have hends : front ++ run = front' ++ run' := by
    rw [← rdropWhile_endRun h.ne_nil h.letters hback, heq,
      rdropWhile_endRun h'.ne_nil h'.letters hback']
  exact (List.append_inj' hends hlength).2

theorem EndRun.not_allBlank {line run : List Char} (h : EndRun line run) :
    allBlank line = false := by
  obtain ⟨hne, hletters, front, back, rfl, -⟩ := h
  obtain ⟨c, run, rfl⟩ := List.exists_cons_of_ne_nil hne
  simp [allBlank_append, allBlank_cons, hletters c (List.mem_cons_self ..)]

/-- The last word is the longest run that ends where the blanks at the end begin. -/
theorem lastWord?_eq_some_iff {line word : List Char} :
    lastWord? line = some word ↔ LastRun line word := by
  constructor
  · intro h
    obtain ⟨front, word', back, hcut⟩ := exists_cut (not_allBlank_of_lastWord h)
    rw [lastWord?_of_cut hcut] at h
    cases h
    exact lastRun_of_cut hcut
  · intro h
    obtain ⟨front, word', back, hcut⟩ := exists_cut h.not_allBlank
    rw [lastWord?_of_cut hcut, h.unique (lastRun_of_cut hcut)]

/-- Behind a blank, the last word of a text is the end of what it ends in, blanks apart. -/
theorem lastWord?_append {s back : List Char} (hne : s ≠ [])
    (hlast : ∀ c ∈ s.getLast?, isBlank c = false) (hback : allBlank back = true) {b : Char}
    (hb : isBlank b = true) (front : List Char) :
    ∃ word, lastWord? (front ++ [b] ++ s ++ back) = some word ∧ word <:+ s := by
  obtain ⟨s, c, rfl⟩ := (List.eq_nil_or_concat s).resolve_left hne
  have hc : isBlank c = false := hlast c (by simp)
  have hs : allBlank (s.concat c) = false := by
    simp [allBlank_append, allBlank_cons, hc]
  obtain ⟨before, word, behind, hcut⟩ := exists_cut hs
  obtain rfl : behind = [] := by
    rcases List.eq_nil_or_concat behind with rfl | ⟨behind, d, rfl⟩
    · rfl
    · have heq := hcut.eq
      have hd := hcut.back
      rw [List.concat_eq_append, List.concat_eq_append, ← List.append_assoc] at heq
      obtain rfl : c = d := by simpa using (List.append_inj' heq rfl).2
      simp [allBlank_append, allBlank_cons, hc] at hd
  have hstands : s.concat c = before ++ word := by
    rw [hcut.eq, List.append_nil]
  have hfront : ∀ d ∈ (front ++ [b] ++ before).getLast?, isBlank d = true := by
    intro d hd
    rw [List.getLast?_append] at hd
    cases hbefore : before.getLast? with
    | none =>
      obtain rfl : b = d := by simpa [hbefore] using hd
      exact hb
    | some e =>
      obtain rfl : e = d := by simpa [hbefore] using hd
      exact hcut.front e hbefore
  have hline : CutAtLast (front ++ [b] ++ s.concat c ++ back) (front ++ [b] ++ before) word back :=
    ⟨by rw [hstands]; simp, hfront, hcut.ne_nil, hcut.letters, hback⟩
  exact ⟨word, lastWord?_of_cut hline, before, hstands.symm⟩

end Text

namespace Header

open Text

/-! ## Headers -/

theorem matchesPath_iff {line path marker : List Char} :
    matchesPath line path marker = true ↔
      marker <+: line ∧ ∃ word, lastWord? line = some word ∧ word <:+ path := by
  rw [matchesPath, Bool.and_eq_true, List.isPrefixOf_iff_prefix]
  cases hword : lastWord? line with
  | none => simp
  | some word => simp [List.isSuffixOf_iff_suffix]

theorem isHeaderFor_iff {line path marker : String} :
    isHeaderFor line path marker = true ↔
      marker.toList <+: line.toList ∧
        ∃ word, lastWord? line.toList = some word ∧ word <:+ path.toList :=
  matchesPath_iff

/-- **A header ends in an end of the path.** The marker, any text, a blank, an end of the path
    and blanks after it are a header for the path, also where that end has blanks inside. In
    general a line is a header if it starts with the marker and the longest run without blanks
    that ends at its last character that is not blank is an end of the path. -/
theorem header_ends_in_path :
    (∀ marker text path name blanks : String, name ≠ "" → name.toList <:+ path.toList →
      (∀ c ∈ name.toList.getLast?, isBlank c = false) → allBlank blanks.toList = true →
      isHeaderFor (marker ++ text ++ " " ++ name ++ blanks) path marker = true) ∧
    ∀ line path marker : String, isHeaderFor line path marker = true ↔
      marker.toList <+: line.toList ∧
        ∃ run, LastRun line.toList run ∧ run <:+ path.toList := by
  constructor
  · intro marker text path name blanks hne hend hlast hblanks
    have hne' : name.toList ≠ [] := by simpa using hne
    obtain ⟨word, hword, hname⟩ :=
      lastWord?_append hne' hlast hblanks (b := ' ') (by decide) (marker.toList ++ text.toList)
    rw [isHeaderFor_iff]
    refine ⟨?_, word, ?_, hname.trans hend⟩
    · simp [String.toList_append, List.append_assoc]
    · rw [← hword]
      simp [String.toList_append]
  · intro line path marker
    simp only [isHeaderFor_iff, lastWord?_eq_some_iff]

/-- The name of the file has a blank in it, so that only its last word is looked at. -/
theorem header_ends_in_path_spaced :
    isHeaderFor ("#" ++ "! see" ++ " " ++ "my file.py" ++ "\t\n") "src/my file.py" "#" = true := by
  have hlast : "my file.py".toList.getLast? = some 'y' := by decide
  have hletter : ∀ c ∈ "my file.py".toList.getLast?, isBlank c = false := by
    rw [hlast]
    rintro c ⟨⟩
    decide
  exact header_ends_in_path.1 "#" "! see" "src/my file.py" "my file.py" "\t\n" (by decide)
    (by decide) hletter (by decide)

/-! ## Names of files -/

/-- What stands behind the last slash of a path, the whole path if there is no slash. -/
def nameIn (path : List Char) : List Char := path.rtakeWhile (· ≠ '/')

/-- What stands before the name ends with a slash. -/
theorem getLast?_before_name {path : List Char} {c : Char}
    (h : (path.rdropWhile (· ≠ '/')).getLast? = some c) : c = '/' := by
  obtain ⟨dirs, hdirs⟩ := List.getLast?_eq_some_iff.1 h
  have hlast := List.rdropWhile_last_not (· ≠ '/') path (by rw [hdirs]; simp)
  simp only [hdirs, List.getLast_append_singleton] at hlast
  simpa using hlast

/-- The word is the name of the path's file, perhaps with directories before it. -/
def NamesFile (word path : List Char) : Prop :=
  word = nameIn path ∨ '/' :: nameIn path <:+ word

instance (word path : List Char) : Decidable (NamesFile word path) :=
  inferInstanceAs (Decidable (_ ∨ _))

theorem length_of_namesFile {word path : List Char} (h : NamesFile word path) :
    (nameIn path).length ≤ word.length := by
  rcases h with rfl | h
  · exact Nat.le_refl _
  · exact Nat.le_of_succ_le h.length_le

/-- An end of a path that is not shorter than the name of the file names it. -/
theorem namesFile_of_suffix {word path : List Char} (h : word <:+ path)
    (hlength : (nameIn path).length ≤ word.length) : NamesFile word path := by
  have hname : nameIn path <:+ word :=
    List.suffix_of_suffix_length_le (List.rtakeWhile_suffix _ _) h hlength
  obtain ⟨dirs, rfl⟩ := hname
  rcases List.eq_nil_or_concat dirs with rfl | ⟨dirs, c, rfl⟩
  · exact Or.inl rfl
  · obtain ⟨front, hfront⟩ := h
    have hcut : path.rdropWhile (· ≠ '/') ++ nameIn path =
        (front ++ dirs ++ [c]) ++ nameIn path := by
      rw [nameIn, List.rdropWhile_append_rtakeWhile]
      simpa [nameIn] using hfront.symm
    have hlast : (path.rdropWhile (· ≠ '/')).getLast? = some c := by
      rw [List.append_cancel_right hcut]
      simp
    exact Or.inr ⟨dirs, by simp [getLast?_before_name hlast]⟩

/-- Any end of a name is accepted, however short. -/
theorem exists_header_of_suffix {word : List Char} {path : String} (hne : word ≠ [])
    (hletters : ∀ c ∈ word, isBlank c = false) (h : word <:+ path.toList) (marker : String) :
    ∃ line, isHeaderFor line path marker = true ∧ lastWord? line.toList = some word := by
  have hline : (marker ++ " " ++ String.ofList word).toList = marker.toList ++ [' '] ++ word := by
    simp [String.toList_append]
  have hcut : CutAtLast (marker.toList ++ [' '] ++ word) (marker.toList ++ [' ']) word [] := by
    refine ⟨(List.append_nil _).symm, fun c hc => ?_, hne, hletters, rfl⟩
    obtain rfl : ' ' = c := by simpa using hc
    decide
  have hword := lastWord?_of_cut hcut
  rw [← hline] at hword
  refine ⟨_, isHeaderFor_iff.2 ⟨?_, word, hword, h⟩, hword⟩
  rw [hline, List.append_assoc]
  exact List.prefix_append _ _

/-- What is accepted names the file or is shorter than its name. -/
theorem namesFile_or_short {line path marker : String} (h : isHeaderFor line path marker = true) :
    ∃ word, lastWord? line.toList = some word ∧ (NamesFile word path.toList ∨
      word <:+ nameIn path.toList ∧ word.length < (nameIn path.toList).length) := by
  obtain ⟨-, word, hword, hend⟩ := isHeaderFor_iff.1 h
  refine ⟨word, hword, ?_⟩
  by_cases hlength : (nameIn path.toList).length ≤ word.length
  · exact Or.inl (namesFile_of_suffix hend hlength)
  · rw [Nat.not_le] at hlength
    exact Or.inr ⟨List.suffix_of_suffix_length_le hend (List.rtakeWhile_suffix _ _)
      (Nat.le_of_lt hlength), hlength⟩

/-- A name of more characters than one has an end that is accepted and is not the name. -/
theorem exists_header_short {path : String} (hne : nameIn path.toList ≠ [])
    (hletters : ∀ c ∈ nameIn path.toList, isBlank c = false)
    (hlength : (nameIn path.toList).length ≠ 1) (marker : String) :
    ∃ line word, isHeaderFor line path marker = true ∧ lastWord? line.toList = some word ∧
      ¬NamesFile word path.toList := by
  obtain ⟨c, rest, hname⟩ := List.exists_cons_of_ne_nil hne
  -- All of the name but its first character.
  have hrest : rest <:+ nameIn path.toList := ⟨[c], hname.symm⟩
  have hrest_ne : rest ≠ [] := by
    rintro rfl
    exact hlength (by rw [hname]; rfl)
  obtain ⟨line, hline, hlast⟩ := exists_header_of_suffix hrest_ne
    (fun d hd => hletters d (hrest.subset hd)) (hrest.trans (List.rtakeWhile_suffix _ _)) marker
  refine ⟨line, rest, hline, hlast, fun hnames => ?_⟩
  have hle := length_of_namesFile hnames
  rw [hname, List.length_cons] at hle
  omega

/-- **A header names the file or falls short of its name.** Let the name of a path's file be
    free of blanks. The last word of a header for the path is that name, perhaps with
    directories before it, or it is an end of the name that is shorter. Every header is sure to
    name the file only where the name is a single character. -/
theorem header_names_file_or_falls_short {path : String} (hne : nameIn path.toList ≠ [])
    (hletters : ∀ c ∈ nameIn path.toList, isBlank c = false) (marker : String) :
    (∀ line, isHeaderFor line path marker = true → ∃ word, lastWord? line.toList = some word ∧
      (NamesFile word path.toList ∨
        word <:+ nameIn path.toList ∧ word.length < (nameIn path.toList).length)) ∧
    ((∀ line, isHeaderFor line path marker = true → ∃ word, lastWord? line.toList = some word ∧
      NamesFile word path.toList) ↔ (nameIn path.toList).length = 1) := by
  refine ⟨fun line => namesFile_or_short, fun hall => ?_, fun hlength line h => ?_⟩
  · by_contra hlength
    obtain ⟨line, word, hline, hlast, hnot⟩ := exists_header_short hne hletters hlength marker
    obtain ⟨word', hword', hnames⟩ := hall line hline
    rw [hlast] at hword'
    cases hword'
    exact hnot hnames
  · obtain ⟨word, hword, hnames | ⟨-, hlt⟩⟩ := namesFile_or_short h
    · exact ⟨word, hword, hnames⟩
    · have hpos := List.length_pos_iff.2 (lastWord?_eq_some_iff.1 hword).ne_nil
      omega

/-- The name `bar.py` has more than one character. -/
theorem header_names_file_or_falls_short_bar :
    ¬∀ line, isHeaderFor line "src/bar.py" "#" = true →
      ∃ word, lastWord? line.toList = some word ∧ NamesFile word "src/bar.py".toList := by
  intro hall
  have hname : nameIn "src/bar.py".toList = "bar.py".toList := by decide
  have hne : nameIn "src/bar.py".toList ≠ [] := by decide
  have hletters : ∀ c ∈ nameIn "src/bar.py".toList, isBlank c = false := by
    rw [hname]
    simp [isBlank]
  have hlength := (header_names_file_or_falls_short hne hletters "#").2.1 hall
  rw [hname] at hlength
  cases hlength

/-- A header with the name of another file, which is the end of the right one. -/
theorem header_names_another_file :
    isHeaderFor "# r.py\n" "src/bar.py" "#" = true ∧
      nameIn "src/bar.py".toList = "bar.py".toList ∧
      lastWord? "# r.py\n".toList = some "r.py".toList ∧
      ¬NamesFile "r.py".toList "src/bar.py".toList := by
  decide

end Header

end SourceTidy
