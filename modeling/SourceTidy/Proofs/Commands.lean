/-
  The commands of the tools. The settings that a text gives meet the rules, so that each
  command line begins with a program (`Settings.sound_of_parse`); a command is then that
  program with the words behind it and with what the action puts at the end, and the action
  starts it once (`settings_give_commands`). An absolute path goes through the same names as
  the path that it is made from (`Path.exists_absolute`).
-/
import SourceTidy.Proofs.DocumentSettings
import SourceTidy.Proofs.Parents
import SourceTidy.Proofs.Tools

namespace SourceTidy

/-! ## Absolute paths -/

namespace Path

theorem named_append_slash (s t : List Char) : named (s ++ '/' :: t) = named s ++ named t := by
  unfold named
  rw [split_append_slash, List.filter_append]

theorem not_mem_of_mem_split {s part : List Char} (h : part ∈ split s) : '/' ∉ part := by
  induction s generalizing part with
  | nil =>
    rw [split, List.mem_singleton] at h
    rw [h]
    exact List.not_mem_nil
  | cons c s ih =>
    rw [split] at h
    split at h
    · rcases List.mem_cons.1 h with rfl | h
      · exact List.not_mem_nil
      · exact ih h
    · next hc =>
      cases hs : split s with
      | nil => exact absurd hs (split_ne_nil s)
      | cons first rest =>
        simp only [hs] at h ih
        rcases List.mem_cons.1 h with rfl | h
        · rw [List.mem_cons, not_or]
          exact ⟨Ne.symm hc, ih List.mem_cons_self⟩
        · exact ih (List.mem_cons_of_mem _ h)

theorem named_of_mem_named {s n : List Char} (h : n ∈ named s) : named n = [n] := by
  obtain ⟨hsplit, hn⟩ := List.mem_filter.1 h
  unfold named
  rw [split_of_not_mem (not_mem_of_mem_split hsplit), List.filter_cons, if_pos hn]
  rfl

theorem named_append_slashed (s : List Char) {names : List (List Char)}
    (h : ∀ n ∈ names, named n = [n]) : named (s ++ slashed names) = named s ++ names := by
  induction names generalizing s with
  | nil => simp [slashed]
  | cons n names ih =>
    obtain ⟨hn, hnames⟩ := List.forall_mem_cons.1 h
    have hfront : s ++ slashed (n :: names) = (s ++ '/' :: n) ++ slashed names := by
      simp [slashed]
    rw [hfront, ih _ hnames, named_append_slash, hn, List.append_assoc]
    rfl

theorem isAbsolute_path (l : Location) : isAbsolute l.path = true := by
  cases l with
  | nil => rfl
  | cons n l => simp [isAbsolute, Location.path, slashed]

theorem isAbsolute_of_startsWithTwoSlashes {path : String}
    (h : startsWithTwoSlashes path.toList = true) : isAbsolute path = true := by
  unfold startsWithTwoSlashes at h
  unfold isAbsolute
  cases hpath : path.toList with
  | nil => simp [hpath] at h
  | cons c s =>
    have htake : c :: s.take 1 = ['/', '/'] := by
      rw [hpath, Bool.and_eq_true] at h
      exact of_decide_eq_true h.1
    rw [(List.cons.inj htake).1]
    rfl

/-- Nothing, or something from a slash on. -/
def FromSlash (s : List Char) : Prop := s = [] ∨ s.head? = some '/'

theorem FromSlash.append {s t : List Char} (hs : FromSlash s) (ht : FromSlash t) :
    FromSlash (s ++ t) := by
  rcases hs with rfl | hs
  · exact ht
  · right
    rw [List.head?_append, hs]
    rfl

theorem fromSlash_slashed (names : List (List Char)) : FromSlash (slashed names) := by
  cases names with
  | nil => exact Or.inl rfl
  | cons n names => exact Or.inr rfl

/-- Any path but the empty one has an absolute form. It starts from the top directory, and it
    goes through the names of the path, behind those of the home unless the path is absolute
    already. -/
theorem exists_absolute {home path : String} (hhome : isAbsolute home = true)
    (hpath : path ≠ "") :
    ∃ absolute, absolute? home path = some absolute ∧ isAbsolute absolute = true ∧
      named absolute.toList =
        (if isAbsolute path then [] else named home.toList) ++ named path.toList := by
  have hne : path.toList.isEmpty = false := by simpa using hpath
  have hslash : FromSlash ['/'] := Or.inr rfl
  unfold absolute?
  simp only [hne, Bool.false_eq_true, if_false]
  generalize hstart : (if startsWithTwoSlashes path.toList = true then ['/'] else _) = start
  have hstart' : FromSlash start ∧
      named start = if isAbsolute path then [] else named home.toList := by
    rw [← hstart]
    split
    · next htwo =>
      rw [if_pos (isAbsolute_of_startsWithTwoSlashes htwo)]
      exact ⟨hslash, rfl⟩
    · split
      · exact ⟨Or.inl rfl, rfl⟩
      · split
        · next htop =>
          rw [htop]
          exact ⟨Or.inl rfl, rfl⟩
        · exact ⟨Or.inr (of_decide_eq_true hhome), rfl⟩
  generalize hbody : (if ((named path.toList).isEmpty && startsWithTwoSlashes path.toList) = true
    then ['/', '/'] else start ++ slashed (named path.toList)) = body
  have hbody' : FromSlash body ∧ named body =
      (if isAbsolute path then [] else named home.toList) ++ named path.toList := by
    rw [← hbody]
    split
    · next htwo =>
      obtain ⟨hnames, htwo⟩ := Bool.and_eq_true_iff.1 htwo
      rw [if_pos (isAbsolute_of_startsWithTwoSlashes htwo), List.isEmpty_iff.1 hnames]
      exact ⟨Or.inr rfl, rfl⟩
    · refine ⟨hstart'.1.append (fromSlash_slashed _), ?_⟩
      rw [named_append_slashed start fun n hn => named_of_mem_named hn, hstart'.2]
  -- A slash at the end adds no name.
  generalize hclosed : (if (decide (path.toList.getLast? = some '/') &&
    decide (body.getLast? ≠ some '/')) = true then body ++ ['/'] else body) = closed
  have hclosed' : FromSlash closed ∧ named closed = named body := by
    rw [← hclosed]
    split
    · refine ⟨hbody'.1.append hslash, ?_⟩
      rw [named_append_slash]
      exact List.append_nil _
    · exact ⟨hbody'.1, rfl⟩
  refine ⟨_, rfl, ?_⟩
  rw [isAbsolute, String.toList_ofList, ← hbody'.2, ← hclosed'.2]
  rcases hclosed'.1 with rfl | hhead
  · exact ⟨rfl, rfl⟩
  · cases closed with
    | nil => cases hhead
    | cons c closed => exact ⟨decide_eq_true hhead, rfl⟩

end Path

/-! ## Settings that a text gives -/

/-- A command line that names a program has a first word, which is not blank. -/
theorem exists_words_of_namesProgram {line : List String} (h : namesProgram line = true) :
    ∃ program words, line = program :: words ∧
      ∃ c ∈ program.toList, Text.isBlank c = false := by
  cases line with
  | nil => cases h
  | cons program words =>
    refine ⟨program, words, rfl, ?_⟩
    simpa [namesProgram, Text.allBlank] using h

/-- Settings that a text gives meet the rules, and their line length has at most 64 bits. -/
theorem Settings.sound_of_parse {text : String} {s : Settings}
    (hs : Settings.parse text = .ok s) : s.Sound ∧ s.lineLength < Number.twoTo 64 := by
  cases hdoc : Toml.parse? text with
  | none =>
    rw [Settings.parse, hdoc] at hs
    cases hs
  | some rows =>
    obtain ⟨hrows, hsound⟩ := (Settings.parse_eq_ok hdoc).1 hs
    have hkeys := (Toml.distinct_table (Toml.parse?_distinct hdoc)).1
    have htaken := (Settings.taken_of_ofRows hkeys hrows).lineLength
    have hlength : s.lineLength < Number.twoTo 64 :=
      htaken.holds (P := (· < Number.twoTo 64)) (by decide) fun _ _ hread => (countOf_eq_ok hread).2
    exact ⟨hsound, hlength⟩

theorem isDigit_of_mem_toString {n : Nat} {c : Char} (h : c ∈ (toString n).toList) :
    c.isDigit = true := by
  have htext : (toString n).toList = Nat.toDigits 10 n := Nat.toList_repr
  rw [htext] at h
  exact Nat.isDigit_of_mem_toDigits (by decide) (by decide) h

/-! ## Commands -/

section Words

variable {p : Plan} {program : String} {words : List String}

theorem formatterCommand?_of_words (h : p.job.settings.tools.formatter = program :: words) :
    formatterCommand? p =
      some ⟨program, words ++ [p.job.target, "-l", toString p.job.settings.lineLength]⟩ := by
  simp [formatterCommand?, h, Command.ofWords?, Command.arg]

theorem linterCommand?_of_words (h : p.job.settings.tools.linter = program :: words) :
    linterCommand? p = some ⟨program, words ++ [p.job.target]⟩ := by
  simp [linterCommand?, h, Command.ofWords?, Command.arg]

theorem doctestCommand?_of_words (h : p.job.settings.tools.doctest = program :: words)
    {home : Location} {path absolute : String}
    (habsolute : Path.absolute? home.path path = some absolute) :
    doctestCommand? p home path = .ok (some ⟨program, words ++ [absolute]⟩) := by
  simp [doctestCommand?, habsolute, h, Command.ofWords?, Command.arg]

end Words

/-- **Settings that a text gives have a command for every tool.** Each command line begins with
    a program that is not blank. The formatter's command is that program with the other words,
    the target, and the line length behind its option, in digits that read back as the same
    number, which is positive and has at most 64 bits; the linter's ends with the target, and
    the one for an example session with the absolute form of its path. So the actions of the
    formatter and of the linter start their command once, and do nothing else. -/
theorem settings_give_commands {text : String} {s : Settings}
    (hs : Settings.parse text = .ok s) :
    ∃ formatter formatterWords linter linterWords doctest doctestWords,
      s.tools = ⟨formatter :: formatterWords, linter :: linterWords, doctest :: doctestWords⟩ ∧
      (∀ program ∈ [formatter, linter, doctest],
        ∃ c ∈ program.toList, Text.isBlank c = false) ∧
      0 < s.lineLength ∧ s.lineLength < Number.twoTo 64 ∧
      (∀ c ∈ (toString s.lineLength).toList, c.isDigit = true) ∧
      (toString s.lineLength).toNat? = some s.lineLength ∧
      ∀ (target : String) (quiet : Bool) (disabled : List String) (h : Host) (fs : FileSystem),
        let p : Plan := ⟨⟨target, s⟩, quiet, disabled⟩
        let format : Command :=
          ⟨formatter, formatterWords ++ [target, "-l", toString s.lineLength]⟩
        let lint : Command := ⟨linter, linterWords ++ [target]⟩
        formatterCommand? p = some format ∧
        linterCommand? p = some lint ∧
        (∀ path ≠ "", ∃ absolute,
          Path.absolute? h.home.path path = some absolute ∧
          Path.isAbsolute absolute = true ∧
          Path.named absolute.toList =
            (if Path.isAbsolute path then [] else Path.named h.home.path.toList) ++
              Path.named path.toList ∧
          doctestCommand? p h.home path = .ok (some ⟨doctest, doctestWords ++ [absolute]⟩)) ∧
        Action.black.run p h fs = ⟨.ok (), toolProgress format fs (h.launch format fs)⟩ ∧
        Action.flake.run p h fs = ⟨.ok (), toolProgress lint fs (h.launch lint fs)⟩ := by
  obtain ⟨hsound, hbits⟩ := Settings.sound_of_parse hs
  obtain ⟨formatter, formatterWords, hformatter, hfblank⟩ :=
    exists_words_of_namesProgram hsound.tools.formatter
  obtain ⟨linter, linterWords, hlinter, hlblank⟩ :=
    exists_words_of_namesProgram hsound.tools.linter
  obtain ⟨doctest, doctestWords, hdoctest, hdblank⟩ :=
    exists_words_of_namesProgram hsound.tools.doctest
  have htools : s.tools =
      ⟨formatter :: formatterWords, linter :: linterWords, doctest :: doctestWords⟩ := by
    rw [← hformatter, ← hlinter, ← hdoctest]
  have hprograms : ∀ program ∈ [formatter, linter, doctest],
      ∃ c ∈ program.toList, Text.isBlank c = false := by
    simp only [List.forall_mem_cons]
    exact ⟨hfblank, hlblank, hdblank, fun _ h => nomatch h⟩
  refine ⟨formatter, formatterWords, linter, linterWords, doctest, doctestWords, htools,
    hprograms, Nat.pos_of_ne_zero hsound.lineLength, hbits, fun _ => isDigit_of_mem_toString,
    Nat.toNat?_repr _, ?_⟩
  intro target quiet disabled h fs p format lint
  have hformat : formatterCommand? p = some format := formatterCommand?_of_words hformatter
  have hlint : linterCommand? p = some lint := linterCommand?_of_words hlinter
  refine ⟨hformat, hlint, fun path hpath => ?_, ?_, ?_⟩
  · obtain ⟨absolute, habsolute, htop, hnames⟩ :=
      Path.exists_absolute (Path.isAbsolute_path h.home) hpath
    exact ⟨absolute, habsolute, htop, hnames, doctestCommand?_of_words hdoctest habsolute⟩
  · show Activity.runTool? (formatterCommand? p) h fs = _
    rw [hformat, Activity.runTool?_some]
  · show Activity.runTool? (linterCommand? p) h fs = _
    rw [hlint, Activity.runTool?_some]

theorem parse_longest_line :
    Settings.parse "line_length = 18446744073709551615\ntools.linter = ['ruff', 'check']\n" =
      .ok { lineLength := 18446744073709551615, tools := { linter := ["ruff", "check"] } } := by
  have hdoc :
      Toml.parse? "line_length = 18446744073709551615\ntools.linter = ['ruff', 'check']\n" =
        some [("line_length", .integer 18446744073709551615),
          ("tools", .table [("linter", wordsValue ["ruff", "check"])])] := by cbv
  have hlength := countOf_integer (n := 18446744073709551615) (by decide) (by decide)
  have htools : ToolLines.ofValue (.table [("linter", wordsValue ["ruff", "check"])]) =
      .ok { linter := ["ruff", "check"] } := by
    simp only [ToolLines.ofValue, Toml.sortedRows_of_sorted (List.pairwise_singleton _ _)]
    rfl
  refine (Settings.parse_eq_ok hdoc).2 ⟨?_, Settings.check_eq_ok.1 (by decide)⟩
  rw [Settings.ofRows, Toml.sortedRows_of_sorted (by decide)]
  simp only [List.foldlM_cons, Settings.setRow, hlength, htools]
  rfl

/-- The longest line length there is, a linter with a word of its own, a target that looks like
    an option, and the defaults for the rest. -/
theorem settings_give_commands_longest_line :
    ∃ s, Settings.parse
        "line_length = 18446744073709551615\ntools.linter = ['ruff', 'check']\n" = .ok s ∧
      formatterCommand? ⟨⟨"-d", s⟩, true, []⟩ =
        some ⟨"black", ["-d", "-l", "18446744073709551615"]⟩ ∧
      doctestCommand? ⟨⟨"-d", s⟩, true, []⟩ ["d"] "./x.repl" =
        .ok (some ⟨"python3", ["-m", "doctest", "/d/x.repl"]⟩) ∧
      ∀ (h : Host) (fs : FileSystem), Action.flake.run ⟨⟨"-d", s⟩, true, []⟩ h fs =
        ⟨.ok (), toolProgress ⟨"ruff", ["check", "-d"]⟩ fs
          (h.launch ⟨"ruff", ["check", "-d"]⟩ fs)⟩ := by
  obtain ⟨formatter, formatterWords, linter, linterWords, doctest, doctestWords, htools, -, -, -,
    -, -, hcommands⟩ := settings_give_commands parse_longest_line
  rw [ToolLines.mk.injEq, List.cons.injEq, List.cons.injEq, List.cons.injEq] at htools
  obtain ⟨⟨rfl, rfl⟩, ⟨rfl, rfl⟩, rfl, rfl⟩ := htools
  refine ⟨_, parse_longest_line, ?_, ?_, fun h fs => ?_⟩
  · obtain ⟨hformat, -⟩ := hcommands "-d" true [] bareHost .empty
    exact hformat
  · obtain ⟨-, -, hdoctest, -⟩ := hcommands "-d" true []
      { bareHost with home := ["d"] } .empty
    obtain ⟨absolute, habsolute, -, -, hcommand⟩ := hdoctest "./x.repl" (by decide)
    have hx : Path.absolute? (Location.path ["d"]) "./x.repl" = some "/d/x.repl" := by decide
    obtain rfl : "/d/x.repl" = absolute := Option.some.inj (hx.symm.trans habsolute)
    exact hcommand
  · obtain ⟨-, -, -, -, hflake⟩ := hcommands "-d" true [] h fs
    exact hflake

end SourceTidy
