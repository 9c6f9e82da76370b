/-
  Which documents give settings, and which settings they give. A document is taken row by row,
  so it gives settings if each of its rows may stand in it (`AdmissibleRow`), whatever the
  other rows are. Then every setting is what its own key stands for, and has its default if
  the document does not have the key (`Fills`); `document_gives_settings` says both.
-/
import Mathlib
import SourceTidy.CommandLine
import SourceTidy.Proofs.Documents

namespace SourceTidy

open Toml (Value)

/-! ## Rows taken one after the other -/

theorem except_bind_eq_ok {ε α β : Type} {x : Except ε α} {f : α → Except ε β} {b : β}
    (h : (x >>= f) = .ok b) : ∃ a, x = .ok a ∧ f a = .ok b := by
  cases x with
  | error e => cases h
  | ok a => exact ⟨a, rfl, h⟩

/-- What a reader makes of the value that is given, or else the default. -/
def Takes {α : Type} (read : Value → Except SettingsError α) (default : α) :
    Option Value → α → Prop
  | none, a => a = default
  | some v, a => read v = .ok a

theorem Takes.of_mem {α : Type} {read : Value → Except SettingsError α} {default a : α}
    {rows : List (String × Value)} {key : String} {v : Value}
    (h : Takes read default (rows.lookup key) a) (hkeys : (rows.map Prod.fst).Nodup)
    (hrow : (key, v) ∈ rows) : read v = .ok a := by
  rw [(Toml.lookup_eq_some_iff_mem hkeys).2 hrow] at h
  exact h

/-- What holds of the default, and of all that is given, holds in the end. -/
theorem Takes.holds {α : Type} {read : Value → Except SettingsError α} {default a : α}
    {given : Option Value} {P : α → Prop} (h : Takes read default given a) (hdefault : P default)
    (hgiven : ∀ v, given = some v → read v = .ok a → P a) : P a := by
  cases given with
  | none =>
    obtain rfl : a = default := h
    exact hdefault
  | some v => exact hgiven v rfl h

section Rows

variable {σ : Type} {step : σ → String × Value → Except SettingsError σ}

theorem exists_foldlM_ok {rows : List (String × Value)}
    (h : ∀ row ∈ rows, ∀ s, ∃ s', step s row = .ok s') (s : σ) :
    ∃ s', rows.foldlM step s = .ok s' := by
  induction rows generalizing s with
  | nil => exact ⟨s, rfl⟩
  | cons row rows ih =>
    obtain ⟨hrow, hrows⟩ := List.forall_mem_cons.1 h
    obtain ⟨s', hs'⟩ := hrow s
    obtain ⟨s'', hs''⟩ := ih hrows s'
    refine ⟨s'', ?_⟩
    rw [List.foldlM_cons, hs']
    exact hs''

theorem exists_step_of_foldlM {rows : List (String × Value)} {s s' : σ}
    (h : rows.foldlM step s = .ok s') {row : String × Value} (hrow : row ∈ rows) :
    ∃ t t', step t row = .ok t' := by
  induction rows generalizing s with
  | nil => cases hrow
  | cons r rows ih =>
    rw [List.foldlM_cons] at h
    obtain ⟨t, ht, hrest⟩ := except_bind_eq_ok h
    rcases List.mem_cons.1 hrow with rfl | hrow
    · exact ⟨s, t, ht⟩
    · exact ih hrest hrow

/-- A row with the key sets a part of the settings, and other rows leave that part. -/
def SetsPart {α : Type} (step : σ → String × Value → Except SettingsError σ) (key : String)
    (read : Value → Except SettingsError α) (part : σ → α) : Prop :=
  ∀ s row s', step s row = .ok s' →
    if row.1 = key then read row.2 = .ok (part s') else part s' = part s

/-- In the end such a part is what the one row with its key gives, if there is one. -/
theorem takes_of_foldlM {α : Type} {key : String} {read : Value → Except SettingsError α}
    {part : σ → α} (hpart : SetsPart step key read part) {rows : List (String × Value)}
    (hkeys : (rows.map Prod.fst).Nodup) {s s' : σ} (h : rows.foldlM step s = .ok s') :
    Takes read (part s) (rows.lookup key) (part s') := by
  induction rows generalizing s with
  | nil =>
    cases h
    rfl
  | cons row rows ih =>
    rw [List.foldlM_cons] at h
    obtain ⟨t, ht, hrest⟩ := except_bind_eq_ok h
    obtain ⟨k, v⟩ := row
    rw [List.map_cons, List.nodup_cons] at hkeys
    have hfirst := hpart s (k, v) t ht
    have hlater := ih hkeys.2 hrest
    by_cases hk : k = key
    · subst hk
      -- No later row has the key, so the part stays as this row has set it.
      have hnone : rows.lookup k = none := by
        rw [List.lookup_eq_none_iff]
        intro row hrow
        have hne : row.1 ≠ k := fun heq => hkeys.1 (List.mem_map.2 ⟨row, hrow, heq⟩)
        simpa using Ne.symm hne
      rw [if_pos rfl] at hfirst
      rw [hnone] at hlater
      have hstays : part s' = part t := hlater
      rw [List.lookup_cons_self, hstays]
      exact hfirst
    · have hb : (key == k) = false := by simpa using Ne.symm hk
      rw [if_neg hk] at hfirst
      rw [List.lookup_cons, hb, ← hfirst]
      exact hlater

end Rows

/-! ## Readers of single values -/

/-- The value that lists some words. -/
def wordsValue (words : List String) : Value := .array (words.map .string)

theorem countOf_eq_ok {v : Value} {n : Nat} (h : countOf v = .ok n) :
    v = .integer n ∧ n < Number.twoTo 64 := by
  unfold countOf at h
  split at h
  · next m =>
    split at h
    · next hm =>
      cases h
      refine ⟨?_, by omega⟩
      rw [Int.toNat_of_nonneg hm.1]
    · split at h <;> cases h
  · cases h

theorem countOf_integer {n : Int} (h : 0 ≤ n) (hn : n < Number.twoTo 64) :
    countOf (.integer n) = .ok n.toNat := by
  unfold countOf
  exact if_pos ⟨h, hn⟩

theorem stringOf_eq_ok {v : Value} {s : String} : stringOf v = .ok s ↔ v = .string s := by
  unfold stringOf
  split
  · simp
  · next v hv =>
    simp only [reduceCtorEq, false_iff]
    exact hv s

theorem Takes.holds_string {default s : String} {given : Option Value} {P : String → Prop}
    (h : Takes stringOf default given s) (hdefault : P default)
    (hgiven : ∀ v, given = some v → ∃ e, v = .string e ∧ P e) : P s := by
  refine h.holds hdefault fun v hv hread => ?_
  obtain ⟨e, he, hP⟩ := hgiven v hv
  rw [stringOf_eq_ok.1 hread, Value.string.injEq] at he
  exact he ▸ hP

theorem mapM_stringOf_eq_ok {items : List Value} {words : List String} :
    items.mapM stringOf = .ok words ↔ items = words.map .string := by
  induction items generalizing words with
  | nil => cases words <;> simp [Pure.pure, Except.pure]
  | cons v items ih =>
    rw [List.mapM_cons]
    constructor
    · intro h
      obtain ⟨s, hs, h⟩ := except_bind_eq_ok h
      obtain ⟨ss, hss, h⟩ := except_bind_eq_ok h
      cases h
      rw [stringOf_eq_ok.1 hs, ih.1 hss, List.map_cons]
    · intro h
      cases words with
      | nil => cases h
      | cons s ss =>
        rw [List.map_cons, List.cons.injEq] at h
        rw [stringOf_eq_ok.2 h.1, ih.2 h.2]
        rfl

theorem stringsOf_eq_ok {v : Value} {words : List String} :
    stringsOf v = .ok words ↔ v = wordsValue words := by
  unfold stringsOf wordsValue
  split
  · rw [mapM_stringOf_eq_ok, Value.array.injEq]
  · next v hv =>
    simp only [reduceCtorEq, false_iff]
    exact hv _

/-! ## What a document may give -/

/-- A point in front, and at least two bytes. -/
def IsExtension (s : String) : Prop := s.toList.head? = some '.' ∧ 2 ≤ s.utf8ByteSize

/-- A list of words that begins with one that is not blank. -/
def IsCommandLine (v : Value) : Prop :=
  ∃ program args, v = wordsValue (program :: args) ∧
    ∃ c ∈ program.toList, Text.isBlank c = false

/-- A value that may stand for the tools: a table of command lines under the names of tools, or
    an array of them, of which only the first three count. -/
inductive AdmissibleTools : Value → Prop where
  | table {rows : List (String × Value)} :
      (∀ row ∈ rows, row.1 ∈ ["formatter", "linter", "doctest"] ∧ IsCommandLine row.2) →
      AdmissibleTools (.table rows)
  | array {items : List Value} :
      (∀ item ∈ items.take 3, IsCommandLine item) → AdmissibleTools (.array items)

/-- A row that may stand in a document of settings. -/
def AdmissibleRow : String × Value → Prop
  | ("line_length", v) => ∃ n : Int, v = .integer n ∧ 1 ≤ n ∧ n < Number.twoTo 64
  | ("extension", v) => ∃ s, v = .string s ∧ IsExtension s
  | ("repl_extension", v) => ∃ s, v = .string s ∧ IsExtension s
  | ("comment_marker", v) => ∃ s, v = .string s ∧ s ≠ ""
  | ("tools", v) => AdmissibleTools v
  | _ => False

/-- A setting is what is given for it, or else its default; `write` says how a setting stands
    in a document. -/
def GivenOr {α : Type} (write : α → Value) (default : α) : Option Value → α → Prop
  | none, a => a = default
  | some v, a => v = write a

/-- What a value for the tools gives for one of them: a table by its name, an array by its
    place. -/
def toolItem? (name : String) (place : Nat) : Value → Option Value
  | .table rows => rows.lookup name
  | .array items => items[place]?
  | _ => none

/-- Each setting is what the rows give for it, or has its default. -/
structure Fills (rows : List (String × Value)) (s : Settings) : Prop where
  lineLength : GivenOr (fun n : Nat => .integer n) 80 (rows.lookup "line_length") s.lineLength
  extension : GivenOr .string ".py" (rows.lookup "extension") s.extension
  replExtension : GivenOr .string ".repl" (rows.lookup "repl_extension") s.replExtension
  commentMarker : GivenOr .string "#" (rows.lookup "comment_marker") s.commentMarker
  formatter : GivenOr wordsValue ["black"]
    ((rows.lookup "tools").bind (toolItem? "formatter" 0)) s.tools.formatter
  linter : GivenOr wordsValue ["flake8"]
    ((rows.lookup "tools").bind (toolItem? "linter" 1)) s.tools.linter
  doctest : GivenOr wordsValue ["python3", "-m", "doctest"]
    ((rows.lookup "tools").bind (toolItem? "doctest" 2)) s.tools.doctest

theorem Takes.givenOr {α : Type} {read : Value → Except SettingsError α} {write : α → Value}
    (hread : ∀ v a, read v = .ok a → v = write a) {default a : α} {given : Option Value}
    (h : Takes read default given a) : GivenOr write default given a := by
  cases given with
  | none => exact h
  | some v => exact hread v a h

/-! ## The tools -/

theorem namesProgram_iff {words : List String} :
    namesProgram words = true ↔ IsCommandLine (wordsValue words) := by
  cases words with
  | nil => simp [namesProgram, IsCommandLine, wordsValue]
  | cons program args =>
    constructor
    · intro h
      refine ⟨program, args, rfl, ?_⟩
      simpa [namesProgram, Text.allBlank] using h
    · rintro ⟨program', args', heq, hprogram⟩
      have hp : program = program' := by
        simp only [wordsValue, List.map_cons, Value.array.injEq, List.cons.injEq,
          Value.string.injEq] at heq
        exact heq.1
      rw [← hp] at hprogram
      simpa [namesProgram, Text.allBlank] using hprogram

namespace ToolLines

/-- All command lines name a program. -/
structure Sound (t : ToolLines) : Prop where
  formatter : namesProgram t.formatter = true
  linter : namesProgram t.linter = true
  doctest : namesProgram t.doctest = true

theorem setRow_eq_ok {t t' : ToolLines} {row : String × Value} (h : setRow t row = .ok t') :
    ∃ words, stringsOf row.2 = .ok words ∧
      (row.1 = "formatter" ∧ t' = { t with formatter := words } ∨
        row.1 = "linter" ∧ t' = { t with linter := words } ∨
        row.1 = "doctest" ∧ t' = { t with doctest := words }) := by
  unfold setRow at h
  split at h
  · obtain ⟨words, hwords, h⟩ := except_bind_eq_ok h
    cases h
    exact ⟨words, hwords, Or.inl ⟨rfl, rfl⟩⟩
  · obtain ⟨words, hwords, h⟩ := except_bind_eq_ok h
    cases h
    exact ⟨words, hwords, Or.inr (Or.inl ⟨rfl, rfl⟩)⟩
  · obtain ⟨words, hwords, h⟩ := except_bind_eq_ok h
    cases h
    exact ⟨words, hwords, Or.inr (Or.inr ⟨rfl, rfl⟩)⟩
  · cases h

theorem setRow_setsParts :
    SetsPart setRow "formatter" stringsOf formatter ∧
      SetsPart setRow "linter" stringsOf linter ∧
      SetsPart setRow "doctest" stringsOf doctest := by
  refine ⟨?_, ?_, ?_⟩
  all_goals
    intro t row t' h
    obtain ⟨words, hwords, ⟨hk, rfl⟩ | ⟨hk, rfl⟩ | ⟨hk, rfl⟩⟩ := setRow_eq_ok h
    all_goals simp [hk, hwords]

/-- The rows that a value for the tools amounts to. -/
def rows? : Value → Option (List (String × Value))
  | .table rows => some (Toml.sortedRows rows)
  | .array items => some (keys.zip items)
  | _ => none

theorem ofValue_eq_ok {v : Value} {t : ToolLines} :
    ofValue v = .ok t ↔ ∃ rows, rows? v = some rows ∧ rows.foldlM setRow {} = .ok t := by
  cases v <;> simp [ofValue, rows?]

/-- What the rows have under a name is what the value gives for it. -/
theorem lookup_rows? {v : Value} (hv : v.Distinct) {rows : List (String × Value)}
    (h : rows? v = some rows) :
    (rows.map Prod.fst).Nodup ∧ rows.lookup "formatter" = toolItem? "formatter" 0 v ∧
      rows.lookup "linter" = toolItem? "linter" 1 v ∧
      rows.lookup "doctest" = toolItem? "doctest" 2 v := by
  cases v with
  | table inner =>
    cases h
    cases hv with
    | simple hsimple => exact hsimple.elim
    | table hkeys _ =>
      have hperm := (Toml.sortedRows_perm inner).symm
      have hlookup : ∀ k, (Toml.sortedRows inner).lookup k = inner.lookup k :=
        fun k => (Toml.lookup_perm hkeys hperm k).symm
      exact ⟨(hperm.map Prod.fst).nodup_iff.1 hkeys, hlookup _, hlookup _, hlookup _⟩
  | array items =>
    cases h
    match items with
    | [] => simp [keys, toolItem?]
    | [_] => simp [keys, toolItem?, List.lookup]
    | [_, _] => simp [keys, toolItem?, List.lookup]
    | _ :: _ :: _ :: _ => simp [keys, toolItem?, List.lookup]
  | _ => cases h

/-- A value may stand for the tools if its rows are command lines under the names of tools. -/
theorem admissibleTools_iff {v : Value} :
    AdmissibleTools v ↔ ∃ rows, rows? v = some rows ∧ ∀ row ∈ rows,
      row.1 ∈ ["formatter", "linter", "doctest"] ∧ IsCommandLine row.2 := by
  constructor
  · intro h
    cases h with
    | @table inner hrows =>
      exact ⟨_, rfl, fun row hrow => hrows row ((Toml.sortedRows_perm inner).mem_iff.1 hrow)⟩
    | @array items hitems =>
      refine ⟨_, rfl, ?_⟩
      match items with
      | [] => simp [keys]
      | [_] => simpa [keys] using hitems
      | [_, _] => simpa [keys] using hitems
      | _ :: _ :: _ :: _ => simpa [keys] using hitems
  · rintro ⟨rows, hrows, hall⟩
    cases v with
    | table inner =>
      cases hrows
      exact .table fun row hrow => hall row ((Toml.sortedRows_perm inner).mem_iff.2 hrow)
    | array items =>
      cases hrows
      refine .array ?_
      match items with
      | [] => simp
      | [_] => simpa [keys] using hall
      | [_, _] => simpa [keys] using hall
      | _ :: _ :: _ :: _ => simpa [keys] using hall
    | _ => cases hrows

/-- Each tool has the words that are given for it, or its default. -/
theorem takes_of_ofValue {v : Value} (hv : v.Distinct) {t : ToolLines} (h : ofValue v = .ok t) :
    Takes stringsOf ["black"] (toolItem? "formatter" 0 v) t.formatter ∧
      Takes stringsOf ["flake8"] (toolItem? "linter" 1 v) t.linter ∧
      Takes stringsOf ["python3", "-m", "doctest"] (toolItem? "doctest" 2 v) t.doctest := by
  obtain ⟨rows, hrows, hfold⟩ := ofValue_eq_ok.1 h
  obtain ⟨hkeys, hformatter, hlinter, hdoctest⟩ := lookup_rows? hv hrows
  obtain ⟨fsets, lsets, dsets⟩ := setRow_setsParts
  rw [← hformatter, ← hlinter, ← hdoctest]
  exact ⟨takes_of_foldlM fsets hkeys hfold, takes_of_foldlM lsets hkeys hfold,
    takes_of_foldlM dsets hkeys hfold⟩

theorem sound_of_takes {default words : List String} {given : Option Value}
    (hdefault : namesProgram default = true) (hgiven : ∀ v, given = some v → IsCommandLine v)
    (h : Takes stringsOf default given words) : namesProgram words = true := by
  refine h.holds (P := (namesProgram · = true)) hdefault fun v hv hread => ?_
  rw [namesProgram_iff, ← stringsOf_eq_ok.1 hread]
  exact hgiven v hv

/-- A value that may stand for the tools can be read. -/
theorem exists_ofValue_of_admissible {v : Value} (h : AdmissibleTools v) :
    ∃ t, ofValue v = .ok t := by
  obtain ⟨rows, hrows, hall⟩ := admissibleTools_iff.1 h
  have hstep : ∀ row ∈ rows, ∀ t, ∃ t', setRow t row = .ok t' := by
    intro row hrow t
    obtain ⟨hname, program, args, hvalue, -⟩ := hall row hrow
    obtain ⟨k, value⟩ := row
    obtain rfl : value = wordsValue (program :: args) := hvalue
    have hwords := stringsOf_eq_ok.2 (Eq.refl (wordsValue (program :: args)))
    simp only [List.mem_cons, List.not_mem_nil, or_false] at hname
    rcases hname with rfl | rfl | rfl <;> simp only [setRow, hwords] <;> exact ⟨_, rfl⟩
  obtain ⟨t, ht⟩ := exists_foldlM_ok hstep {}
  exact ⟨t, ofValue_eq_ok.2 ⟨rows, hrows, ht⟩⟩

/-- Of values that can be read, those may stand for the tools that name a program for each. -/
theorem admissible_iff_sound {v : Value} (hv : v.Distinct) {t : ToolLines}
    (h : ofValue v = .ok t) : AdmissibleTools v ↔ t.Sound := by
  obtain ⟨rows, hrows, hfold⟩ := ofValue_eq_ok.1 h
  obtain ⟨hkeys, hformatter, hlinter, hdoctest⟩ := lookup_rows? hv hrows
  constructor
  · intro hadm
    obtain ⟨rows', hrows', hall⟩ := admissibleTools_iff.1 hadm
    obtain rfl : rows = rows' := Option.some.inj (hrows.symm.trans hrows')
    have hgiven : ∀ name v', rows.lookup name = some v' → IsCommandLine v' :=
      fun name v' hlookup => (hall _ ((Toml.lookup_eq_some_iff_mem hkeys).1 hlookup)).2
    obtain ⟨ftakes, ltakes, dtakes⟩ := takes_of_ofValue hv h
    rw [← hformatter] at ftakes
    rw [← hlinter] at ltakes
    rw [← hdoctest] at dtakes
    exact ⟨sound_of_takes (by decide) (hgiven _) ftakes,
      sound_of_takes (by decide) (hgiven _) ltakes,
      sound_of_takes (by decide) (hgiven _) dtakes⟩
  · intro hsound
    refine admissibleTools_iff.2 ⟨rows, hrows, fun row hrow => ?_⟩
    obtain ⟨fsets, lsets, dsets⟩ := setRow_setsParts
    obtain ⟨name, value⟩ := row
    obtain ⟨t₁, t₂, hstep⟩ := exists_step_of_foldlM hfold hrow
    obtain ⟨words, -, hname⟩ := setRow_eq_ok hstep
    have hline : ∀ default words, Takes stringsOf default (rows.lookup name) words →
        namesProgram words = true → IsCommandLine value := by
      intro default words htakes hnames
      rw [stringsOf_eq_ok.1 (htakes.of_mem hkeys hrow)]
      exact namesProgram_iff.1 hnames
    -- The row is the only one with its name, so its words are those in the end.
    rcases hname with ⟨rfl, -⟩ | ⟨rfl, -⟩ | ⟨rfl, -⟩
    · exact ⟨by simp, hline _ _ (takes_of_foldlM fsets hkeys hfold) hsound.formatter⟩
    · exact ⟨by simp, hline _ _ (takes_of_foldlM lsets hkeys hfold) hsound.linter⟩
    · exact ⟨by simp, hline _ _ (takes_of_foldlM dsets hkeys hfold) hsound.doctest⟩

end ToolLines

/-! ## The document -/

namespace Settings

/-- What `check` asks of settings. -/
structure Sound (s : Settings) : Prop where
  lineLength : s.lineLength ≠ 0
  extension : IsExtension s.extension
  replExtension : IsExtension s.replExtension
  commentMarker : s.commentMarker ≠ ""
  tools : s.tools.Sound

theorem except_andThen_eq_ok {ε β : Type} {x : Except ε Unit} {f : Unit → Except ε β} {b : β} :
    (x >>= f) = .ok b ↔ x = .ok () ∧ f () = .ok b := by
  cases x with
  | error e => simp [bind, Except.bind]
  | ok u => simp [bind, Except.bind]

theorem throwIf_eq_ok {ε α β : Type} {p : Prop} [Decidable p] {e : ε} {f : α → Except ε β}
    {x : Except ε β} {b : β} : (if p then throw e >>= f else x) = .ok b ↔ ¬p ∧ x = .ok b := by
  by_cases hp : p
  · rw [if_pos hp]
    exact iff_of_false nofun fun h => h.1 hp
  · rw [if_neg hp]
    exact (and_iff_right hp).symm

theorem checkExtension_eq_ok {key value : String} :
    checkExtension key value = .ok () ↔ IsExtension value := by
  have hlooks : looksLikeExtension value = true ↔ IsExtension value := by
    unfold looksLikeExtension IsExtension
    rw [Bool.and_eq_true, decide_eq_true_iff, decide_eq_true_iff]
  unfold checkExtension
  split
  · next h => exact iff_of_true rfl (hlooks.1 h)
  · next h => exact iff_of_false nofun fun hext => h (hlooks.2 hext)

theorem checkTool_eq_ok {key : String} {line : List String} :
    checkTool key line = .ok () ↔ namesProgram line = true := by
  simp [checkTool]

theorem check_eq_ok {s : Settings} : s.check = .ok () ↔ s.Sound := by
  unfold check
  simp only [throwIf_eq_ok, except_andThen_eq_ok, checkExtension_eq_ok, checkTool_eq_ok,
    String.isEmpty_iff]
  constructor
  · rintro ⟨hline, hext, hrepl, hmarker, hformatter, hlinter, hdoctest⟩
    exact ⟨hline, hext, hrepl, hmarker, hformatter, hlinter, hdoctest⟩
  · rintro ⟨hline, hext, hrepl, hmarker, hformatter, hlinter, hdoctest⟩
    exact ⟨hline, hext, hrepl, hmarker, hformatter, hlinter, hdoctest⟩

theorem setRow_eq_ok {s s' : Settings} {row : String × Value} (h : setRow s row = .ok s') :
    (∃ n, row.1 = "line_length" ∧ countOf row.2 = .ok n ∧ s' = { s with lineLength := n }) ∨
      (∃ e, row.1 = "extension" ∧ stringOf row.2 = .ok e ∧ s' = { s with extension := e }) ∨
      (∃ e, row.1 = "repl_extension" ∧ stringOf row.2 = .ok e ∧
        s' = { s with replExtension := e }) ∨
      (∃ m, row.1 = "comment_marker" ∧ stringOf row.2 = .ok m ∧
        s' = { s with commentMarker := m }) ∨
      ∃ t, row.1 = "tools" ∧ ToolLines.ofValue row.2 = .ok t ∧ s' = { s with tools := t } := by
  unfold setRow at h
  split at h
  · obtain ⟨n, hn, h⟩ := except_bind_eq_ok h
    cases h
    exact Or.inl ⟨n, rfl, hn, rfl⟩
  · obtain ⟨e, he, h⟩ := except_bind_eq_ok h
    cases h
    exact Or.inr (Or.inl ⟨e, rfl, he, rfl⟩)
  · obtain ⟨e, he, h⟩ := except_bind_eq_ok h
    cases h
    exact Or.inr (Or.inr (Or.inl ⟨e, rfl, he, rfl⟩))
  · obtain ⟨m, hm, h⟩ := except_bind_eq_ok h
    cases h
    exact Or.inr (Or.inr (Or.inr (Or.inl ⟨m, rfl, hm, rfl⟩)))
  · obtain ⟨t, ht, h⟩ := except_bind_eq_ok h
    cases h
    exact Or.inr (Or.inr (Or.inr (Or.inr ⟨t, rfl, ht, rfl⟩)))
  · cases h

theorem setRow_setsParts :
    SetsPart setRow "line_length" countOf lineLength ∧
      SetsPart setRow "extension" stringOf extension ∧
      SetsPart setRow "repl_extension" stringOf replExtension ∧
      SetsPart setRow "comment_marker" stringOf commentMarker ∧
      SetsPart setRow "tools" ToolLines.ofValue tools := by
  refine ⟨?_, ?_, ?_, ?_, ?_⟩
  all_goals
    intro s row s' h
    obtain ⟨a, hk, ha, rfl⟩ | ⟨a, hk, ha, rfl⟩ | ⟨a, hk, ha, rfl⟩ | ⟨a, hk, ha, rfl⟩ |
      ⟨a, hk, ha, rfl⟩ := setRow_eq_ok h
    all_goals simp [hk, ha]

/-- What has become of each setting when all rows are taken. -/
structure Taken (rows : List (String × Value)) (s : Settings) : Prop where
  lineLength : Takes countOf 80 (rows.lookup "line_length") s.lineLength
  extension : Takes stringOf ".py" (rows.lookup "extension") s.extension
  replExtension : Takes stringOf ".repl" (rows.lookup "repl_extension") s.replExtension
  commentMarker : Takes stringOf "#" (rows.lookup "comment_marker") s.commentMarker
  tools : Takes ToolLines.ofValue ({} : ToolLines) (rows.lookup "tools") s.tools

section Document

variable {rows : List (String × Value)} {s : Settings}

theorem taken_of_ofRows (hkeys : (rows.map Prod.fst).Nodup) (h : ofRows rows = .ok s) :
    Taken rows s := by
  have hperm := (Toml.sortedRows_perm rows).symm
  have hsorted := (hperm.map Prod.fst).nodup_iff.1 hkeys
  have htakes : ∀ {α : Type} {key : String} {read : Value → Except SettingsError α}
      {part : Settings → α}, SetsPart setRow key read part →
      Takes read (part {}) (rows.lookup key) (part s) := by
    intro α key read part hpart
    rw [Toml.lookup_perm hkeys hperm]
    exact takes_of_foldlM hpart hsorted h
  obtain ⟨hline, hext, hrepl, hmarker, htools⟩ := setRow_setsParts
  exact ⟨htakes hline, htakes hext, htakes hrepl, htakes hmarker, htakes htools⟩

theorem Taken.fills (h : Taken rows s) (hrows : (Value.table rows).Distinct) : Fills rows s := by
  obtain ⟨hkeys, hvalues⟩ := Toml.distinct_table hrows
  have htools : Takes stringsOf ["black"]
        ((rows.lookup "tools").bind (toolItem? "formatter" 0)) s.tools.formatter ∧
      Takes stringsOf ["flake8"]
        ((rows.lookup "tools").bind (toolItem? "linter" 1)) s.tools.linter ∧
      Takes stringsOf ["python3", "-m", "doctest"]
        ((rows.lookup "tools").bind (toolItem? "doctest" 2)) s.tools.doctest := by
    have htaken := h.tools
    cases hv : rows.lookup "tools" with
    | none =>
      rw [hv] at htaken
      have hdefault : s.tools = {} := htaken
      rw [hdefault]
      exact ⟨rfl, rfl, rfl⟩
    | some v =>
      rw [hv] at htaken
      have hmem := (Toml.lookup_eq_some_iff_mem hkeys).1 hv
      exact ToolLines.takes_of_ofValue (hvalues _ hmem) htaken
  exact
    { lineLength := h.lineLength.givenOr fun _ _ hn => (countOf_eq_ok hn).1
      extension := h.extension.givenOr fun _ _ => stringOf_eq_ok.1
      replExtension := h.replExtension.givenOr fun _ _ => stringOf_eq_ok.1
      commentMarker := h.commentMarker.givenOr fun _ _ => stringOf_eq_ok.1
      formatter := htools.1.givenOr fun _ _ => stringsOf_eq_ok.1
      linter := htools.2.1.givenOr fun _ _ => stringsOf_eq_ok.1
      doctest := htools.2.2.givenOr fun _ _ => stringsOf_eq_ok.1 }

/-- Rows that may stand in a document can be taken. -/
theorem exists_ofRows_of_admissible (h : ∀ row ∈ rows, AdmissibleRow row) :
    ∃ s, ofRows rows = .ok s := by
  refine exists_foldlM_ok (fun row hrow s => ?_) ({} : Settings)
  have hadm := h row ((Toml.sortedRows_perm rows).mem_iff.1 hrow)
  unfold AdmissibleRow at hadm
  split at hadm
  · obtain ⟨n, rfl, h1, hn⟩ := hadm
    simp only [setRow, countOf_integer (by omega) hn]
    exact ⟨_, rfl⟩
  · obtain ⟨e, rfl, -⟩ := hadm
    exact ⟨_, rfl⟩
  · obtain ⟨e, rfl, -⟩ := hadm
    exact ⟨_, rfl⟩
  · obtain ⟨m, rfl, -⟩ := hadm
    exact ⟨_, rfl⟩
  · obtain ⟨t, ht⟩ := ToolLines.exists_ofValue_of_admissible hadm
    simp only [setRow, ht]
    exact ⟨_, rfl⟩
  · exact hadm.elim

/-- Of rows that can be taken, those may stand in a document that give sound settings. -/
theorem admissible_iff_sound (hrows : (Value.table rows).Distinct) (h : ofRows rows = .ok s) :
    (∀ row ∈ rows, AdmissibleRow row) ↔ s.Sound := by
  obtain ⟨hkeys, hvalues⟩ := Toml.distinct_table hrows
  have htaken := taken_of_ofRows hkeys h
  constructor
  · intro hadm
    have hgiven : ∀ key v, rows.lookup key = some v → AdmissibleRow (key, v) :=
      fun key v hv => hadm _ ((Toml.lookup_eq_some_iff_mem hkeys).1 hv)
    constructor
    · refine htaken.lineLength.holds (P := (· ≠ 0)) (by decide) fun v hv hread => ?_
      obtain ⟨n, hn, h1, -⟩ := hgiven _ _ hv
      rw [(countOf_eq_ok hread).1, Value.integer.injEq] at hn
      omega
    · exact htaken.extension.holds_string ⟨by decide, by decide⟩ fun v => hgiven _ v
    · exact htaken.replExtension.holds_string ⟨by decide, by decide⟩ fun v => hgiven _ v
    · exact htaken.commentMarker.holds_string (P := (· ≠ "")) (by decide) fun v => hgiven _ v
    · refine htaken.tools.holds ⟨by decide, by decide, by decide⟩ fun v hv hread => ?_
      have hv' := hvalues _ ((Toml.lookup_eq_some_iff_mem hkeys).1 hv)
      exact (ToolLines.admissible_iff_sound hv' hread).1 (hgiven _ _ hv)
  · intro hsound row hrow
    obtain ⟨s₁, s₂, hstep⟩ :=
      exists_step_of_foldlM h ((Toml.sortedRows_perm rows).mem_iff.2 hrow)
    obtain ⟨key, v⟩ := row
    -- The row is the only one with its key, so what it gives is there in the end.
    rcases setRow_eq_ok hstep with ⟨-, rfl, -⟩ | ⟨-, rfl, -⟩ | ⟨-, rfl, -⟩ | ⟨-, rfl, -⟩ |
      ⟨-, rfl, -⟩
    · obtain ⟨hv, hn⟩ := countOf_eq_ok (htaken.lineLength.of_mem hkeys hrow)
      have hne := hsound.lineLength
      exact ⟨_, hv, by omega, by omega⟩
    · have hv := stringOf_eq_ok.1 (htaken.extension.of_mem hkeys hrow)
      exact ⟨_, hv, hsound.extension⟩
    · have hv := stringOf_eq_ok.1 (htaken.replExtension.of_mem hkeys hrow)
      exact ⟨_, hv, hsound.replExtension⟩
    · have hv := stringOf_eq_ok.1 (htaken.commentMarker.of_mem hkeys hrow)
      exact ⟨_, hv, hsound.commentMarker⟩
    · have hread := htaken.tools.of_mem hkeys hrow
      exact (ToolLines.admissible_iff_sound (hvalues _ hrow) hread).2 hsound.tools

theorem parse_eq_ok {text : String} (hdoc : Toml.parse? text = some rows) :
    parse text = .ok s ↔ ofRows rows = .ok s ∧ s.Sound := by
  simp only [parse, hdoc]
  constructor
  · intro h
    obtain ⟨s', hs', h⟩ := except_bind_eq_ok h
    obtain ⟨hcheck, h⟩ := except_andThen_eq_ok.1 h
    cases h
    exact ⟨hs', check_eq_ok.1 hcheck⟩
  · rintro ⟨h, hsound⟩
    rw [h]
    exact except_andThen_eq_ok.2 ⟨check_eq_ok.2 hsound, rfl⟩

/-- The result does not depend on the order in which a document gives its rows. -/
theorem parse_eq_of_perm {text text' : String} {rows' : List (String × Value)}
    (hdoc : Toml.parse? text = some rows) (hdoc' : Toml.parse? text' = some rows')
    (hperm : rows.Perm rows') : parse text = parse text' := by
  have hkeys := (Toml.distinct_table (Toml.parse?_distinct hdoc)).1
  simp only [parse, hdoc, hdoc', ofRows, Toml.sortedRows_eq_of_perm hkeys hperm]

end Document

end Settings

/-- **A document gives settings if each of its rows may stand in it.** That is up to the row
    alone, and not to the other rows or to their order. Then each setting is what is given for
    it, and otherwise its default. A text that is a document but does not give settings is
    reported, with its cause, as settings that cannot be used. -/
theorem document_gives_settings {text : String} {rows : List (String × Value)}
    (hdoc : Toml.parse? text = some rows) :
    ((∃ s, Settings.parse text = .ok s) ↔ ∀ row ∈ rows, AdmissibleRow row) ∧
    (∀ s, Settings.parse text = .ok s → Fills rows s) ∧
    (∀ text' rows', Toml.parse? text' = some rows' → rows.Perm rows' →
      Settings.parse text = Settings.parse text') ∧
    ∀ e, Settings.parse text = .error e → ∀ (h : Host) (fs : FileSystem) (path : String),
      fs.readText h.home path = .ok text →
        (CommandLine.loadSettings path h fs).outcome = .error (.settings path e) := by
  have hrows := Toml.parse?_distinct hdoc
  refine ⟨⟨?_, ?_⟩, ?_, ?_, ?_⟩
  · rintro ⟨s, hs⟩
    obtain ⟨hofRows, hsound⟩ := (Settings.parse_eq_ok hdoc).1 hs
    exact (Settings.admissible_iff_sound hrows hofRows).2 hsound
  · intro hadm
    obtain ⟨s, hofRows⟩ := Settings.exists_ofRows_of_admissible hadm
    have hsound := (Settings.admissible_iff_sound hrows hofRows).1 hadm
    exact ⟨s, (Settings.parse_eq_ok hdoc).2 ⟨hofRows, hsound⟩⟩
  · intro s hs
    obtain ⟨hofRows, -⟩ := (Settings.parse_eq_ok hdoc).1 hs
    exact (Settings.taken_of_ofRows (Toml.distinct_table hrows).1 hofRows).fills hrows
  · intro text' rows' hdoc' hperm
    exact Settings.parse_eq_of_perm hdoc hdoc' hperm
  · intro e he h fs path hread
    unfold CommandLine.loadSettings
    rw [Activity.bind_ok (p := .start fs) rfl, Activity.bind_ok (p := .start fs) rfl]
    simp only [Progress.start, hread, he]
    rfl

/-- Of an array for the tools the fourth item is not looked at, and what the document does not
    give has its default; an extension without its point is refused. -/
theorem document_gives_settings_listed :
    (∃ s, Settings.parse "tools = [['ruff', ''], ['a'], ['b'], 7]\nline_length = 100\n" = .ok s ∧
      s.lineLength = 100 ∧ s.extension = ".py" ∧ s.tools.formatter = ["ruff", ""]) ∧
    ¬∃ s, Settings.parse "extension = 'py'" = .ok s := by
  constructor
  · have hdoc : Toml.parse? "tools = [['ruff', ''], ['a'], ['b'], 7]\nline_length = 100\n" =
        some [("tools", .array [wordsValue ["ruff", ""], wordsValue ["a"], wordsValue ["b"],
          .integer 7]), ("line_length", .integer 100)] := by cbv
    have hline : ∀ program args, (∃ c ∈ program.toList, Text.isBlank c = false) →
        IsCommandLine (wordsValue (program :: args)) :=
      fun program args hprogram => ⟨program, args, rfl, hprogram⟩
    obtain ⟨haccepts, hfills, -⟩ := document_gives_settings hdoc
    obtain ⟨s, hs⟩ := haccepts.2 (by
      simp only [List.forall_mem_cons, List.not_mem_nil, false_implies, implies_true, and_true]
      refine ⟨.array ?_, 100, rfl, by decide, by decide⟩
      simp only [List.take, List.forall_mem_cons, List.not_mem_nil, false_implies, implies_true,
        and_true]
      exact ⟨hline _ _ ⟨'r', by decide⟩, hline _ _ ⟨'a', by decide⟩, hline _ _ ⟨'b', by decide⟩⟩)
    have hfilled := hfills s hs
    have hlength : Value.integer 100 = .integer s.lineLength := hfilled.lineLength
    have hwords : wordsValue ["ruff", ""] = wordsValue s.tools.formatter := hfilled.formatter
    refine ⟨s, hs, ?_, hfilled.extension, ?_⟩
    · rw [Value.integer.injEq] at hlength
      omega
    · exact (Except.ok.inj ((stringsOf_eq_ok.2 rfl).symm.trans (stringsOf_eq_ok.2 hwords))).symm
  · have hdoc : Toml.parse? "extension = 'py'" = some [("extension", .string "py")] := by cbv
    intro haccepted
    obtain ⟨e, he, hpoint, -⟩ := (document_gives_settings hdoc).1.1 haccepted _ List.mem_cons_self
    rw [Value.string.injEq] at he
    rw [← he] at hpoint
    exact absurd hpoint (by decide)

end SourceTidy
