/-
  The extension of a path as it can be read off the text. Slashes at the end of a path, and
  points that stand alone behind them, are dropped; what then stands behind the last slash is
  the last part of the path, if it names anything (`getLast?_named`). A path has an extension
  exactly if its last part is some stem, a point and the extension
  (`hasExtension_iff_lastPart`).
-/
import SourceTidy.Proofs.Extensions
import SourceTidy.Proofs.LastWords

namespace SourceTidy

namespace Path

open Header

/-! ## Trimmed paths -/

/-- The path without the slashes at its end and without points that stand alone behind them.
    The top directory stays. -/
def trimmed (p : List Char) : List Char := (trimBackward p.reverse).reverse

theorem trimBackward_ne_point (s r : List Char) : trimBackward s ≠ '.' :: '/' :: r := by
  fun_induction trimBackward s with
  | case1 => simp
  | case2 s _ ih => exact ih
  | case3 s ih => exact ih
  | case4 s _ _ hpoint =>
    rintro rfl
    exact hpoint r rfl

/-- A slash at the end of a trimmed path is all of it. -/
theorem eq_nil_of_trimmed {p front : List Char} (h : trimmed p = front ++ ['/']) : front = [] := by
  have hrev : trimBackward p.reverse = '/' :: front.reverse := by
    rw [← List.reverse_reverse (trimBackward p.reverse), ← trimmed, h]
    simp
  exact List.reverse_eq_nil_iff.1 (trimBackward_eq_slash hrev)

/-- No point stands alone at the end, unless there is nothing else. -/
theorem trimmed_ne_point (p front : List Char) : trimmed p ≠ front ++ ['/', '.'] := by
  intro h
  refine trimBackward_ne_point p.reverse front.reverse ?_
  rw [← List.reverse_reverse (trimBackward p.reverse), ← trimmed, h]
  simp

/-- What is dropped names nothing. -/
theorem named_trimmed (p : List Char) : named (trimmed p) = named p := by
  have hbackward : ∀ s : List Char, named (trimBackward s).reverse = named s.reverse := by
    intro s
    fun_induction trimBackward s with
    | case1 => rfl
    | case2 s _ ih =>
      rw [ih, List.reverse_cons, named_append_slash]
      exact (List.append_nil _).symm
    | case3 s ih =>
      rw [ih, List.reverse_cons, List.reverse_cons, List.reverse_cons, List.append_assoc]
      rw [List.singleton_append, named_append_slash, named_append_slash]
      rfl
    | case4 s => rfl
  rw [trimmed, hbackward, List.reverse_reverse]

/-! ## The last part -/

/-- What stands behind the last slash of the trimmed path. -/
def lastPart (p : List Char) : List Char := nameIn (trimmed p)

theorem not_mem_lastPart (p : List Char) : '/' ∉ lastPart p := fun h => by
  simpa using List.mem_rtakeWhile_imp h

/-- A trimmed path is its last part, or has it behind a slash. It is the last part that shows
    how the path was trimmed: behind a slash it is not a point, and it is empty only if the path
    is a slash and nothing else. -/
theorem trimmed_eq_lastPart (p : List Char) :
    trimmed p = lastPart p ∨
    ∃ front, trimmed p = front ++ '/' :: lastPart p ∧
      (lastPart p = [] → front = []) ∧ lastPart p ≠ ['.'] := by
  have hcut : (trimmed p).rdropWhile (· ≠ '/') ++ lastPart p = trimmed p :=
    List.rdropWhile_append_rtakeWhile
  rcases List.eq_nil_or_concat ((trimmed p).rdropWhile (· ≠ '/')) with hnil | ⟨front, c, hc⟩
  · rw [hnil, List.nil_append] at hcut
    exact Or.inl hcut.symm
  · obtain rfl : c = '/' := getLast?_before_name (by rw [hc]; simp)
    rw [hc, List.concat_eq_append, List.append_assoc, List.singleton_append] at hcut
    refine Or.inr ⟨front, hcut.symm, fun hname => ?_, fun hname => ?_⟩
    · rw [hname] at hcut
      exact eq_nil_of_trimmed hcut.symm
    · rw [hname] at hcut
      exact trimmed_ne_point p front hcut.symm

theorem named_of_not_mem {s : List Char} (h : '/' ∉ s) :
    named s = if s = [] ∨ s = ['.'] then [] else [s] := by
  unfold named
  rw [split_of_not_mem h]
  by_cases hs : s = [] ∨ s = ['.']
  · rw [if_pos hs]
    rcases hs with rfl | rfl <;> rfl
  · rw [if_neg hs]
    rw [not_or] at hs
    simp [hs]

/-- The last of the parts that name something is the last part, or there is none. -/
theorem getLast?_named (p : List Char) :
    (named p).getLast? =
      if lastPart p = [] ∨ lastPart p = ['.'] then none else some (lastPart p) := by
  have hlast := named_of_not_mem (not_mem_lastPart p)
  rw [← named_trimmed]
  rcases trimmed_eq_lastPart p with halone | ⟨front, hfront, hnil, hpoint⟩
  · rw [halone, hlast]
    split <;> rfl
  · rw [hfront, named_append_slash, hlast]
    by_cases hempty : lastPart p = []
    · rw [hnil hempty, if_pos (Or.inl hempty), if_pos (Or.inl hempty)]
      rfl
    · have hnames : ¬(lastPart p = [] ∨ lastPart p = ['.']) := not_or.2 ⟨hempty, hpoint⟩
      rw [if_neg hnames, if_neg hnames, List.getLast?_concat]

theorem fileName?_eq_some {p name : List Char} :
    fileName? p = some name ↔
      lastPart p = name ∧ name ≠ [] ∧ name ≠ ['.'] ∧ name ≠ ['.', '.'] := by
  unfold fileName?
  rw [getLast?_named]
  by_cases hnames : lastPart p = [] ∨ lastPart p = ['.']
  · rw [if_pos hnames]
    refine iff_of_false nofun ?_
    rintro ⟨rfl, hnil, hpoint, -⟩
    exact hnames.elim hnil hpoint
  · rw [if_neg hnames]
    rw [not_or] at hnames
    by_cases hup : lastPart p = ['.', '.']
    · simp only [if_pos hup]
      refine iff_of_false nofun ?_
      rintro ⟨rfl, -, -, hup'⟩
      exact hup' hup
    · simp only [if_neg hup, Option.some_inj]
      constructor
      · rintro rfl
        exact ⟨rfl, hnames.1, hnames.2, hup⟩
      · exact fun h => h.1

/-- An extension stands behind the last point of the last part, and something before the
    point. -/
theorem extension?_eq_some {p e : List Char} (hne : e ≠ []) (hpoint : '.' ∉ e) :
    extension? p = some e ↔ ∃ stem, stem ≠ [] ∧ lastPart p = stem ++ '.' :: e := by
  rw [extension?, Option.bind_eq_some_iff]
  constructor
  · rintro ⟨name, hname, he⟩
    obtain ⟨stem, hstem, rfl, -⟩ := extensionOf?_eq_some.1 he
    exact ⟨stem, hstem, (fileName?_eq_some.1 hname).1⟩
  · rintro ⟨stem, hstem, hlast⟩
    have hstem' := List.length_pos_iff.2 hstem
    have he' := List.length_pos_iff.2 hne
    -- Parts that are no names have two characters at most.
    have hname : ∀ part : List Char, part.length ≤ 2 → stem ++ '.' :: e ≠ part := by
      rintro part hpart rfl
      rw [List.length_append, List.length_cons] at hpart
      omega
    exact ⟨_, fileName?_eq_some.2 ⟨hlast, hname _ (by decide), hname _ (by decide),
      hname _ (by decide)⟩, extensionOf?_eq_some.2 ⟨stem, hstem, rfl, hpoint⟩⟩

/-! ## Extensions in texts -/

/-- The point before an extension may be left out, if there is no other. -/
theorem hasExtension_without_point {ext : String} (hpoint : '.' ∉ ext.toList) (path : String) :
    hasExtension path ext = hasExtension path ("." ++ ext) := by
  have hwanted : ("." ++ ext).toList = '.' :: ext.toList := by simp
  unfold hasExtension
  rw [hwanted]
  split
  · next s hs =>
    rw [hs] at hpoint
    exact absurd List.mem_cons_self hpoint
  · rfl

/-- **A path has an extension if its text ends in it.** Let an extension be free of points and
    slashes and not be empty. With a point before it or without, it is an extension of the same
    paths: of those that end, apart from slashes and points that stand alone behind them, in a
    part that is made of a stem, a point and the extension, where the stem is not empty. -/
theorem hasExtension_iff_lastPart {ext : String} (hne : ext ≠ "")
    (hsingle : IsSingleExtension ext) (path : String) :
    hasExtension path ext = hasExtension path ("." ++ ext) ∧
      (hasExtension path ext = true ↔
        ∃ stem, stem ≠ [] ∧ lastPart path.toList = stem ++ '.' :: ext.toList) := by
  have hwithout := hasExtension_without_point hsingle.1 path
  have hne' : ext.toList ≠ [] := by simpa using hne
  refine ⟨hwithout, ?_⟩
  rw [hwithout, hasExtension_point, and_iff_right hne, extension?_eq_some hne' hsingle.1]

/-- A stem that is a point, with slashes and points that are dropped behind the name; and a name
    that is all extension. -/
theorem hasExtension_iff_lastPart_py :
    hasExtension "d/..py/.//./" "py" = true ∧ hasExtension "d/..py/.//./" ".py" = true ∧
      hasExtension "d/.py" "py" = false := by
  have hne : "py" ≠ "" := by decide
  have hsingle : IsSingleExtension "py" := by decide
  obtain ⟨hwithout, hlast⟩ := hasExtension_iff_lastPart hne hsingle "d/..py/.//./"
  obtain ⟨-, hlast'⟩ := hasExtension_iff_lastPart hne hsingle "d/.py"
  have hyes : hasExtension "d/..py/.//./" "py" = true :=
    hlast.2 ⟨['.'], by decide, by decide⟩
  refine ⟨hyes, hwithout.symm.trans hyes, Bool.eq_false_iff.2 fun h => ?_⟩
  obtain ⟨stem, hstem, heq⟩ := hlast'.1 h
  have hname : lastPart "d/.py".toList = [] ++ '.' :: "py".toList := by decide
  rw [hname] at heq
  exact hstem (List.append_cancel_right heq).symm

/-- Names with the extension `.py`, and others that look like it. -/
example : [".py", "x.pyc", "x.py.", "x.py/..", "..", "/"].all (hasExtension · ".py" = false) ∧
    ["..py", "a.b.py", "x.py/."].all (hasExtension · ".py" = true) := by
  decide

end Path

end SourceTidy
