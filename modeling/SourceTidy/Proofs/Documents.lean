/-
  No table of a document has a key twice. A table may come to be under a header of its own, on
  the way to another header, on the way of a dotted key, or between braces; in each of these
  ways a key that is taken is not set again (`setValue_distinct`, `openTable_distinct`). So in
  the end every key of every table stands for one value (`parse?_distinct`), and looking a key
  up does not depend on the order of the rows (`lookup_eq_some_iff_mem`).
-/
import SourceTidy.Toml.Document

namespace SourceTidy.Toml

/-! ## Distinct keys -/

/-- A value that holds no other values. -/
def Value.IsSimple : Value → Prop
  | .array _ => False
  | .table _ => False
  | _ => True

/-- No table in a value, however deep, has a key twice. -/
inductive Value.Distinct : Value → Prop where
  | simple {v : Value} : v.IsSimple → Distinct v
  | array {items : List Value} : (∀ v ∈ items, Distinct v) → Distinct (.array items)
  | table {rows : List (String × Value)} :
      (rows.map Prod.fst).Nodup → (∀ row ∈ rows, Distinct row.2) → Distinct (.table rows)

/-- The same of what stands under a key while a document is read. -/
inductive Entry.Distinct : Entry → Prop where
  | value {v : Value} : v.Distinct → Distinct (.value v)
  | table {origin : Origin} {rows : Rows} :
      (rows.map Prod.fst).Nodup → (∀ row ∈ rows, Distinct row.2) → Distinct (.table origin rows)
  | tables {closed : List Rows} {last : Rows} :
      (∀ rows ∈ last :: closed, (rows.map Prod.fst).Nodup) →
      (∀ rows ∈ last :: closed, ∀ row ∈ rows, Distinct row.2) →
      Distinct (.tables closed last)

/-- No key twice, neither among the rows nor in what they hold. -/
structure DistinctRows (rows : Rows) : Prop where
  keys : (rows.map Prod.fst).Nodup
  entries : ∀ row ∈ rows, row.2.Distinct

theorem distinctRows_nil : DistinctRows [] := ⟨List.nodup_nil, by simp⟩

theorem distinct_table_iff {origin : Origin} {rows : Rows} :
    (Entry.table origin rows).Distinct ↔ DistinctRows rows := by
  constructor
  · intro h
    cases h with
    | table hkeys hentries => exact ⟨hkeys, hentries⟩
  · intro h
    exact .table h.keys h.entries

theorem distinct_tables_iff {closed : List Rows} {last : Rows} :
    (Entry.tables closed last).Distinct ↔ ∀ rows ∈ last :: closed, DistinctRows rows := by
  constructor
  · intro h rows hrows
    cases h with
    | tables hkeys hentries => exact ⟨hkeys rows hrows, hentries rows hrows⟩
  · intro h
    exact .tables (fun rows hrows => (h rows hrows).keys) (fun rows hrows => (h rows hrows).entries)

theorem distinct_table {rows : List (String × Value)} (h : (Value.table rows).Distinct) :
    (rows.map Prod.fst).Nodup ∧ ∀ row ∈ rows, row.2.Distinct := by
  cases h with
  | simple hsimple => exact hsimple.elim
  | table hkeys hvalues => exact ⟨hkeys, hvalues⟩

theorem lookup_eq_some_iff_mem {α : Type} {rows : List (String × α)}
    (h : (rows.map Prod.fst).Nodup) {k : String} {a : α} :
    rows.lookup k = some a ↔ (k, a) ∈ rows := by
  induction rows with
  | nil => simp
  | cons row rows ih =>
    obtain ⟨j, b⟩ := row
    rw [List.map_cons, List.nodup_cons] at h
    rw [List.lookup_cons, List.mem_cons, Prod.mk.injEq]
    by_cases hk : k = j
    · subst hk
      have hnot : (k, a) ∉ rows := fun hm => h.1 (List.mem_map.2 ⟨(k, a), hm, rfl⟩)
      simp [hnot, eq_comm]
    · have hb : (k == j) = false := by simpa using hk
      simp only [hb, hk, false_and, false_or]
      exact ih h.2

theorem lookup_perm {α : Type} {rows rows' : List (String × α)}
    (h : (rows.map Prod.fst).Nodup) (hperm : rows.Perm rows') (k : String) :
    rows.lookup k = rows'.lookup k := by
  have h' : (rows'.map Prod.fst).Nodup := (hperm.map Prod.fst).nodup_iff.1 h
  ext a
  rw [lookup_eq_some_iff_mem h, lookup_eq_some_iff_mem h', hperm.mem_iff]

theorem sortedRows_perm (rows : List (String × Value)) : (sortedRows rows).Perm rows :=
  List.mergeSort_perm _ _

theorem sortedRows_sorted (rows : List (String × Value)) :
    (sortedRows rows).Pairwise fun a b => a.1 ≤ b.1 := by
  have h : (sortedRows rows).Pairwise fun a b => decide (a.1 ≤ b.1) = true := by
    apply List.pairwise_mergeSort
    · intro a b c hab hbc
      simp only [decide_eq_true_eq] at hab hbc ⊢
      exact String.le_trans hab hbc
    · intro a b
      simp only [Bool.or_eq_true, decide_eq_true_eq]
      exact String.le_total a.1 b.1
  exact h.imp of_decide_eq_true

theorem sortedRows_of_sorted {rows : List (String × Value)}
    (h : rows.Pairwise fun a b => a.1 ≤ b.1) : sortedRows rows = rows := by
  unfold sortedRows
  exact List.mergeSort_of_pairwise (h.imp decide_eq_true)

/-- The order in which rows are taken has nothing to do with their order in the document. -/
theorem sortedRows_eq_of_perm {rows rows' : List (String × Value)}
    (h : (rows.map Prod.fst).Nodup) (hperm : rows.Perm rows') :
    sortedRows rows = sortedRows rows' := by
  have hsame := ((sortedRows_perm rows).trans hperm).trans (sortedRows_perm rows').symm
  apply List.Perm.eq_of_pairwise _ (sortedRows_sorted rows) (sortedRows_sorted rows') hsame
  intro a b ha hb hab hba
  have ha' := (sortedRows_perm rows).mem_iff.1 ha
  have hb' := hperm.mem_iff.2 ((sortedRows_perm rows').mem_iff.1 hb)
  have hkey : a.1 = b.1 := String.le_antisymm hab hba
  have hvalue : rows.lookup a.1 = some b.2 :=
    (lookup_eq_some_iff_mem h).2 (by rw [hkey]; exact hb')
  rw [(lookup_eq_some_iff_mem h).2 ha'] at hvalue
  exact Prod.ext hkey (Option.some.inj hvalue)

theorem DistinctRows.of_lookup {rows : Rows} (h : DistinctRows rows) {k : String} {e : Entry}
    (he : rows.lookup k = some e) : e.Distinct :=
  h.entries _ ((lookup_eq_some_iff_mem h.keys).1 he)

/-! ## Changes of one table -/

theorem replaceRow_map_fst (k : String) (e : Entry) (rows : Rows) :
    (replaceRow k e rows).map Prod.fst = rows.map Prod.fst := by
  induction rows with
  | nil => rfl
  | cons row rows ih =>
    rw [replaceRow]
    split
    · next hk => rw [List.map_cons, List.map_cons, hk]
    · rw [List.map_cons, List.map_cons, ih]

theorem mem_replaceRow {k : String} {e : Entry} {rows : Rows} {row : String × Entry}
    (h : row ∈ replaceRow k e rows) : row = (k, e) ∨ row ∈ rows := by
  induction rows with
  | nil => cases h
  | cons r rows ih =>
    rw [replaceRow] at h
    split at h
    · rcases List.mem_cons.1 h with h | h
      · exact Or.inl h
      · exact Or.inr (List.mem_cons_of_mem _ h)
    · rcases List.mem_cons.1 h with h | h
      · exact Or.inr (h ▸ List.mem_cons_self)
      · exact (ih h).imp_right (List.mem_cons_of_mem _)

theorem DistinctRows.replaceRow {rows : Rows} (h : DistinctRows rows) (k : String) {e : Entry}
    (he : e.Distinct) : DistinctRows (replaceRow k e rows) := by
  refine ⟨(replaceRow_map_fst k e rows).symm ▸ h.keys, fun row hrow => ?_⟩
  rcases mem_replaceRow hrow with rfl | hrow
  · exact he
  · exact h.entries row hrow

theorem DistinctRows.concat {rows : Rows} (h : DistinctRows rows) {k : String}
    (hk : rows.lookup k = none) {e : Entry} (he : e.Distinct) :
    DistinctRows (rows ++ [(k, e)]) := by
  constructor
  · rw [List.map_append, List.nodup_append]
    refine ⟨h.keys, by simp, fun a ha b hb => ?_⟩
    obtain rfl : b = k := by simpa using hb
    obtain ⟨row, hrow, rfl⟩ := List.mem_map.1 ha
    rintro rfl
    rw [(lookup_eq_some_iff_mem h.keys).2 hrow] at hk
    cases hk
  · intro row hrow
    rcases List.mem_append.1 hrow with hrow | hrow
    · exact h.entries row hrow
    · rw [List.mem_singleton.1 hrow]
      exact he

/-- A change of a table that gives no key twice. -/
def KeepsDistinct (change : Origin → Rows → Option Rows) : Prop :=
  ∀ origin rows rows', DistinctRows rows → change origin rows = some rows' → DistinctRows rows'

theorem addRow_distinct {k : String} {e : Entry} {rows rows' : Rows} (he : e.Distinct)
    (h : DistinctRows rows) (hadd : addRow k e rows = some rows') : DistinctRows rows' := by
  unfold addRow at hadd
  split at hadd
  · cases hadd
  · next hk =>
    cases hadd
    exact h.concat (Option.not_isSome_iff_eq_none.1 hk) he

/-- What is done to the table at the end of a path can be done below any table. -/
theorem descend_distinct {made : Origin} {change : Origin → Rows → Option Rows}
    (hchange : KeepsDistinct change) (path : List String) :
    KeepsDistinct (descend made change path) := by
  induction path with
  | nil => exact hchange
  | cons k path ih =>
    intro origin rows rows' h hdescend
    rw [descend] at hdescend
    split at hdescend
    · next hk =>
      obtain ⟨inner, hinner, hrows⟩ := Option.bind_eq_some_iff.1 hdescend
      cases hrows
      exact h.concat hk (distinct_table_iff.2 (ih _ _ _ distinctRows_nil hinner))
    · next origin inner hk =>
      split at hdescend
      · cases hdescend
      · obtain ⟨inner', hinner, hrows⟩ := Option.bind_eq_some_iff.1 hdescend
        cases hrows
        exact h.replaceRow k
          (distinct_table_iff.2 (ih _ _ _ (distinct_table_iff.1 (h.of_lookup hk)) hinner))
    · next closed last hk =>
      obtain ⟨last', hlast, hrows⟩ := Option.bind_eq_some_iff.1 hdescend
      cases hrows
      have htables := List.forall_mem_cons.1 (distinct_tables_iff.1 (h.of_lookup hk))
      exact h.replaceRow k
        (distinct_tables_iff.2 (List.forall_mem_cons.2 ⟨ih _ _ _ htables.1 hlast, htables.2⟩))
    · cases hdescend

theorem setValue_distinct {path : List String} {v : Value} (hv : v.Distinct) {rows rows' : Rows}
    (h : DistinctRows rows) (hset : setValue path v rows = some rows') : DistinctRows rows' := by
  unfold setValue at hset
  split at hset
  · cases hset
  · exact addRow_distinct (.value hv) h hset
  · refine descend_distinct (fun origin rows rows' h hadd => ?_) _ _ _ _ h hset
    split at hadd
    · exact addRow_distinct (.value hv) h hadd
    · cases hadd

theorem openTable_distinct {path : List String} {rows rows' : Rows} (h : DistinctRows rows)
    (hopen : openTable path rows = some rows') : DistinctRows rows' := by
  unfold openTable at hopen
  split at hopen
  · cases hopen
  · next k _ _ =>
    refine descend_distinct (fun origin rows rows' h hopen => ?_) _ _ _ _ h hopen
    split at hopen
    · next hk =>
      cases hopen
      exact h.concat hk (distinct_table_iff.2 distinctRows_nil)
    · next found hk =>
      cases hopen
      exact h.replaceRow k (distinct_table_iff.2 (distinct_table_iff.1 (h.of_lookup hk)))
    · cases hopen

theorem openArrayTable_distinct {path : List String} {rows rows' : Rows} (h : DistinctRows rows)
    (hopen : openArrayTable path rows = some rows') : DistinctRows rows' := by
  unfold openArrayTable at hopen
  split at hopen
  · cases hopen
  · next k _ _ =>
    refine descend_distinct (fun origin rows rows' h hopen => ?_) _ _ _ _ h hopen
    split at hopen
    · next hk =>
      cases hopen
      exact h.concat hk (distinct_tables_iff.2 (by simpa using distinctRows_nil))
    · next closed last hk =>
      cases hopen
      have htables := List.forall_mem_cons.1 (distinct_tables_iff.1 (h.of_lookup hk))
      refine h.replaceRow k (distinct_tables_iff.2 (List.forall_mem_cons.2 ⟨distinctRows_nil, ?_⟩))
      intro rows hrows
      rcases List.mem_append.1 hrows with hrows | hrows
      · exact htables.2 rows hrows
      · rw [List.mem_singleton.1 hrows]
        exact htables.1
    · cases hopen

theorem setInSection_distinct {current path : List String} {v : Value} (hv : v.Distinct)
    {rows rows' : Rows} (h : DistinctRows rows)
    (hset : setInSection current path v rows = some rows') : DistinctRows rows' :=
  descend_distinct (fun _ _ _ h hset => setValue_distinct hv h hset) _ _ _ _ h hset

/-! ## Values and documents -/

theorem simple_based {base : Nat} {s : List Char} {v : Value}
    (h : Scalar.based base s = some v) : v.IsSimple := by
  unfold Scalar.based at h
  split at h
  · cases h
    trivial
  · split at h
    · obtain ⟨n, -, rfl⟩ := Option.map_eq_some_iff.1 h
      trivial
    · cases h

theorem simple_floatOf {negative : Bool} {s : List Char} {v : Value}
    (h : Scalar.floatOf negative s = some v) : v.IsSimple := by
  unfold Scalar.floatOf at h
  simp only at h
  split at h
  · cases h
  · -- With a point or without one, what is read is put together in the same way.
    split at h
    all_goals
      simp only at h
      split at h
      · cases h
      · obtain ⟨digits, -, h⟩ := Option.bind_eq_some_iff.1 h
        split at h
        · cases h
          trivial
        · split at h
          · obtain ⟨x, -, h⟩ := Option.bind_eq_some_iff.1 h
            cases h
            trivial
          · cases h

theorem simple_number {s : List Char} {v : Value} (h : Scalar.number s = some v) :
    v.IsSimple := by
  unfold Scalar.number at h
  simp only at h
  split at h
  · cases h
  · split at h
    · split at h
      · exact simple_floatOf h
      · cases h
    · split at h
      · split at h
        · split at h <;> cases h <;> trivial
        · cases h
      · cases h

theorem simple_moment {s : List Char} {v : Value} (h : Scalar.moment s = some v) :
    v.IsSimple := by
  unfold Scalar.moment at h
  grind [Value.IsSimple]

/-- A token is no array and no table. -/
theorem simple_read {s : List Char} {v : Value} (h : Scalar.read s = some v) : v.IsSimple := by
  unfold Scalar.read at h
  split at h
  · cases h
    trivial
  · cases h
    trivial
  · exact simple_based h
  · exact simple_based h
  · exact simple_based h
  · simp only at h
    split at h
    · cases h
      trivial
    · split at h
      · cases h
        trivial
      · split at h
        · next hnumber =>
          cases h
          exact simple_number hnumber
        · exact simple_moment h

/-- What is left behind a token has no part in its value. -/
theorem simple_read_map {s rest r : List Char} {v : Value}
    (h : (Scalar.read s).map (·, rest) = some (v, r)) : v.IsSimple := by
  obtain ⟨v', hv, heq⟩ := Option.map_eq_some_iff.1 h
  cases heq
  exact simple_read hv

theorem simple_tokenValue? {s r : List Char} {v : Value} (h : tokenValue? s = some (v, r)) :
    v.IsSimple := by
  unfold tokenValue? at h
  simp only at h
  split at h
  · split at h
    · exact simple_read_map h
    · exact simple_read_map h
  · exact simple_read_map h

theorem closeRows_eq_map (rows : Rows) :
    closeRows rows = rows.map fun row => (row.1, row.2.close) := by
  induction rows with
  | nil => rfl
  | cons row rows ih =>
    obtain ⟨k, e⟩ := row
    rw [closeRows, ih, List.map_cons]

theorem closeTables_eq_map (tables : List Rows) :
    closeTables tables = tables.map fun rows => .table (closeRows rows) := by
  induction tables with
  | nil => rfl
  | cons rows tables ih => rw [closeTables, ih, List.map_cons]

theorem distinct_table_closeRows {rows : Rows} (hkeys : (rows.map Prod.fst).Nodup)
    (hentries : ∀ row ∈ rows, row.2.close.Distinct) : (Value.table (closeRows rows)).Distinct := by
  rw [closeRows_eq_map]
  refine .table (by simpa [Function.comp_def] using hkeys) fun row hrow => ?_
  obtain ⟨row', hrow', rfl⟩ := List.mem_map.1 hrow
  exact hentries row' hrow'

theorem Entry.Distinct.close {e : Entry} (h : e.Distinct) : e.close.Distinct := by
  induction h with
  | value hv =>
    rw [Entry.close]
    exact hv
  | table hkeys _ ih =>
    rw [Entry.close]
    exact distinct_table_closeRows hkeys ih
  | @tables closed last hkeys _ ih =>
    rw [Entry.close, closeTables_eq_map]
    refine .array fun v hv => ?_
    have htable : ∃ rows ∈ last :: closed, v = .table (closeRows rows) := by
      rcases List.mem_append.1 hv with hv | hv
      · obtain ⟨rows, hrows, rfl⟩ := List.mem_map.1 hv
        exact ⟨rows, List.mem_cons_of_mem _ hrows, rfl⟩
      · exact ⟨last, List.mem_cons_self, List.mem_singleton.1 hv⟩
    obtain ⟨rows, hrows, rfl⟩ := htable
    exact distinct_table_closeRows (hkeys rows hrows) (ih rows hrows)

/-- A finished table has the keys of its rows. -/
theorem distinct_closeRows {rows : Rows} (h : DistinctRows rows) :
    (Value.table (closeRows rows)).Distinct :=
  distinct_table_closeRows h.keys fun row hrow => (h.entries row hrow).close

/-- What is read within `n` steps has no key twice: values, items of arrays, and the rows of
    inline tables if those before them have none twice. -/
structure DistinctWithin (n : Nat) : Prop where
  value : ∀ depth s v r, value? n depth s = some (v, r) → v.Distinct
  items : ∀ depth s vs r, items? n depth s = some (vs, r) → ∀ v ∈ vs, v.Distinct
  rows : ∀ depth rows s rows' r, DistinctRows rows →
    inlineRows? n depth rows s = some (rows', r) → DistinctRows rows'

theorem distinctWithin_succ {n : Nat} (ih : DistinctWithin n) : DistinctWithin (n + 1) where
  value depth s v r h := by
    rw [value?.eq_def] at h
    simp only at h
    split at h
    · split at h
      · cases h
      · obtain ⟨⟨vs, r'⟩, hvs, heq⟩ := Option.map_eq_some_iff.1 h
        cases heq
        exact .array (ih.items _ _ _ _ hvs)
    · split at h
      · cases h
      · obtain ⟨⟨rows, r'⟩, hrows, heq⟩ := Option.map_eq_some_iff.1 h
        cases heq
        exact distinct_closeRows (ih.rows _ _ _ _ _ distinctRows_nil hrows)
    · split at h
      · obtain ⟨⟨t, r'⟩, -, heq⟩ := Option.map_eq_some_iff.1 h
        cases heq
        exact .simple trivial
      · exact .simple (simple_tokenValue? h)
    · cases h
  items depth s vs r h := by
    rw [items?.eq_def] at h
    simp only at h
    split at h
    · cases h
      simp
    · obtain ⟨⟨v, s'⟩, hv, h⟩ := Option.bind_eq_some_iff.1 h
      split at h
      · obtain ⟨⟨vs', s''⟩, hvs, h⟩ := Option.bind_eq_some_iff.1 h
        cases h
        exact List.forall_mem_cons.2 ⟨ih.value _ _ _ _ hv, ih.items _ _ _ _ hvs⟩
      · cases h
        exact List.forall_mem_singleton.2 (ih.value _ _ _ _ hv)
      · cases h
  rows depth rows s rows' r hrows h := by
    rw [inlineRows?.eq_def] at h
    simp only at h
    split at h
    · cases h
      exact hrows
    · obtain ⟨⟨path, s'⟩, -, h⟩ := Option.bind_eq_some_iff.1 h
      split at h
      · obtain ⟨⟨v, s''⟩, hv, h⟩ := Option.bind_eq_some_iff.1 h
        obtain ⟨rows'', hset, h⟩ := Option.bind_eq_some_iff.1 h
        have hnext := setValue_distinct (ih.value _ _ _ _ hv) hrows hset
        split at h
        · exact ih.rows _ _ _ _ _ hnext h
        · cases h
          exact hnext
        · cases h
      · cases h

theorem distinctWithin (n : Nat) : DistinctWithin n := by
  induction n with
  | zero => exact ⟨nofun, nofun, nofun⟩
  | succ n ih => exact distinctWithin_succ ih

/-- Each line leaves a table without a key twice, be it a header or a row of a section. -/
theorem lines?_distinct {n : Nat} {current : List String} {rows rows' : Rows} {s : List Char}
    (h : DistinctRows rows) (hlines : lines? n current rows s = some rows') :
    DistinctRows rows' := by
  induction n generalizing current rows s with
  | zero => cases hlines
  | succ n ih =>
    rw [lines?] at hlines
    split at hlines
    · cases hlines
      exact h
    · exact ih h hlines
    · split at hlines
      · obtain ⟨⟨path, s'⟩, -, hlines⟩ := Option.bind_eq_some_iff.1 hlines
        split at hlines
        · obtain ⟨rows'', hopen, hlines⟩ := Option.bind_eq_some_iff.1 hlines
          obtain ⟨s'', -, hlines⟩ := Option.bind_eq_some_iff.1 hlines
          exact ih (openArrayTable_distinct h hopen) hlines
        · cases hlines
      · obtain ⟨⟨path, s'⟩, -, hlines⟩ := Option.bind_eq_some_iff.1 hlines
        obtain ⟨rows'', hopen, hlines⟩ := Option.bind_eq_some_iff.1 hlines
        obtain ⟨s'', -, hlines⟩ := Option.bind_eq_some_iff.1 hlines
        exact ih (openTable_distinct h hopen) hlines
      · obtain ⟨⟨path, s'⟩, -, hlines⟩ := Option.bind_eq_some_iff.1 hlines
        simp only at hlines
        split at hlines
        · obtain ⟨⟨v, r⟩, hv, hlines⟩ := Option.bind_eq_some_iff.1 hlines
          obtain ⟨rows'', hset, hlines⟩ := Option.bind_eq_some_iff.1 hlines
          obtain ⟨s'', -, hlines⟩ := Option.bind_eq_some_iff.1 hlines
          exact ih (setInSection_distinct ((distinctWithin _).value _ _ _ _ hv) h hset) hlines
        · cases hlines

/-- No table of a document has a key twice, the one at the top included. -/
theorem parse?_distinct {text : String} {rows : List (String × Value)}
    (h : parse? text = some rows) : (Value.table rows).Distinct := by
  unfold parse? at h
  obtain ⟨entries, hlines, rfl⟩ := Option.map_eq_some_iff.1 h
  exact distinct_closeRows (lines?_distinct distinctRows_nil hlines)

end SourceTidy.Toml
