/-
  What can be read off the listing of a pipeline's actions. The listing is written row by row,
  and no row of an entry is empty but the one behind its last line, so that an entry is over at
  the first empty row. A reader who knows no more than this gets back what was listed
  (`readRows_rows`), and two pipelines have one listing only if they list the same
  (`listing_tells_actions_apart`).
-/
import SourceTidy.Action.Scripted
import SourceTidy.Pipeline
import SourceTidy.Proofs.Spacing

namespace SourceTidy

namespace Text

/-! ## Lines as they are shown -/

/-- A line of a text has no line feed in it but the one that may be at its end. -/
theorem Lined.of_mem {ls : List (List Char)} (h : Lined ls) {l : List Char} (hl : l ∈ ls) :
    ∃ s, '\n' ∉ s ∧ (l = s ∨ l = s ++ ['\n']) := by
  induction h with
  | nil => exact absurd hl List.not_mem_nil
  | @last m _ hm =>
    rw [List.mem_singleton] at hl
    exact ⟨m, hm, Or.inl hl⟩
  | @cons m ls hm _ ih =>
    rcases List.mem_cons.1 hl with rfl | hl
    · exact ⟨m, hm, Or.inr rfl⟩
    · exact ih hl

theorem not_mem_dropLineEnd {s l : List Char} (hs : '\n' ∉ s) (hl : l = s ∨ l = s ++ ['\n']) :
    '\n' ∉ dropLineEnd l := by
  rcases hl with rfl | rfl
  · unfold dropLineEnd
    split
    · next r hr => exact absurd (List.mem_reverse.1 (hr ▸ List.mem_cons_self)) hs
    · next r _ hr => exact absurd (List.mem_reverse.1 (hr ▸ List.mem_cons_self)) hs
    · exact hs
  · have hrev : (s ++ ['\n']).reverse = '\n' :: s.reverse := by simp
    unfold dropLineEnd
    rw [hrev]
    split
    · next r hr =>
      have hmem : s.reverse = '\r' :: r := (List.cons.inj hr).2
      intro h
      exact hs (List.mem_reverse.1 (hmem ▸ List.mem_cons_of_mem _ (List.mem_reverse.1 h)))
    · next r _ hr =>
      rw [← (List.cons.inj hr).2, List.reverse_reverse]
      exact hs
    · next _ hno => exact absurd rfl (hno _)

theorem not_mem_of_mem_displayLines {s l : String} (h : l ∈ displayLines s) :
    '\n' ∉ l.toList := by
  obtain ⟨line, hline, rfl⟩ := List.mem_map.1 h
  obtain ⟨t, ht, heq⟩ := (lined_splitLines s.toList).of_mem hline
  rw [String.toList_ofList]
  exact not_mem_dropLineEnd ht heq

/-- Lines that end are followed by lines. -/
theorem Lined.append_left {ls ms : List (List Char)}
    (hls : ∀ l ∈ ls, ∃ s, '\n' ∉ s ∧ l = s ++ ['\n']) (hms : Lined ms) : Lined (ls ++ ms) := by
  induction ls with
  | nil => exact hms
  | cons l ls ih =>
    obtain ⟨⟨s, hs, rfl⟩, hrest⟩ := List.forall_mem_cons.1 hls
    exact .cons hs (ih hrest)

end Text

/-! ## Entries -/

/-- What is listed of an action. -/
structure Listed where
  name : String
  lines : List String
deriving DecidableEq, Repr

/-- The name of an action, and its description line by line. -/
def Action.listed (a : Action) : Listed := ⟨a.name, Text.displayLines a.description⟩

namespace Listed

/-- The row that shows a line of a description. -/
def indented (line : String) : List Char := "    ".toList ++ line.toList ++ ['\n']

/-- The rows that show an entry: its name, its lines, and an empty row. -/
def rows (e : Listed) : List (List Char) :=
  (e.name.toList ++ [':', '\n']) :: (e.lines.map indented ++ [['\n']])

/-- The name in the first row of an entry. -/
def readName (row : List Char) : String := String.ofList (row.take (row.length - 2))

/-- The line in another row of an entry. -/
def readLine (row : List Char) : String := String.ofList (row.drop 4).dropLast

/-- The entries that rows show, given the one that has been begun. An entry ends at an empty
    row. -/
def readRows : Option Listed → List (List Char) → List Listed
  | none, [] => []
  | some e, [] => [e]
  | none, row :: rest => readRows (some ⟨readName row, []⟩) rest
  | some e, row :: rest =>
    if row = ['\n'] then e :: readRows none rest
    else readRows (some { e with lines := e.lines ++ [readLine row] }) rest

theorem readName_concat (name : String) : readName (name.toList ++ [':', '\n']) = name := by
  unfold readName
  rw [List.length_append, List.length_cons, List.length_singleton, Nat.add_sub_cancel,
    List.take_left, String.ofList_toList]

theorem readLine_indented (line : String) : readLine (indented line) = line := by
  have hdrop : (indented line).drop 4 = line.toList ++ ['\n'] := rfl
  rw [readLine, hdrop, List.dropLast_concat, String.ofList_toList]

theorem toList_indented (line : String) :
    ("    " ++ line ++ "\n").toList = indented line := by
  rw [String.toList_append, String.toList_append]
  rfl

/-- An empty line of a description is shown by a row that is not empty. -/
theorem indented_ne (line : String) : indented line ≠ ['\n'] := by
  intro h
  have hlength := congrArg List.length h
  simp [indented] at hlength

theorem readRows_indented (e : Listed) (lines : List String) (rest : List (List Char)) :
    readRows (some e) (lines.map indented ++ ['\n'] :: rest) =
      { e with lines := e.lines ++ lines } :: readRows none rest := by
  -- For every entry that has been begun: each row that is read makes it longer.
  induction lines generalizing e with
  | nil =>
    rw [List.map_nil, List.nil_append, readRows, if_pos rfl, List.append_nil]
  | cons line lines ih =>
    rw [List.map_cons, List.cons_append, readRows, if_neg (indented_ne line), readLine_indented, ih]
    simp

/-- The rows of an entry are read as this entry, whatever rows come behind. -/
theorem readRows_rows_append (e : Listed) (rest : List (List Char)) :
    readRows none (e.rows ++ rest) = e :: readRows none rest := by
  rw [rows, List.cons_append, List.append_assoc, List.singleton_append, readRows,
    readRows_indented, readName_concat]
  rfl

theorem readRows_rows (es : List Listed) : readRows none (es.flatMap rows) = es := by
  induction es with
  | nil => rfl
  | cons e es ih => rw [List.flatMap_cons, readRows_rows_append, ih]

/-- There is no line feed in the name nor in a line. -/
def Unbroken (e : Listed) : Prop :=
  '\n' ∉ e.name.toList ∧ ∀ line ∈ e.lines, '\n' ∉ line.toList

theorem unbroken_listed {a : Action} (h : '\n' ∉ a.name.toList) : a.listed.Unbroken :=
  ⟨h, fun _ => Text.not_mem_of_mem_displayLines⟩

/-- The rows of such entries are the lines of the text that they make up. -/
theorem lined_rows {es : List Listed} (h : ∀ e ∈ es, e.Unbroken) :
    Text.Lined (es.flatMap rows) := by
  induction es with
  | nil => exact .nil
  | cons e es ih =>
    obtain ⟨⟨hname, hlines⟩, hrest⟩ := List.forall_mem_cons.1 h
    refine Text.Lined.append_left ?_ (ih hrest)
    refine List.forall_mem_cons.2 ⟨⟨e.name.toList ++ [':'], by simpa using hname, by simp⟩, ?_⟩
    intro row hrow
    rcases List.mem_append.1 hrow with hrow | hrow
    · obtain ⟨line, hline, rfl⟩ := List.mem_map.1 hrow
      exact ⟨"    ".toList ++ line.toList, by simpa using hlines line hline, rfl⟩
    · exact ⟨[], List.not_mem_nil, List.mem_singleton.1 hrow⟩

end Listed

/-! ## The listing -/

theorem toList_listingBlock (a : Action) :
    (listingBlock a).toList = a.listed.rows.flatten := by
  have hlines : (String.join ((Text.displayLines a.description).map
      fun l => "    " ++ l ++ "\n")).toList =
        (a.listed.lines.map Listed.indented).flatten := by
    rw [String.toList_join, List.flatMap_map, ← List.flatMap_def]
    simp only [Listed.toList_indented]
    rfl
  rw [listingBlock, String.toList_append, String.toList_append, String.toList_append, hlines]
  simp [Listed.rows, Action.listed]

/-- Below its head, the listing is made of the rows of its entries. -/
theorem toList_describeAll (as : List Action) :
    (describeAll as).toList =
      listingHead.toList ++ ((as.map Action.listed).flatMap Listed.rows).flatten := by
  rw [describeAll, String.toList_append, String.toList_join]
  congr 1
  induction as with
  | nil => rfl
  | cons a as ih =>
    rw [List.map_cons, List.flatMap_cons, ih, toList_listingBlock, List.map_cons,
      List.flatMap_cons, List.flatten_append]

/-- The entries of a listing, read from the lines below its head. -/
def readListing (text : String) : List Listed :=
  Listed.readRows none (Text.splitLines (text.toList.drop listingHead.toList.length))

theorem readListing_describeAll {as : List Action} (h : ∀ a ∈ as, '\n' ∉ a.name.toList) :
    readListing (describeAll as) = as.map Action.listed := by
  have hunbroken : ∀ e ∈ as.map Action.listed, e.Unbroken :=
    List.forall_mem_map.2 fun a ha => Listed.unbroken_listed (h a ha)
  rw [readListing, toList_describeAll, List.drop_left,
    Text.splitLines_flatten (Listed.lined_rows hunbroken), Listed.readRows_rows]

/-- **The listing tells actions apart.** Let no name have a line feed in it. Reading the listing
    gives the name of each action and the lines of its description, in the order of the actions
    and for each of them once, whatever the descriptions look like. So two pipelines have the
    same listing exactly if they have the same number of actions and, one after the other, these
    have the same names and the same lines in their descriptions. -/
theorem listing_tells_actions_apart {as : List Action} (has : ∀ a ∈ as, '\n' ∉ a.name.toList) :
    readListing (describeAll as) = as.map Action.listed ∧
    ∀ bs : List Action, (∀ b ∈ bs, '\n' ∉ b.name.toList) →
      (describeAll as = describeAll bs ↔ as.map Action.listed = bs.map Action.listed) := by
  refine ⟨readListing_describeAll has, fun bs hbs => ⟨fun h => ?_, fun h => ?_⟩⟩
  · rw [← readListing_describeAll has, h, readListing_describeAll hbs]
  · rw [← String.toList_inj, toList_describeAll, toList_describeAll, h]

/-- An action whose description looks like the end of its entry and the beginning of another. -/
def mimic : Action := .scripted "A" "a" "x\n\nB:\n    y\r\n" .speak

/-- It is listed as what it is, and not as two actions. -/
theorem listing_tells_actions_apart_mimic :
    readListing (describeAll [mimic]) = [⟨"A", ["x", "", "B:", "    y"]⟩] ∧
    describeAll [mimic] ≠
      describeAll [.scripted "A" "a" "x" .speak, .scripted "B" "b" "y" .speak] := by
  have hname : ∀ a ∈ [mimic], '\n' ∉ a.name.toList := by decide
  obtain ⟨hread, happart⟩ := listing_tells_actions_apart hname
  refine ⟨hread.trans (by decide), fun h => ?_⟩
  have hsame := (happart [.scripted "A" "a" "x" .speak, .scripted "B" "b" "y" .speak]
    (by decide)).1 h
  exact absurd (congrArg List.length hsame) (by decide)

end SourceTidy
