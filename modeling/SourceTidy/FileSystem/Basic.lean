/-
  A file system as a value: what stands at each location, where a location is the list of
  names from the top directory. Contents are replaced by `setContent`, which keeps all else
  (`node?_setContent`); `insert` and `erase` change which locations are taken.
-/
import SourceTidy.Path
import SourceTidy.Text.Utf8

namespace SourceTidy

open Text (Bytes)

/-- The names from the top directory down to something. -/
abbrev Location := List String

/-- What a name may be. -/
def isName (n : String) : Bool :=
  n ≠ "" && n ≠ "." && n ≠ ".." && !n.toList.contains '/' && !n.toList.contains '\x00'

inductive Node where
  | directory
  | file (content : Bytes)
  | link (target : String)
  /-- Reads as empty and swallows what is written. -/
  | device
deriving DecidableEq

/-- What stands where. The top directory itself is not listed. -/
structure FileSystem where
  entries : List (Location × Node)
  distinct : (entries.map Prod.fst).Nodup
  named : ∀ e ∈ entries, e.1 ≠ [] ∧ e.1.all isName = true

namespace FileSystem

/-- Only the top directory. -/
def empty : FileSystem := ⟨[], by simp, by simp⟩

/-- What stands at a location. -/
def node? (fs : FileSystem) : Location → Option Node
  | [] => some .directory
  | l => fs.entries.lookup l

/-- The name of an entry in the directory at `dir`, if it is right in there. -/
def nameIn? (dir l : Location) : Option String :=
  if l.dropLast = dir then l.getLast? else none

/-- The names in a directory, in their order. -/
def names (fs : FileSystem) (dir : Location) : List String :=
  (fs.entries.filterMap fun e => nameIn? dir e.1).mergeSort fun a b => decide (a ≤ b)

/-- The names in a directory and what each of them stands for. -/
def listing (fs : FileSystem) (dir : Location) : List (String × Node) :=
  (fs.names dir).filterMap fun n => (fs.node? (dir ++ [n])).map (n, ·)

/-- Put new content into the file at a location; without a file there, nothing happens. -/
def putContent (l : Location) (content : Bytes) (e : Location × Node) : Location × Node :=
  match e with
  | (m, .file old) => if m = l then (m, .file content) else (m, .file old)
  | e => e

theorem putContent_fst (l : Location) (content : Bytes) (e : Location × Node) :
    (putContent l content e).1 = e.1 := by
  unfold putContent
  split
  · split <;> rfl
  · rfl

theorem map_fst_putContent (l : Location) (content : Bytes) (es : List (Location × Node)) :
    (es.map (putContent l content)).map Prod.fst = es.map Prod.fst := by
  simp [List.map_map, Function.comp_def, putContent_fst]

/-- The same file system with other content in one file. -/
def setContent (fs : FileSystem) (l : Location) (content : Bytes) : FileSystem where
  entries := fs.entries.map (putContent l content)
  distinct := by rw [map_fst_putContent]; exact fs.distinct
  named := by
    intro e he
    obtain ⟨d, hd, rfl⟩ := List.mem_map.1 he
    rw [putContent_fst]
    exact fs.named d hd

/-- What new content for a location makes of what stands there. -/
def withContent (content : Bytes) : Node → Node
  | .file _ => .file content
  | n => n

theorem lookup_map_putContent (l m : Location) (content : Bytes)
    (es : List (Location × Node)) :
    (es.map (putContent l content)).lookup m =
      if m = l then (es.lookup m).map (withContent content) else es.lookup m := by
  induction es with
  | nil => simp
  | cons e es ih =>
    obtain ⟨k, n⟩ := e
    have hk : (putContent l content (k, n)).1 = k := putContent_fst l content (k, n)
    rw [List.map_cons, ← Prod.eta (putContent l content (k, n)), hk, List.lookup_cons,
      List.lookup_cons, ih]
    by_cases hm : m = k
    · subst hm
      by_cases hl : m = l <;> cases n <;> simp [putContent, withContent, hl]
    · have hb : (m == k) = false := by simpa using hm
      simp [hb]

/-- New content for one location changes nothing but the file that stands there. -/
theorem node?_setContent (fs : FileSystem) (l m : Location) (content : Bytes) :
    (fs.setContent l content).node? m =
      if m = l then (fs.node? m).map (withContent content) else fs.node? m := by
  cases m with
  | nil => by_cases h : [] = l <;> simp [node?, withContent, h]
  | cons a m => exact lookup_map_putContent l (a :: m) content fs.entries

/-- Replace what stands at a location that is taken. -/
def putNode (l : Location) (n : Node) (e : Location × Node) : Location × Node :=
  if e.1 = l then (e.1, n) else e

theorem putNode_fst (l : Location) (n : Node) (e : Location × Node) :
    (putNode l n e).1 = e.1 := by
  unfold putNode
  split <;> rfl

/-- The file system with something at a location. A location that cannot be named is left
    alone. -/
def insert (fs : FileSystem) (l : Location) (n : Node) : FileSystem :=
  if named : l ≠ [] ∧ l.all isName = true then
    if taken : l ∈ fs.entries.map Prod.fst then
      { entries := fs.entries.map (putNode l n)
        distinct := by
          have h : (fs.entries.map (putNode l n)).map Prod.fst = fs.entries.map Prod.fst := by
            simp [List.map_map, Function.comp_def, putNode_fst]
          rw [h]; exact fs.distinct
        named := by
          intro e he
          obtain ⟨d, hd, rfl⟩ := List.mem_map.1 he
          rw [putNode_fst]
          exact fs.named d hd }
    else
      { entries := fs.entries ++ [(l, n)]
        distinct := by
          rw [List.map_append, List.nodup_append]
          refine ⟨fs.distinct, by simp, ?_⟩
          intro a ha b hb
          simp only [List.map_cons, List.map_nil, List.mem_singleton] at hb
          subst hb
          exact fun h => taken (h ▸ ha)
        named := by
          intro e he
          rcases List.mem_append.1 he with h | h
          · exact fs.named e h
          · simp only [List.mem_singleton] at h
            subst h
            exact named }
  else fs

/-- The file system without a location and all that lies below it. -/
def erase (fs : FileSystem) (l : Location) : FileSystem where
  entries := fs.entries.filter fun e => !l.isPrefixOf e.1
  distinct := (List.filter_sublist.map Prod.fst).nodup fs.distinct
  named := fun e he => fs.named e (List.mem_filter.1 he).1

/-- How deep the file system is: the greatest length of a location. -/
def height (fs : FileSystem) : Nat :=
  (fs.entries.map fun e => e.1.length).foldr max 0

end FileSystem

/-- The text of a location, from the top directory. -/
def Location.path (l : Location) : String :=
  if l.isEmpty then "/" else String.ofList (Path.slashed (l.map String.toList))

end SourceTidy
