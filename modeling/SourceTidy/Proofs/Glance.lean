/-
  What a walk makes of one entry, told by where the entry leads. An entry that leads to a file
  is a file; one that leads to a directory is gone into, except by a link back to a directory
  that the walk is in. This is so up to the limits on paths: where they are passed, there is a
  fault.
-/
import SourceTidy.Proofs.Tour

namespace SourceTidy.Walk

open FileSystem

variable {fs : FileSystem} {home : Location} {root : String}

/-- The locations of the directories that a walk is in, the innermost first. -/
def stack (as : List Ancestor) : List Location := as.map Ancestor.place

theorem mem_stack {as : List Ancestor} {l : Location} :
    l ∈ stack as ↔ ∃ a ∈ as, a.place = l := by
  simp [stack]

/-! ## One entry -/

/-- Whatever goes wrong at an entry, it ends the walk unless nothing is there. -/
theorem unseen_eq_fault {path : String} {cause : FileError} (h : cause ≠ .notFound) :
    Item.unseen root path cause = .fault (.walk root path cause) := by
  simp [Item.unseen, h]

section Entry

variable {as : List Ancestor} {dir name : String} {a : Arrival} {n : Node}
  (harr : fs.arrive home dir = .ok a) (hdir : fs.node? a.place = some .directory)
  (hn : fs.node? (a.place ++ [name]) = some n)
include harr hdir hn

/-- Where a walk goes on into an entry, that leads to a directory, and no link takes the walk
    back to a directory that it is in. -/
theorem leads_of_glance_none
    (h : glance fs home root as (Path.join dir name) n = none) :
    ∃ l, fs.Leads a.place name l ∧ fs.node? l = some .directory ∧
      (fs.IsLink a.place name → l ∉ stack as) := by
  cases n with
  | file content => cases h
  | device => cases h
  | directory =>
    refine ⟨a.place ++ [name], leads_entry hdir hn (by simp), hn, ?_⟩
    rintro ⟨target, ht⟩
    rw [hn] at ht
    cases ht
  | link target =>
    simp only [glance] at h
    cases hres : fs.resolve home (Path.join dir name) with
    | error cause => simp [hres] at h
    | ok l =>
      simp only [hres] at h
      split at h
      · cases h
      · next hl =>
        refine ⟨l, leads_of_resolve_join harr hn hres, hl, fun _ hmem => ?_⟩
        rw [Option.map_eq_none_iff, List.find?_eq_none] at h
        obtain ⟨b, hb, hbl⟩ := mem_stack.1 hmem
        exact h b hb (by simpa using hbl)
      · cases h

/-- An entry that a walk takes for a file leads to one. -/
theorem leads_of_glance_file {path : String}
    (h : glance fs home root as (Path.join dir name) n = some (.file path)) :
    path = Path.join dir name ∧
      ∃ l content, fs.Leads a.place name l ∧ fs.node? l = some (.file content) := by
  cases n with
  | file content =>
    cases h
    exact ⟨rfl, _, content, leads_entry hdir hn (by simp), hn⟩
  | device => cases h
  | directory => cases h
  | link target =>
    simp only [glance] at h
    cases hres : fs.resolve home (Path.join dir name) with
    | error cause =>
      simp only [hres, Item.unseen, Option.some.injEq] at h
      split at h <;> cases h
    | ok l =>
      simp only [hres] at h
      split at h
      · next content hl =>
        cases h
        exact ⟨rfl, l, content, leads_of_resolve_join harr hn hres, hl⟩
      · cases hf : as.find? (·.place = l) <;> simp [hf] at h
      · cases h

theorem glance_of_leads_file {l : Location} {content : Text.Bytes}
    (hl : fs.Leads a.place name l) (hfile : fs.node? l = some (.file content))
    (hsmooth : ∀ f, glance fs home root as (Path.join dir name) n ≠ some (.fault f)) :
    glance fs home root as (Path.join dir name) n = some (.file (Path.join dir name)) := by
  cases n with
  | file content => rfl
  | device =>
    have h := node?_of_leads hdir hn hl (by simp)
    rw [hfile] at h
    cases h
  | directory =>
    have h := node?_of_leads hdir hn hl (by simp)
    rw [hfile] at h
    cases h
  | link target =>
    simp only [glance] at hsmooth ⊢
    rcases resolve_join_of_leads harr hl with hres | hres | hres
    · simp only [hres, hfile]
    · rw [hres] at hsmooth
      exact absurd (congrArg some (unseen_eq_fault (by simp))) (hsmooth _)
    · rw [hres] at hsmooth
      exact absurd (congrArg some (unseen_eq_fault (by simp))) (hsmooth _)

/-- An entry that leads to a directory is gone into, unless a link leads back. What its path
    then leads to is that directory, or the path is past a limit. -/
theorem glance_of_leads_directory {l : Location} (hl : fs.Leads a.place name l)
    (hld : fs.node? l = some .directory)
    (hsmooth : ∀ f, glance fs home root as (Path.join dir name) n ≠ some (.fault f))
    (hback : fs.IsLink a.place name → l ∉ stack as) :
    glance fs home root as (Path.join dir name) n = none ∧
      (fs.resolve home (Path.join dir name) = .ok l ∨
        ∃ e, e ≠ .notFound ∧ fs.resolve home (Path.join dir name) = .error e) := by
  have hres : fs.resolve home (Path.join dir name) = .ok l ∨
      ∃ e, e ≠ .notFound ∧ fs.resolve home (Path.join dir name) = .error e := by
    rcases resolve_join_of_leads harr hl with hres | hres | hres
    · exact Or.inl hres
    · exact Or.inr ⟨_, by simp, hres⟩
    · exact Or.inr ⟨_, by simp, hres⟩
  refine ⟨?_, hres⟩
  cases n with
  | file content =>
    have h := node?_of_leads hdir hn hl (by simp)
    rw [hld] at h
    cases h
  | device =>
    have h := node?_of_leads hdir hn hl (by simp)
    rw [hld] at h
    cases h
  | directory => rfl
  | link target =>
    simp only [glance] at hsmooth ⊢
    rcases hres with hres | ⟨e, he, hres⟩
    · simp only [hres, hld]
      rw [Option.map_eq_none_iff, List.find?_eq_none]
      intro b hb hbl
      exact hback ⟨target, hn⟩ (mem_stack.2 ⟨b, hb, by simpa using hbl⟩)
    · rw [hres] at hsmooth
      exact absurd (congrArg some (unseen_eq_fault he)) (hsmooth _)

end Entry

end SourceTidy.Walk
