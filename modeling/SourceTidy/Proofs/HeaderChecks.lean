/-
  The check of headers. It changes nothing, whatever it finds; at one path it fails exactly if
  the first line of the file cannot be read or is no text (`checkHeader_outcome`).
-/
import SourceTidy.Proofs.FirstLines
import SourceTidy.Proofs.SingleSpacing

namespace SourceTidy

open FileSystem Text

/-! ## Reading a first line -/

namespace FileSystem

variable {fs : FileSystem} {home : Location} {path : String}

/-- A file that can be read has a first line unless that is no text. -/
theorem readFirstLine_of_readBytes {bytes : Bytes} (hread : fs.readBytes home path = .ok bytes) :
    fs.readFirstLine home path = .error .notText ∧
        (¬∃ line, Utf8.firstLine bytes = Utf8.ofString line) ∨
      ∃ line, fs.readFirstLine home path = .ok line ∧
        Utf8.firstLine bytes = Utf8.ofString line := by
  unfold readFirstLine
  simp only [hread]
  cases hline : Utf8.toString? (Utf8.firstLine bytes) with
  | none =>
    refine Or.inl ⟨rfl, ?_⟩
    rintro ⟨line, heq⟩
    rw [Utf8.toString?_eq_some_iff.2 heq.symm] at hline
    cases hline
  | some line => exact Or.inr ⟨line, rfl, (Utf8.toString?_eq_some_iff.1 hline).symm⟩

theorem readFirstLine_of_readText {text : String} (ht : fs.readText home path = .ok text) :
    fs.readFirstLine home path = .ok (firstLineOf text) := by
  have hread := readText_eq_ok.1 ht
  have hline := Utf8.toString?_eq_some_iff.2 (Utf8.firstLine_ofString text).symm
  unfold readFirstLine
  simp only [hread, hline]

end FileSystem

/-! ## One file -/

theorem checkHeader_apply (marker path : String) (h : Host) (fs : FileSystem) :
    checkHeader marker path h fs =
      match fs.readFirstLine h.home path with
      | .error e => ⟨.error (.file path e), .start fs⟩
      | .ok line =>
        if Header.isHeaderFor line path marker then ⟨.ok (), .start fs⟩
        else ⟨.ok (), ⟨fs, findingLine "File header missing for" path, []⟩⟩ := by
  unfold checkHeader
  rw [Activity.bind_ok (p := .start fs) rfl, Activity.bind_ok (p := .start fs) rfl]
  simp only [Progress.start]
  cases fs.readFirstLine h.home path with
  | error e => rfl
  | ok line =>
    simp only
    split <;> rfl

theorem checkHeader_keepsFiles (marker path : String) (h : Host) :
    Activity.KeepsFiles h (checkHeader marker path) := by
  intro fs
  rw [checkHeader_apply]
  split
  · rfl
  · split <;> rfl

theorem headerCheck_keepsFiles (h : Host) (p : Plan) :
    Activity.KeepsFiles h (Action.headerCheck.run p) :=
  Activity.forFiles_keepsFiles (fun path => checkHeader_keepsFiles _ path h) _ _

/-- The check fails at a path exactly if there is no first line to be read. -/
theorem checkHeader_outcome {marker path : String} {h : Host} {fs : FileSystem} {bytes : Bytes}
    (hread : fs.readBytes h.home path = .ok bytes) :
    (checkHeader marker path h fs).outcome = .ok () ↔
      ∃ line, Utf8.firstLine bytes = Utf8.ofString line := by
  rw [checkHeader_apply]
  rcases readFirstLine_of_readBytes hread with ⟨hline, hnone⟩ | ⟨line, hline, hfirst⟩
  · simp only [hline]
    exact iff_of_false nofun hnone
  · simp only [hline]
    refine iff_of_true ?_ ⟨line, hfirst⟩
    split <;> rfl

end SourceTidy
