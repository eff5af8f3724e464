import Mathlib
import SqlFrontEnd.Files.System

/-!
# Regular files

Whoever asks a file system whether a path leads to a regular file gets one of three answers: yes,
no, or an error that is not one of those that mean that the path leads nowhere.  The last one is
passed on by the test, so whoever makes it must expect it.

* `FileSystem.Regular`, `FileSystem.Content` — paths to regular files, and what can be read there.
* `FileSystem.Refuses` — paths on which the system refuses to answer.
* `isFile_eq_true_iff`, `isFile_eq_error_iff`, `isFile_eq_false` — what the test answers.
-/

namespace SqlFrontEnd.FileSystem

variable {files : FileSystem} {path : Path}

/-- The path leads to a regular file. -/
structure Regular (files : FileSystem) (path : Path) : Prop where
  hasNull_eq : path.hasNull = false
  regular_eq : files.regular path = .ok true

/-- The path leads to a regular file, and the octets are what is read there. -/
structure Content (files : FileSystem) (path : Path) (octets : List UInt8) : Prop where
  regular : files.Regular path
  content_eq : files.content path = .ok octets

/-- The system does not tell where the path leads, and not because it leads nowhere. -/
structure Refuses (files : FileSystem) (path : Path) (error : FileError) : Prop where
  hasNull_eq : path.hasNull = false
  regular_eq : files.regular path = .error error
  leadsNowhere_eq : error.leadsNowhere = false

lemma Content.unique {octets octets' : List UInt8} (h : files.Content path octets)
    (h' : files.Content path octets') : octets = octets' :=
  Except.ok.inj (h.content_eq.symm.trans h'.content_eq)

lemma Refuses.unique {error error' : FileError} (h : files.Refuses path error)
    (h' : files.Refuses path error') : error = error' :=
  Except.error.inj (h.regular_eq.symm.trans h'.regular_eq)

lemma isFile_eq_true_iff : files.isFile path = .ok true ↔ files.Regular path := by
  constructor
  · intro h
    unfold isFile at h
    split at h
    · cases h
    · next hnull =>
      split at h
      · next found hfound =>
        cases h
        exact ⟨Bool.eq_false_iff.2 hnull, hfound⟩
      · split at h <;> cases h
  · rintro ⟨hnull, hregular⟩
    simp only [isFile, hnull, hregular, Bool.false_eq_true, if_false]

lemma isFile_eq_error_iff {error : FileError} :
    files.isFile path = .error error ↔ files.Refuses path error := by
  constructor
  · intro h
    unfold isFile at h
    split at h
    · cases h
    · next hnull =>
      split at h
      · cases h
      · next error' herror =>
        split at h
        · cases h
        · next hnowhere =>
          cases h
          exact ⟨Bool.eq_false_iff.2 hnull, herror, Bool.eq_false_iff.2 hnowhere⟩
  · rintro ⟨hnull, hregular, hnowhere⟩
    simp only [isFile, hnull, hregular, hnowhere, Bool.false_eq_true, if_false]

/-- Where the system answers, the test finds no regular file where there is none. -/
lemma isFile_eq_false (hnone : ¬ files.Regular path)
    (hanswers : ∀ error, ¬ files.Refuses path error) : files.isFile path = .ok false := by
  cases htest : files.isFile path with
  | error error => exact absurd (isFile_eq_error_iff.1 htest) (hanswers error)
  | ok found =>
      cases found with
      | false => rfl
      | true => exact absurd (isFile_eq_true_iff.1 htest) hnone

lemma Regular.not_refuses (h : files.Regular path) (error : FileError) :
    ¬ files.Refuses path error := by
  rintro ⟨-, hrefused, -⟩
  rw [h.regular_eq] at hrefused
  cases hrefused

end SqlFrontEnd.FileSystem
