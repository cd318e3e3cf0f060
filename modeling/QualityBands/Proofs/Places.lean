import Mathlib.Data.List.Basic
import QualityBands.Files.FileSystem
import QualityBands.Proofs.Reading

/-!
What changes where.

A path names the same place in every file system with the same working directory. Opening and
filling a file changes what stands at the place of its path, and making directories adds
directories where nothing stood. After files have been filled with directories made in between,
each place holds the bytes that came there last, or what stood there before, or a new directory.
-/

namespace QualityBands.FileSystem

variable {files after : FileSystem} {path : Path} {bytes : ByteArray} {place other : Place}

/-- The place that a path names, whatever stands there. -/
def placeOf (files : FileSystem) (path : Path) : Place :=
  path.names.foldl step (files.start path)

/-! ### Following names -/

/-- What was last put into the place of a path. -/
def lastBytes? (files : FileSystem) (fillings : List (Path × ByteArray)) (place : Place) :
    Option ByteArray :=
  ((fillings.filter fun (path, _) => files.placeOf path = place).getLast?).map (·.2)

/-- After files have been filled, and directories made in between: a place holds what was put
there last, and else what stood there before or a directory where nothing stood. -/
structure Written (before : FileSystem) (fillings : List (Path × ByteArray))
    (after : FileSystem) : Prop where
  workingDirectory : after.workingDirectory = before.workingDirectory
  last : ∀ place bytes, before.lastBytes? fillings place = some bytes →
    after.entry? place = some (.file bytes)
  other : ∀ place, before.lastBytes? fillings place = none →
    after.entry? place = before.entry? place ∨
      before.entry? place = none ∧ after.entry? place = some .directory

variable {fillings more : List (Path × ByteArray)} {between : FileSystem}

lemma placeOf_congr (h : after.workingDirectory = files.workingDirectory) :
    after.placeOf path = files.placeOf path := by
  rw [placeOf, placeOf, start, start, h]

lemma lastBytes?_congr (h : after.workingDirectory = files.workingDirectory) :
    after.lastBytes? fillings place = files.lastBytes? fillings place := by
  unfold lastBytes?
  simp only [placeOf_congr h]

lemma lastBytes?_append : files.lastBytes? (fillings ++ more) place =
    (files.lastBytes? more place).or (files.lastBytes? fillings place) := by
  unfold lastBytes?
  rw [List.filter_append, List.getLast?_append, Option.map_or]

lemma written_refl (files : FileSystem) : files.Written [] files where
  workingDirectory := rfl
  last _ _ h := by cases h
  other _ _ := .inl rfl

lemma Written.trans (h : files.Written fillings between) (h' : between.Written more after) :
    files.Written (fillings ++ more) after where
  workingDirectory := h'.workingDirectory.trans h.workingDirectory
  last place bytes ht := by
    rw [lastBytes?_append, ← lastBytes?_congr h.workingDirectory] at ht
    cases hm : between.lastBytes? more place with
    | some later =>
      rw [hm, Option.some_or] at ht
      cases ht
      exact h'.last place _ hm
    | none =>
      rw [hm, Option.none_or] at ht
      -- a file that stands there is no place for a new directory
      have hfile := h.last place bytes ht
      rcases h'.other place hm with he | ⟨hn, -⟩
      · rw [he, hfile]
      · rw [hfile] at hn
        cases hn
  other place ht := by
    rw [lastBytes?_append, Option.or_eq_none_iff, ← lastBytes?_congr h.workingDirectory] at ht
    obtain ⟨hm, hw⟩ := ht
    rcases h.other place hw with hb | ⟨hb, hd⟩
    · rcases h'.other place hm with ha | ⟨hn, ha⟩
      · exact .inl (ha.trans hb)
      · exact .inr ⟨hb.symm.trans hn, ha⟩
    · rcases h'.other place hm with ha | ⟨hn, -⟩
      · exact .inr ⟨hb, ha.trans hd⟩
      · rw [hd] at hn
        cases hn

end QualityBands.FileSystem
