import Mathlib.Data.List.TakeWhile
import TanSource.Text

/-!
# Runs of characters

A run is a stretch of characters of one class with which the text behind it does not go on. It is
what `List.takeWhile` takes off the front of a text.
-/

namespace TanSource

variable {p : Char → Bool}

/-- The text is empty or begins with a character outside the class. -/
def StopsAt (p : Char → Bool) (rest : Text) : Prop :=
  ∀ c ∈ rest.head?, p c = false

@[simp] theorem stopsAt_nil : StopsAt p [] := by
  simp [StopsAt]

@[simp] theorem stopsAt_cons {c : Char} {s : Text} : StopsAt p (c :: s) ↔ p c = false := by
  simp [StopsAt]

theorem stopsAt_dropWhile (s : Text) : StopsAt p (s.dropWhile p) := by
  intro c hc
  have h := List.head?_dropWhile_not p s
  rw [Option.mem_def.mp hc] at h
  simpa using h

theorem forall_mem_takeWhile (s : Text) : ∀ c ∈ s.takeWhile p, p c = true :=
  fun _ hc => List.mem_takeWhile_imp hc

theorem takeWhile_run {run rest : Text} (hrun : ∀ c ∈ run, p c = true) (hrest : StopsAt p rest) :
    (run ++ rest).takeWhile p = run := by
  rw [List.takeWhile_append_of_pos hrun]
  cases rest with
  | nil => simp
  | cons c s =>
      have hc := stopsAt_cons.mp hrest
      simp [hc]

theorem dropWhile_run {run rest : Text} (hrun : ∀ c ∈ run, p c = true) (hrest : StopsAt p rest) :
    (run ++ rest).dropWhile p = rest := by
  rw [List.dropWhile_append_of_pos hrun]
  cases rest with
  | nil => rfl
  | cons c s =>
      have hc := stopsAt_cons.mp hrest
      simp [hc]

end TanSource
