/-!
# Calling again behind failures

A caller that calls again behind every failure comes to an end if each failure leaves less to do
(`exists_retries`).
-/

namespace TanSource

variable {σ ε α : Type}

/-- So many calls are made, one behind the other. All of them fail but the last one. -/
inductive Retries (call : σ → Except ε α × σ) : σ → Nat → σ → Prop
  | returns {s last : σ} {a : α} (hcall : call s = (.ok a, last)) : Retries call s 1 last
  | again {s next last : σ} {e : ε} {count : Nat} (hcall : call s = (.error e, next))
      (hagain : Retries call next count last) : Retries call s (count + 1) last

/-- If there is less to do behind every failure, there is one call more than there was to do at
most. -/
theorem exists_retries {call : σ → Except ε α × σ} {sound done : σ → Prop} {left : σ → Nat}
    (hdone : ∀ s a next, sound s → call s = (.ok a, next) → done next)
    (hless : ∀ s e next, sound s → call s = (.error e, next) →
      sound next ∧ left next < left s)
    {s : σ} (hs : sound s) :
    ∃ count last, count ≤ left s + 1 ∧ Retries call s count last ∧ done last := by
  induction hn : left s using Nat.strongRecOn generalizing s with
  | _ n ih =>
      subst hn
      rcases hcall : call s with ⟨result, next⟩
      cases result with
      | ok a =>
          exact ⟨1, next, Nat.le_add_left _ _, .returns hcall, hdone s a next hs hcall⟩
      | error e =>
          obtain ⟨hnext, hlt⟩ := hless s e next hs hcall
          obtain ⟨count, last, hcount, hagain, hlast⟩ := ih _ hlt hnext rfl
          exact ⟨count + 1, last, by omega, .again hcall hagain, hlast⟩

end TanSource
