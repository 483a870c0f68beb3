import TanSource.Proofs.Lexer.Cursor
import TanSource.Proofs.Retries

/-!
# Progress of the lexer

Every turn of the lexer's loop scans one item and gets further on, also if the item is at fault
(`scanItem_further`). So the loop comes to an end (`exists_turns`), each call takes the lexer to the
end of its input or fails further on, and a caller that calls again behind every fault comes to the
end as well (`tokenize_gets_further`).
-/

namespace TanSource

namespace Lexer

/-- The loop over the items, with the number of its turns and what it comes to. Every turn moves the
lexer on, whether its item is read or is at fault. -/
inductive Turns : Lexer → Nat → Except ScanStop Lexer → Prop
  | finished {lexer : Lexer} (hmore : lexer.hasMore = false) : Turns lexer 0 (.ok lexer)
  | goesOn {lexer next : Lexer} {count : Nat} {outcome : Except ScanStop Lexer}
      (hmore : lexer.hasMore = true) (hitem : lexer.scanItem = .ok next)
      (hfurther : lexer.here.index < next.here.index) (hrest : Turns next count outcome) :
      Turns lexer (count + 1) outcome
  | stops {lexer : Lexer} {stop : ScanStop} (hmore : lexer.hasMore = true)
      (hitem : lexer.scanItem = .error stop) (hfurther : lexer.here.index < stop.lexer.here.index) :
      Turns lexer 1 (.error stop)

variable {lexer next : Lexer} {count : Nat}

theorem Turns.hasMore_eq_false (h : lexer.Turns count (.ok next)) : next.hasMore = false := by
  generalize houtcome : Except.ok next = outcome at h
  induction h with
  | finished hmore =>
      cases houtcome
      exact hmore
  | goesOn hmore hitem hfurther hrest ih => exact ih houtcome
  | stops hmore hitem hfurther => cases houtcome

theorem Turns.further {stop : ScanStop} (h : lexer.Turns count (.error stop)) :
    lexer.here.index < stop.lexer.here.index := by
  generalize houtcome : Except.error stop = outcome at h
  induction h with
  | finished hmore => cases houtcome
  | goesOn hmore hitem hfurther hrest ih => exact Nat.lt_trans hfurther (ih houtcome)
  | stops hmore hitem hfurther =>
      cases houtcome
      exact hfurther

/-- In front of a character the scan of an item ends at a place further on in the input. -/
theorem scanItem_further (hhere : lexer.here.InFrontOf lexer.rest lexer.input)
    (hmore : lexer.hasMore = true) :
    (∃ next, lexer.scanItem = .ok next ∧ lexer.here.index < next.here.index ∧
      next.here.InFrontOf next.rest next.input) ∨
    ∃ stop, lexer.scanItem = .error stop ∧ lexer.here.index < stop.lexer.here.index := by
  obtain ⟨c, s, hrest⟩ := exists_rest_of_hasMore hmore
  rcases hitem : firstItem c s with ⟨lexeme, reading, rest⟩
  have hscan := scanItem_eq hhere hrest
  have htext := firstItem_append c s
  rw [hitem] at hscan htext
  have hbehind : (lexer.markHere.behind lexeme).rest = rest := rest_behind (hrest.trans htext.symm)
  rw [hrest] at hhere
  obtain ⟨hnext, hfurther⟩ := hhere.next hitem
  rw [← hbehind] at hnext
  cases reading with
  | blank => exact Or.inl ⟨_, hscan, hfurther, hnext⟩
  | token kind value => exact Or.inl ⟨_, hscan, hfurther, hnext⟩
  | fault f => exact Or.inr ⟨_, hscan, hfurther⟩

/-- From a place of its input on, the loop takes no more turns than there are characters. -/
theorem exists_turns (hhere : lexer.here.InFrontOf lexer.rest lexer.input) :
    ∃ count ≤ lexer.rest.length, lexer.Turns count lexer.scan := by
  induction hn : lexer.rest.length using Nat.strongRecOn generalizing lexer with
  | _ n ih =>
      subst hn
      cases hmore : lexer.hasMore with
      | false =>
          rw [scan, dif_neg (by simp [hmore])]
          exact ⟨0, Nat.zero_le _, .finished hmore⟩
      | true =>
          rw [scan_eq_bind hmore]
          rcases scanItem_further hhere hmore with
            ⟨next, hitem, hfurther, hnext⟩ | ⟨stop, hitem, hfurther⟩
          · have hless := endsBelow_scanItem hmore next hitem
            obtain ⟨count, hcount, hturns⟩ := ih _ hless hnext rfl
            rw [hitem]
            exact ⟨count + 1, Nat.lt_of_le_of_lt hcount hless, .goesOn hmore hitem hfurther hturns⟩
          · obtain ⟨c, s, hrest⟩ := exists_rest_of_hasMore hmore
            rw [hitem, hrest]
            exact ⟨1, Nat.le_add_left _ _, .stops hmore hitem hfurther⟩

/-! ## Calls -/

/-- A call to read on, as a scan that ended. -/
def ending : Except LexError (List Token) × Lexer → Except ScanStop Lexer
  | (.ok _, next) => .ok next
  | (.error e, next) => .error ⟨.lexical e, next⟩

variable {input : Text}

theorem InPlace.index_add (h : lexer.InPlace input) :
    lexer.here.index + lexer.rest.length = input.length := by
  obtain ⟨passed, hinput, hhere⟩ := h.here
  simp [← hinput, hhere]

theorem InPlace.exists_turns (h : lexer.InPlace input) :
    ∃ count ≤ lexer.rest.length, lexer.Turns count (ending lexer.tokenize) := by
  have hhere := h.here
  rw [← h.input_eq] at hhere
  have hending : lexer.scan = ending lexer.tokenize := by
    rw [scan_eq_tokenize hhere]
    rcases lexer.tokenize with ⟨_ | _, next⟩ <;> rfl
  rw [← hending]
  exact Lexer.exists_turns hhere

theorem InPlace.of_tokenize (h : lexer.InPlace input) {result : Except LexError (List Token)}
    (hcall : lexer.tokenize = (result, next)) : next.InPlace input := by
  have hnext := h.tokenize
  rwa [hcall] at hnext

theorem InPlace.index_of_ok (h : lexer.InPlace input) {tokens : List Token}
    (hcall : lexer.tokenize = (.ok tokens, next)) : next.here.index = input.length := by
  obtain ⟨count, -, hturns⟩ := h.exists_turns
  rw [hcall] at hturns
  have hrest : next.rest = [] := by simpa [hasMore] using hturns.hasMore_eq_false
  have hindex := (h.of_tokenize hcall).index_add
  rwa [hrest, List.length_nil, Nat.add_zero] at hindex

theorem InPlace.index_of_error (h : lexer.InPlace input) {e : LexError}
    (hcall : lexer.tokenize = (.error e, next)) : lexer.here.index < next.here.index := by
  obtain ⟨count, -, hturns⟩ := h.exists_turns
  rw [hcall] at hturns
  exact hturns.further

theorem InPlace.exists_retries (h : lexer.InPlace input) :
    ∃ count last, count ≤ lexer.rest.length + 1 ∧ Retries Lexer.tokenize lexer count last ∧
      last.here.index = input.length := by
  have hdone : ∀ (lexer : Lexer) tokens next, lexer.InPlace input →
      lexer.tokenize = (.ok tokens, next) → next.here.index = input.length :=
    fun _ _ _ h => h.index_of_ok
  have hless : ∀ (lexer : Lexer) e next, lexer.InPlace input →
      lexer.tokenize = (.error e, next) →
      next.InPlace input ∧ next.rest.length < lexer.rest.length := by
    intro lexer e next h hcall
    have hnext := h.of_tokenize hcall
    have hfurther := h.index_of_error hcall
    have hindex := h.index_add
    have hindex' := hnext.index_add
    exact ⟨hnext, by omega⟩
  exact TanSource.exists_retries hdone hless h

/-- Whatever a lexer was told before, a call to read on makes progress. Its loop ends, with turns
that each take at least one character, be it in front of a fault. The call returns at the end of the
input or fails further on than it began, and the tokens it adds lie between the two places. Who
calls again behind every fault makes one call more than there are characters left at most, and comes
to the end. -/
theorem tokenize_gets_further (input : Text) (calls : List Call) :
    let lexer := (ofText input).afterCalls calls
    (∃ turns, lexer.here.index + turns ≤ input.length ∧
      lexer.Turns turns (ending lexer.tokenize)) ∧
    (∀ tokens next, lexer.tokenize = (.ok tokens, next) → next.here.index = input.length) ∧
    (∀ e next, lexer.tokenize = (.error e, next) →
      lexer.here.index < next.here.index ∧ next.here.index ≤ input.length) ∧
    (∃ added, lexer.tokenize.2.tokens = lexer.tokens ++ added ∧ ∀ t ∈ added,
      lexer.here.index ≤ t.span.start.index ∧ t.span.start.index < t.span.stop.index ∧
        t.span.stop.index ≤ lexer.tokenize.2.here.index) ∧
    ∃ count last, lexer.here.index + count ≤ input.length + 1 ∧
      Retries tokenize lexer count last ∧ last.here.index = input.length := by
  intro lexer
  have h : lexer.InPlace input := (inPlace_ofText input).afterCalls calls
  have hindex := h.index_add
  refine ⟨?turns, fun _ _ => h.index_of_ok, ?fails, ?added, ?again⟩
  case turns =>
    obtain ⟨turns, hle, hturns⟩ := h.exists_turns
    exact ⟨turns, by omega, hturns⟩
  case fails =>
    intro e next hcall
    exact ⟨h.index_of_error hcall, (h.of_tokenize hcall).here.within.index_le⟩
  case added =>
    have hrun : lexer.run.Covers input lexer.here := lexFrom_covers h.here h.mark h.mark_le
    rw [tokenize_snd]
    refine ⟨lexer.run.tokens, rfl, fun t ht => ?_⟩
    exact ⟨hrun.tokens.lower t ht, hrun.tokens.proper t ht, hrun.tokens.upper t ht⟩
  case again =>
    obtain ⟨count, last, hle, hretries, hlast⟩ := h.exists_retries
    exact ⟨count, last, by omega, hretries, hlast⟩

end Lexer

end TanSource
