import TanSource.Proofs.Reader.Derivations
import TanSource.Proofs.Reader.Descent
import TanSource.Proofs.Retries

/-!
# Progress of the reader

A reader takes the first token in front of it whatever becomes of it, and what it leaves unread ends
the row it had (`readOne_suffix`, `readFrom_suffix`). The tokens it takes for an expression are read
as that expression also where they stand alone (`exists_used`). So every call gets the reader
further on, and a caller that calls again behind every failure comes to the end of the tokens
(`calls_get_further`).
-/

namespace TanSource

/-! ## What is left unread -/

theorem ReadOutcome.rest_atEnd {α : Type} (value : α) (frames : List Frame) :
    (atEnd value frames).rest = [] := by
  cases frames <;> rfl

theorem unread_suffix (t : Token) (ts : List Token) (consumed : Bool) :
    (if consumed then ts else t :: ts) <:+ t :: ts := by
  cases consumed with
  | true => exact List.suffix_cons t ts
  | false => exact List.suffix_rfl

section

variable [Coercion] {t : Token} {ts : List Token} {frames : List Frame}

theorem readOne_suffix (frames : List Frame) (ts : List Token) :
    (readOne frames ts).rest <:+ ts := by
  induction ts generalizing frames with
  | nil =>
      have hrest : (readOne frames []).rest = [] := ReadOutcome.rest_atEnd none frames
      simp [hrest]
  | cons t ts ih =>
      cases hstep : readToken frames t with
      | skipped =>
          cases frames with
          | nil =>
              rw [readOne, hstep]
              exact List.suffix_cons t ts
          | cons frame below =>
              rw [readOne_of_skipped hstep]
              exact (ih _).trans (List.suffix_cons t ts)
      | inside inner =>
          rw [readOne_of_inside hstep]
          exact (ih inner).trans (List.suffix_cons t ts)
      | complete e =>
          rw [readOne_of_complete hstep]
          exact List.suffix_cons t ts
      | failed failure consumed =>
          rw [readOne_of_failed hstep]
          exact unread_suffix t ts consumed

theorem readFrom_suffix (frames : List Frame) (ts : List Token) :
    (readFrom frames ts).rest <:+ ts := by
  induction ts generalizing frames with
  | nil =>
      have hrest : (readFrom frames []).rest = [] := ReadOutcome.rest_atEnd [] frames
      simp [hrest]
  | cons t ts ih =>
      rw [readFrom]
      cases readToken frames t with
      | skipped => exact (ih frames).trans (List.suffix_cons t ts)
      | inside inner => exact (ih inner).trans (List.suffix_cons t ts)
      | complete e => exact (ih []).trans (List.suffix_cons t ts)
      | failed failure consumed => exact unread_suffix t ts consumed

/-- With nothing open the first token is taken, as it is by the descent. -/
theorem length_readOne_rest (t : Token) (ts : List Token) :
    (readOne [] (t :: ts)).rest.length ≤ ts.length := by
  have hrest : (readOne [] (t :: ts)).rest = (descendOne (t :: ts)).rest :=
    congrArg DescentOutcome.rest (readOne_eq_descendOne t ts)
  rw [hrest]
  exact (descendOne (t :: ts)).within

theorem length_readFrom_rest (t : Token) (ts : List Token) :
    (readFrom [] (t :: ts)).rest.length ≤ ts.length := by
  have hfirst := length_readOne_rest t ts
  have hrest : (readFrom [] (t :: ts)).rest = _ :=
    congrArg DescentOutcome.rest (readFrom_eq_readOne [] (t :: ts))
  rw [hrest, DescentOutcome.andThen]
  split
  · exact hfirst
  · exact Nat.le_trans (readFrom_suffix [] _).length_le hfirst

theorem rest_of_readFrom_ok {es : List Expr} (h : (readFrom frames ts).result = .ok es) :
    (readFrom frames ts).rest = [] := by
  induction ts generalizing frames es with
  | nil => rw [readFrom, ReadOutcome.rest_atEnd]
  | cons t ts ih =>
      rw [readFrom] at h ⊢
      cases hstep : readToken frames t with
      | skipped =>
          rw [hstep] at h
          exact ih h
      | inside inner =>
          rw [hstep] at h
          exact ih h
      | complete e =>
          cases hothers : (readFrom [] ts).result with
          | ok others => exact ih hothers
          | error failure =>
              simp only [hstep, hothers] at h
              cases h
      | failed failure consumed =>
          rw [hstep] at h
          cases h

/-! ## What is taken for an expression -/

/-- The tokens that are taken for an expression are read as that one alone. -/
theorem exists_used {e : Expr} (h : (readOne frames ts).result = .ok (some e)) :
    ∃ used, ts = used ++ (readOne frames ts).rest ∧ (readFrom frames used).result = .ok [e] := by
  induction ts generalizing frames with
  | nil => cases frames <;> cases h
  | cons t ts ih =>
      cases hstep : readToken frames t with
      | skipped =>
          cases frames with
          | nil =>
              rw [readOne, hstep] at h
              cases h
          | cons frame below =>
              rw [readOne_of_skipped hstep] at h ⊢
              obtain ⟨used, hused, hread⟩ := ih h
              refine ⟨t :: used, congrArg (t :: ·) hused, ?_⟩
              rwa [readFrom_cons, hstep]
      | inside inner =>
          rw [readOne_of_inside hstep] at h ⊢
          obtain ⟨used, hused, hread⟩ := ih h
          refine ⟨t :: used, congrArg (t :: ·) hused, ?_⟩
          rwa [readFrom_cons, hstep]
      | complete other =>
          rw [readOne_of_complete hstep] at h ⊢
          cases h
          refine ⟨[t], rfl, ?_⟩
          rw [readFrom_cons, hstep]
          rfl
      | failed failure consumed =>
          rw [readOne_of_failed hstep] at h
          cases h

end

/-! ## Calls -/

namespace Reader

/-- The reader stands between two of the tokens, in front of those behind its position. -/
structure InPlace (reader : Reader) (tokens : List Token) : Prop where
  rest : reader.rest = tokens.drop reader.position
  position_le : reader.position ≤ tokens.length

variable {reader next : Reader} {tokens rest : List Token}

theorem inPlace_ofTokens (tokens : List Token) : (ofTokens tokens).InPlace tokens :=
  ⟨rfl, Nat.zero_le _⟩

theorem InPlace.position_add (h : reader.InPlace tokens) :
    reader.position + reader.rest.length = tokens.length := by
  have hle := h.position_le
  rw [h.rest, List.length_drop]
  omega

theorem InPlace.goTo (h : reader.InPlace tokens) (hrest : rest <:+ reader.rest) :
    (reader.goTo rest).InPlace tokens := by
  have hsize : reader.size = tokens.length := h.position_add
  have hsuffix : rest <:+ tokens := hrest.trans (h.rest ▸ List.drop_suffix _ _)
  refine ⟨?_, ?_⟩
  · rw [Reader.goTo, hsize]
    exact List.suffix_iff_eq_drop.mp hsuffix
  · rw [Reader.goTo, hsize]
    exact Nat.sub_le _ _

theorem InPlace.position_goTo (h : reader.InPlace tokens) (rest : List Token) :
    (reader.goTo rest).position = tokens.length - rest.length :=
  congrArg (· - rest.length) h.position_add

/-- A reader is further on when it leaves fewer tokens. -/
theorem InPlace.goTo_further (h : reader.InPlace tokens)
    (hrest : rest.length < reader.rest.length) :
    reader.position < (reader.goTo rest).position ∧
      (reader.goTo rest).position ≤ tokens.length := by
  have hposition := h.position_add
  rw [h.position_goTo]
  omega

section

variable [Coercion]

inductive Call
  | one
  | parse
  | advance

def afterCall (reader : Reader) : Call → Reader
  | .one => reader.one.2
  | .parse => reader.parse.2
  | .advance => reader.advance.2

def afterCalls (reader : Reader) (calls : List Call) : Reader :=
  calls.foldl afterCall reader

/-- With tokens left there is a result of reading an expression. -/
theorem one_of_hasMore (hmore : reader.hasMore = true) :
    reader.one =
      (some (readOne [] reader.rest).result, reader.goTo (readOne [] reader.rest).rest) := by
  cases hrest : reader.rest with
  | nil => simp [hasMore, hrest] at hmore
  | cons t ts => simp only [one, hrest]

theorem InPlace.one (h : reader.InPlace tokens) : reader.one.2.InPlace tokens := by
  cases hmore : reader.hasMore with
  | false =>
      have hrest : reader.rest = [] := by simpa [hasMore] using hmore
      simpa only [Reader.one, hrest] using h
  | true =>
      rw [one_of_hasMore hmore]
      exact h.goTo (readOne_suffix [] reader.rest)

theorem InPlace.parse (h : reader.InPlace tokens) : reader.parse.2.InPlace tokens :=
  h.goTo (readFrom_suffix [] reader.rest)

theorem InPlace.afterCalls (h : reader.InPlace tokens) (calls : List Call) :
    (reader.afterCalls calls).InPlace tokens := by
  induction calls generalizing reader with
  | nil => exact h
  | cons call calls ih =>
      cases call with
      | one => exact ih h.one
      | parse => exact ih h.parse
      | advance => exact ih (h.goTo (List.tail_suffix reader.rest))

theorem inPlace_of_create {settings : ReaderSettings} {start : Reader}
    (hstart : (create settings tokens).1 = .ok start) :
    start.InPlace (prepare settings tokens) := by
  have h := inPlace_ofTokens (prepare settings tokens)
  cases hparse : settings.parse with
  | false =>
      rw [create, hparse] at hstart
      cases hstart
      exact h
  | true =>
      have hread := h.parse
      simp only [create, hparse, if_true] at hstart
      split at hstart
      · cases hstart
        exact ⟨hread.rest, hread.position_le⟩
      · cases hstart

theorem InPlace.one_further (h : reader.InPlace tokens) (hmore : reader.hasMore = true) :
    reader.position < reader.one.2.position ∧ reader.one.2.position ≤ tokens.length := by
  rw [one_of_hasMore hmore]
  apply h.goTo_further
  cases hrest : reader.rest with
  | nil => simp [hasMore, hrest] at hmore
  | cons t ts => exact Nat.lt_succ_of_le (length_readOne_rest t ts)

theorem InPlace.create_taken (h : reader.InPlace tokens) {e : Expr}
    (hread : (readOne [] reader.rest).result = .ok (some e)) (stripComments : Bool)
    (log : LogSettings) :
    let next := reader.goTo (readOne [] reader.rest).rest
    let taken := (tokens.drop reader.position).take (next.position - reader.position)
    (create ⟨true, stripComments, log⟩ taken).1.map exprs = .ok [e] := by
  intro next taken
  obtain ⟨used, hused, halone⟩ := exists_used hread
  have hlength : next.position - reader.position = used.length := by
    have hposition := h.position_add
    have hsplit := congrArg List.length hused
    rw [List.length_append] at hsplit
    rw [h.position_goTo]
    omega
  have htaken : taken = used :=
    calc taken = reader.rest.take used.length := by rw [h.rest, ← hlength]
      _ = (used ++ (readOne [] reader.rest).rest).take used.length := by rw [← hused]
      _ = used := List.take_left
  rw [create_result, htaken, read, halone]

theorem InPlace.of_parse (h : reader.InPlace tokens) {result : Except ReadFailure (List Expr)}
    (hcall : reader.parse = (result, next)) : next.InPlace tokens := by
  have hnext := h.parse
  rwa [hcall] at hnext

theorem InPlace.position_of_ok (h : reader.InPlace tokens) {es : List Expr}
    (hcall : reader.parse = (.ok es, next)) : next.position = tokens.length := by
  have hresult : (readFrom [] reader.rest).result = .ok es := congrArg Prod.fst hcall
  have hnext : reader.goTo (readFrom [] reader.rest).rest = next := congrArg Prod.snd hcall
  rw [← hnext, h.position_goTo, rest_of_readFrom_ok hresult]
  rfl

theorem InPlace.further_of_error (h : reader.InPlace tokens) {failure : ReadFailure}
    (hcall : reader.parse = (.error failure, next)) :
    reader.position < next.position ∧ next.position ≤ tokens.length := by
  have hresult : (readFrom [] reader.rest).result = .error failure := congrArg Prod.fst hcall
  have hnext : reader.goTo (readFrom [] reader.rest).rest = next := congrArg Prod.snd hcall
  rw [← hnext]
  apply h.goTo_further
  cases hrest : reader.rest with
  | nil =>
      rw [hrest] at hresult
      cases hresult
  | cons t ts => exact Nat.lt_succ_of_le (length_readFrom_rest t ts)

theorem InPlace.exists_retries (h : reader.InPlace tokens) :
    ∃ count last, count ≤ reader.rest.length + 1 ∧ Retries Reader.parse reader count last ∧
      last.position = tokens.length := by
  have hdone : ∀ (reader : Reader) es next, reader.InPlace tokens →
      reader.parse = (.ok es, next) → next.position = tokens.length :=
    fun _ _ _ h => h.position_of_ok
  have hless : ∀ (reader : Reader) failure next, reader.InPlace tokens →
      reader.parse = (.error failure, next) →
      next.InPlace tokens ∧ next.rest.length < reader.rest.length := by
    intro reader failure next h hcall
    have hnext := h.of_parse hcall
    have hfurther := h.further_of_error hcall
    have hposition := h.position_add
    have hposition' := hnext.position_add
    exact ⟨hnext, by omega⟩
  exact TanSource.exists_retries hdone hless h

/-- Whatever a reader was told before, a call makes progress. To read an expression is to descend
over the tokens in front of the reader. With tokens left that takes some of them, be there an
expression, none or a failure, and the tokens that are taken for an expression are read as that one
alone. Reading on returns at the end of the tokens or fails further on than it began. Who calls
again behind every failure makes one call more than there are tokens left at most, and comes to the
end. -/
theorem calls_get_further {settings : ReaderSettings} {tokens : List Token} {start : Reader}
    (hstart : (create settings tokens).1 = .ok start) (calls : List Call) :
    let all := prepare settings tokens
    let reader := start.afterCalls calls
    (reader.rest = all.drop reader.position ∧ reader.position ≤ all.length) ∧
    (reader.hasMore = true → ∃ result next,
      reader.one = (some result, next) ∧
      (∃ events, (descendOne reader.rest).toDescentOutcome =
        ⟨result.mapError .read, next.rest, events⟩) ∧
      (next.rest = all.drop next.position ∧ reader.position < next.position ∧
        next.position ≤ all.length) ∧
      ∀ e, result = .ok (some e) → ∀ stripComments log,
        let taken := (all.drop reader.position).take (next.position - reader.position)
        (create ⟨true, stripComments, log⟩ taken).1.map exprs = .ok [e]) ∧
    (∀ es next, reader.parse = (.ok es, next) → next.position = all.length) ∧
    (∀ failure next, reader.parse = (.error failure, next) →
      reader.position < next.position ∧ next.position ≤ all.length) ∧
    ∃ count last, reader.position + count ≤ all.length + 1 ∧
      Retries parse reader count last ∧ last.position = all.length := by
  intro all reader
  have h : reader.InPlace all := (inPlace_of_create hstart).afterCalls calls
  refine ⟨⟨h.rest, h.position_le⟩, ?one, fun _ _ => h.position_of_ok,
    fun _ _ => h.further_of_error, ?again⟩
  case one =>
    intro hmore
    have hone := one_of_hasMore hmore
    have hnext := h.one
    have hfurther := h.one_further hmore
    rw [hone] at hnext hfurther
    refine ⟨_, _, hone, ⟨(readOne [] reader.rest).events, ?_⟩, ⟨hnext.rest, hfurther⟩,
      fun e hread => h.create_taken hread⟩
    cases hrest : reader.rest with
    | nil => simp [hasMore, hrest] at hmore
    | cons t ts => exact (readOne_eq_descendOne t ts).symm
  case again =>
    obtain ⟨count, last, hle, hretries, hlast⟩ := h.exists_retries
    have hposition := h.position_add
    exact ⟨count, last, by omega, hretries, hlast⟩

end

/-- A quote mark without an expression behind it, between two expressions. -/
def markWithoutTarget : List Token :=
  [⟨.int, .int 1, {}⟩, ⟨.quote, .absent, {}⟩, ⟨.closing .paren, .absent, {}⟩,
    ⟨.symbol, .text "x".toList, {}⟩]

attribute [local instance] Coercion.lax

theorem calls_get_further_markWithoutTarget :
    (create ⟨false, true, {}⟩ markWithoutTarget).1 = .ok (ofTokens markWithoutTarget) ∧
      ∃ count last, count ≤ 4 ∧
        Retries parse ((ofTokens markWithoutTarget).afterCalls [.one]) count last ∧
        last.position = 4 := by
  have hstart : (create ⟨false, true, {}⟩ markWithoutTarget).1 =
      .ok (ofTokens markWithoutTarget) := rfl
  obtain ⟨-, -, -, -, count, last, hcount, hretries, hlast⟩ := calls_get_further hstart [.one]
  refine ⟨hstart, count, last, ?_, hretries, hlast⟩
  exact Nat.add_le_add_iff_left.mp hcount

end Reader

end TanSource
