import TanSource.Proofs.Reader.OpenFrames
import TanSource.Proofs.Source.WellFormed

/-!
# The first impossible token

The reader goes on as long as what it has read can be the front of something it accepts: whatever
stands open can be completed by an expression for the quote marks and the closing delimiters of the
lists. So the token that it rejects is the first one with which nothing accepted can go on, and if
there is none, it names the innermost construct that is not finished
(`rejects_first_impossible`).
-/

namespace TanSource

open ParseTree

/-! ## Completions -/

def Frame.closer? : Frame → Option Token
  | quote _ => none
  | list _ family _ => some ⟨.closing family, .absent, {}⟩

/-- An expression for the quote marks that wait for one. -/
def awaitedTarget : List Frame → List Token
  | .quote _ :: _ => [⟨.symbol, .text ['x'], {}⟩]
  | _ => []

/-- Tokens that complete all that stands open. -/
def completion (frames : List Frame) : List Token :=
  awaitedTarget frames ++ frames.filterMap Frame.closer?

theorem kind_of_mem_closers {frames : List Frame} :
    ∀ t ∈ frames.filterMap Frame.closer?, ∃ family, t.kind = .closing family := by
  intro t ht
  obtain ⟨frame, -, hcloser⟩ := List.mem_filterMap.mp ht
  cases frame with
  | quote mark => cases hcloser
  | list opener family terms =>
      cases hcloser
      exact ⟨family, rfl⟩

theorem wellTyped_completion (frames : List Frame) : ∀ t ∈ completion frames, t.WellTyped := by
  refine List.forall_mem_append.mpr ⟨?_, ?_⟩
  · unfold awaitedTarget
    split <;> simp [Token.WellTyped]
  · intro t ht
    obtain ⟨family, hkind⟩ := kind_of_mem_closers t ht
    simp [Token.WellTyped, hkind]

theorem balances_closers {frames : List Frame} (hframes : ∀ frame ∈ frames, frame.IsOpened) :
    Balances (frames.filterMap Frame.opener?) (frames.filterMap Frame.closer?) := by
  induction frames with
  | nil => exact balances_nil.mpr rfl
  | cons frame below ih =>
      obtain ⟨hframe, hbelow⟩ := List.forall_mem_cons.mp hframes
      cases frame with
      | quote mark => exact ih hbelow
      | list opener family terms => exact (balances_closing rfl hframe).mpr (ih hbelow)

theorem quotesHaveTargets_closers (frames : List Frame) :
    QuotesHaveTargets (frames.filterMap Frame.closer?) := by
  intro before mark after hsplit hmark
  have hmem : mark ∈ frames.filterMap Frame.closer? := by simp [hsplit]
  obtain ⟨family, hkind⟩ := kind_of_mem_closers mark hmem
  rw [hmark] at hkind
  cases hkind

theorem completes_completion {frames : List Frame} (hframes : ∀ frame ∈ frames, frame.IsOpened) :
    Completes frames (completion frames) := by
  have hbalances := balances_closers hframes
  have hquotes := quotesHaveTargets_closers frames
  unfold completion awaitedTarget
  split
  · have hatom : AtomMeans ⟨.symbol, .text ['x'], {}⟩ (.symbol ['x']) :=
      .symbol (by decide) (by decide)
    exact (completes_atom hatom).mpr ⟨hbalances, hquotes⟩
  · next hquote =>
      refine ⟨?_, hbalances, hquotes⟩
      intro hawaits
      cases frames with
      | nil => exact hawaits.elim
      | cons frame below =>
          cases frame with
          | quote mark => exact absurd rfl (hquote mark below)
          | list opener family terms => exact hawaits.elim

theorem HasRead.isOpened {frames : List Frame} {ts : List Token} (h : HasRead frames ts) :
    ∀ frame ∈ frames, frame.IsOpened := by
  induction h with
  | top hxs => simp
  | quote hmark _ ih => exact List.forall_mem_cons.mpr ⟨trivial, ih⟩
  | list hopener _ _ ih => exact List.forall_mem_cons.mpr ⟨hopener, ih⟩

/-! ## Constructs that are not finished -/

/-- The token begins a construct of several tokens. -/
def Token.BeginsConstruct (t : Token) : Prop :=
  t.kind = .quote ∨ ∃ family, t.kind = .opening family

/-- The construct that a token begins is finished by the tokens behind it: a quote mark by an
expression, an opening delimiter by expressions and the closing delimiter of its family. -/
inductive IsFinished (t : Token) : List Token → Prop
  | quote {x : ParseTree} {e : Expr} {more : List Token} (ht : t.kind = .quote)
      (hx : x.Means e) : IsFinished t (x.yield ++ more)
  | list {family : Bracket} {xs : List ParseTree} {es : List Expr} {closer : Token}
      {more : List Token} (ht : t.kind = .opening family) (hxs : MeansAll xs es)
      (hcloser : closer.kind = .closing family) : IsFinished t (yields xs ++ closer :: more)

/-- The token begins a construct that the tokens behind it, comments and annotations apart, do not
finish. -/
def IsUnfinished (t : Token) (after : List Token) : Prop :=
  t.BeginsConstruct ∧ ¬IsFinished t (stripRemarks after)

/-- The last token of the row that begins a construct which is not finished. -/
def InnermostUnfinished (ts : List Token) (t : Token) : Prop :=
  ∃ before after, ts = before ++ t :: after ∧ IsUnfinished t after ∧
    ∀ between u rest, after = between ++ u :: rest → ¬IsUnfinished u rest

theorem IsFinished.append {t : Token} {us : List Token} (h : IsFinished t us)
    (more : List Token) : IsFinished t (us ++ more) := by
  cases h with
  | quote ht hx =>
      rw [List.append_assoc]
      exact .quote ht hx
  | list ht hxs hcloser =>
      rw [List.append_assoc, List.cons_append]
      exact .list ht hxs hcloser

namespace ParseTree

mutual

/-- Inside the tokens of a tree every construct is finished. -/
theorem isFinished_of_yield : ∀ (x : ParseTree) {e : Expr}, x.Means e →
    ∀ {before : List Token} {t : Token} {after : List Token}, x.yield = before ++ t :: after →
      t.BeginsConstruct → IsFinished t after := by
  intro x e hx before t after hsplit ht
  match x, hx with
  | .atom u, .atom hu =>
      obtain ⟨hquote, hdelimiter⟩ := hu.kind_ne
      have hmem : t ∈ [u] := by
        rw [← yield, hsplit]
        exact List.mem_append_right before List.mem_cons_self
      obtain rfl := List.mem_singleton.mp hmem
      rcases ht with ht | ⟨family, ht⟩
      · exact absurd ht hquote
      · exact absurd ht (hdelimiter _)
  | .quote mark target, .quote hmark htarget =>
      rw [yield] at hsplit
      cases before with
      | nil =>
          obtain ⟨rfl, rfl⟩ := List.cons.inj hsplit
          have hfinished : IsFinished mark (target.yield ++ []) := .quote hmark htarget
          rwa [List.append_nil] at hfinished
      | cons u before => exact isFinished_of_yield target htarget (List.cons.inj hsplit).2 ht
  | .list opener terms closer, .list hopener hterms hcloser _ =>
      rw [yield] at hsplit
      cases before with
      | nil =>
          obtain ⟨rfl, rfl⟩ := List.cons.inj hsplit
          exact .list hopener hterms hcloser
      | cons u before =>
          rcases List.append_eq_append_iff.mp (List.cons.inj hsplit).2 with
            ⟨more, -, hcloser'⟩ | ⟨more, hmore, hafter⟩
          · -- the token would be the closing delimiter
            have hmem : t ∈ [closer] := by
              rw [hcloser']
              exact List.mem_append_right more List.mem_cons_self
            obtain rfl := List.mem_singleton.mp hmem
            rcases ht with ht | ⟨family, ht⟩ <;> cases hcloser.symm.trans ht
          · cases more with
            | nil =>
                obtain ⟨rfl, -⟩ := List.cons.inj hafter
                rcases ht with ht | ⟨family, ht⟩ <;> cases hcloser.symm.trans ht
            | cons v more =>
                obtain ⟨rfl, rfl⟩ := List.cons.inj hafter
                exact (isFinished_of_yields terms hterms hmore ht).append [closer]

theorem isFinished_of_yields : ∀ (xs : List ParseTree) {es : List Expr}, MeansAll xs es →
    ∀ {before : List Token} {t : Token} {after : List Token}, yields xs = before ++ t :: after →
      t.BeginsConstruct → IsFinished t after := by
  intro xs es hxs before t after hsplit ht
  match xs, hxs with
  | [], .nil => exact absurd hsplit.symm (by simp [yields])
  | x :: xs, .cons hx hxs =>
      rw [yields] at hsplit
      rcases List.append_eq_append_iff.mp hsplit with ⟨more, -, hmore⟩ | ⟨more, hmore, hafter⟩
      · exact isFinished_of_yields xs hxs hmore ht
      · cases more with
        | nil =>
            have hxs' : yields xs = [] ++ t :: after := hafter.symm
            exact isFinished_of_yields xs hxs hxs' ht
        | cons v more =>
            obtain ⟨rfl, rfl⟩ := List.cons.inj hafter
            exact (isFinished_of_yield x hx hmore ht).append (yields xs)

end

end ParseTree

theorem not_isFinished_quote {t : Token} (ht : t.kind = .quote) : ¬IsFinished t [] := by
  intro h
  generalize hus : ([] : List Token) = us at h
  cases h with
  | @quote x e more _ hx =>
      have hend : EndsTerms (x.yield ++ more) := by simp [EndsTerms, ← hus]
      exact not_endsTerms_yield hx more hend
  | list hopening _ _ => cases ht.symm.trans hopening

theorem not_isFinished_opening {t : Token} {family : Bracket} (ht : t.kind = .opening family)
    {xs : List ParseTree} {es : List Expr} (hxs : MeansAll xs es) : ¬IsFinished t (yields xs) := by
  intro h
  generalize hus : yields xs = us at h
  cases h with
  | quote hquote _ => cases ht.symm.trans hquote
  | @list expected ys fs closer more _ hys hcloser =>
      have hend : EndsTerms [] := by simp [EndsTerms]
      have hend' : EndsTerms (closer :: more) := by simp [EndsTerms, hcloser]
      rw [← List.append_nil (yields xs)] at hus
      cases (yields_append_inj xs ys hxs hys hend hend' hus).2

/-- The construct of the innermost frame is the last one that is not finished. -/
theorem HasRead.innermost {ts : List Token} {top : Frame} {below : List Frame}
    (h : HasRead (top :: below) (stripRemarks ts)) {problem : ReadProblem} {t : Token}
    (htop : top.unfinished = .rejected problem t) : InnermostUnfinished ts t := by
  obtain ⟨us, xs, es, hxs, hsplit, hbegins, hunfinished⟩ : ∃ us xs es, MeansAll xs es ∧
      stripRemarks ts = us ++ t :: yields xs ∧ t.BeginsConstruct ∧ ¬IsFinished t (yields xs) := by
    generalize stripRemarks ts = read at h
    cases h with
    | @quote mark _ us hmark _ =>
        cases htop
        exact ⟨us, [], [], .nil, rfl, Or.inl hmark, not_isFinished_quote hmark⟩
    | @list opener family _ _ us xs hopener hterms _ =>
        cases htop
        exact ⟨us, xs, _, hterms, rfl, Or.inr ⟨family, hopener⟩,
          not_isFinished_opening hopener hterms⟩
  obtain ⟨before, rest, rfl, -, hrest⟩ := List.filter_eq_append_iff.mp hsplit
  obtain ⟨remarks, after, rfl, -, -, hafter⟩ := List.filter_eq_cons_iff.mp hrest
  have hstripped : stripRemarks after = yields xs := hafter
  refine ⟨before ++ remarks, after, by rw [List.append_assoc], ⟨hbegins, ?_⟩, ?_⟩
  · rwa [hstripped]
  · rintro between u behind rfl ⟨hu, hnot⟩
    have hremark : u.isRemark = false := by
      rcases hu with hu | ⟨family, hu⟩ <;> simp [Token.isRemark, hu]
    rw [stripRemarks_append, stripRemarks_of_not_remark hremark] at hstripped
    exact hnot (isFinished_of_yields xs hxs hstripped.symm hu)

/-! ## Fronts of accepted rows -/

section

variable [Coercion]

def Accepted (ts : List Token) : Prop :=
  ∃ es, read ts = .ok es

def Extendable (ts : List Token) : Prop :=
  ∃ more, Accepted (ts ++ more)

section

variable {ts front : List Token} {inner : List Frame}

theorem hasRead_of_framesAfter (hts : ∀ t ∈ ts, t.WellTyped)
    (h : framesAfter [] ts = some inner) : HasRead inner (stripRemarks ts) := by
  have hnothing : HasRead [] (yields []) := .top .nil
  exact hasRead_framesAfter hts hnothing h

/-- What the reader goes through is the front of an accepted row. -/
theorem exists_completion (hts : ∀ t ∈ ts, t.WellTyped) (h : framesAfter [] ts = some inner) :
    ∃ more, (∀ t ∈ more, t.WellTyped) ∧ Accepted (ts ++ more) := by
  have hopened := (hasRead_of_framesAfter hts h).isOpened
  have hmore := wellTyped_completion inner
  obtain ⟨es, hes⟩ := (readFrom_ok_iff hmore hopened).mpr (completes_completion hopened)
  obtain ⟨earlier, hjoined⟩ := readFrom_append_eq h
  refine ⟨completion inner, hmore, earlier ++ es, ?_⟩
  rw [read, hjoined, hes]
  rfl

theorem extendable_take (hts : ∀ t ∈ ts, t.WellTyped) (h : framesAfter [] ts = some inner)
    (n : Nat) : Extendable (ts.take n) := by
  rw [← List.take_append_drop n ts, framesAfter_append] at h
  obtain ⟨middle, hmiddle, -⟩ := Option.bind_eq_some_iff.mp h
  obtain ⟨more, -, hmore⟩ := exists_completion (fun t ht => hts t (List.mem_of_mem_take ht)) hmiddle
  exact ⟨more, hmore⟩

/-- The reader fails at a token whatever follows it. -/
theorem read_of_failed {t : Token} {failure : ReadFailure} {consumed : Bool}
    (h : framesAfter [] front = some inner) (ht : readToken inner t = .failed failure consumed)
    (more : List Token) : read (front ++ t :: more) = .error failure := by
  obtain ⟨earlier, hjoined⟩ := readFrom_append_eq h
  rw [read, hjoined, readFrom_cons, ht]
  rfl

theorem not_extendable_of_failed {t : Token} {failure : ReadFailure} {consumed : Bool}
    (h : framesAfter [] front = some inner) (ht : readToken inner t = .failed failure consumed) :
    ¬Extendable (front ++ [t]) := by
  rintro ⟨more, es, hes⟩
  rw [List.append_assoc, List.singleton_append, read_of_failed h ht] at hes
  cases hes

/-- At the end of the tokens the reader names the innermost frame. -/
theorem unfinished_of_read {failure : ReadFailure} (h : framesAfter [] ts = some inner)
    (hread : read ts = .error failure) :
    ∃ top below, inner = top :: below ∧ failure = top.unfinished := by
  obtain ⟨earlier, hjoined⟩ := readFrom_append_eq h
  have hend := hjoined []
  rw [List.append_nil, ← read, hread] at hend
  cases inner with
  | nil => cases hend
  | cons top below =>
      cases hend
      exact ⟨top, below, rfl, rfl⟩

end

/-! ## The rejected token -/

/-- If the reader rejects a token, then either an accepted row can begin with the tokens in front of
some closing delimiter, but not with that delimiter as well, and it is this one, the first of its
kind, that is rejected; or an accepted row begins with all of the tokens, and the rejected one
begins the innermost construct that is not finished. -/
theorem rejects_first_impossible {ts : List Token} (hts : ∀ t ∈ ts, t.WellTyped)
    {stripComments : Bool} {log : LogSettings} {problem : ReadProblem} {t : Token}
    (h : (Reader.create ⟨true, stripComments, log⟩ ts).1 = .error (.rejected problem t)) :
    (∀ k < ts.length, ¬Extendable (ts.take (k + 1)) →
      (∀ j < k, Extendable (ts.take (j + 1))) →
      ts[k]? = some t ∧ (∃ family, t.kind = .closing family) ∧
      ∃ more, (∀ u ∈ more, u.WellTyped) ∧ Accepted (ts.take k ++ more)) ∧
    ((∀ k < ts.length, Extendable (ts.take (k + 1))) →
      (∃ more, (∀ u ∈ more, u.WellTyped) ∧ Accepted (ts ++ more)) ∧
      InnermostUnfinished ts t) := by
  have hread : read ts = .error (.rejected problem t) := by
    rw [← create_result stripComments log ts, h]
    rfl
  rcases framesAfter_cases [] ts with
    ⟨inner, hinner⟩ | ⟨front, u, back, inner, failure, consumed, rfl, hinner, hfailed⟩
  · -- the tokens come to their end
    refine ⟨?_, ?_⟩
    · intro k _ hnot _
      exact absurd (extendable_take hts hinner (k + 1)) hnot
    · intro _
      obtain ⟨top, below, rfl, htop⟩ := unfinished_of_read hinner hread
      exact ⟨exists_completion hts hinner, (hasRead_of_framesAfter hts hinner).innermost htop.symm⟩
  · -- the token `u` cannot stand behind those in front of it
    obtain ⟨hfront, hback⟩ := List.forall_mem_append.mp hts
    have hu := hback u List.mem_cons_self
    obtain ⟨hclosing, problem', rfl⟩ := closing_of_failed hu hfailed
    rw [read_of_failed hinner hfailed] at hread
    cases hread
    have hnot := not_extendable_of_failed hinner hfailed
    have htake : (front ++ t :: back).take (front.length + 1) = front ++ [t] := by
      rw [List.take_length_add_append]
      rfl
    have hlength : front.length < (front ++ t :: back).length := by simp
    have hbefore (k : Nat) (hk : k < front.length) :
        Extendable ((front ++ t :: back).take (k + 1)) := by
      rw [List.take_append_of_le_length hk]
      exact extendable_take hfront hinner (k + 1)
    refine ⟨?_, ?_⟩
    · intro k _ hk hleast
      have heq : k = front.length := by
        rcases Nat.lt_trichotomy k front.length with hlt | heq | hgt
        · exact absurd (hbefore k hlt) hk
        · exact heq
        · have hextendable := hleast front.length hgt
          rw [htake] at hextendable
          exact absurd hextendable hnot
      subst heq
      rw [List.take_left]
      exact ⟨by simp, hclosing, exists_completion hfront hinner⟩
    · intro hall
      have hextendable := hall front.length hlength
      rw [htake] at hextendable
      exact absurd hextendable hnot

end

/-- A list in brackets that stands open behind a quote mark, and a parenthesis in it that closes
nothing. -/
def strayParen : List Token :=
  [⟨.quote, .absent, {}⟩, ⟨.comment, .text ";".toList, {}⟩, ⟨.opening .square, .absent, {}⟩,
    ⟨.int, .int 1, {}⟩, ⟨.closing .paren, .absent, {}⟩, ⟨.closing .square, .absent, {}⟩]

attribute [local instance] Coercion.lax

theorem rejects_first_impossible_strayParen :
    (Reader.create ⟨true, false, {}⟩ strayParen).1 = .error
      (.rejected (.mismatched .square .paren) ⟨.closing .paren, .absent, {}⟩) ∧
    ¬Extendable (strayParen.take 5) ∧
    strayParen[4]? = some ⟨.closing .paren, .absent, {}⟩ ∧
    (∃ more, (∀ u ∈ more, u.WellTyped) ∧ Accepted (strayParen.take 4 ++ more)) ∧
    (Reader.create ⟨true, false, {}⟩ (strayParen.take 4)).1 = .error
      (.rejected (.unterminatedList .square) ⟨.opening .square, .absent, {}⟩) ∧
    InnermostUnfinished (strayParen.take 4) ⟨.opening .square, .absent, {}⟩ := by
  have hts : ∀ t ∈ strayParen, t.WellTyped := by simp [strayParen, Token.WellTyped]
  have hfront : ∀ t ∈ strayParen.take 4, t.WellTyped := fun t ht => hts t (List.mem_of_mem_take ht)
  have hopen (n : Nat) : Extendable ((strayParen.take 4).take n) := extendable_take hfront rfl n
  have hnot : ¬Extendable (strayParen.take 4 ++ [⟨.closing .paren, .absent, {}⟩]) :=
    not_extendable_of_failed rfl rfl
  have hleast (j : Nat) (hj : j < 4) : Extendable (strayParen.take (j + 1)) := by
    have hj' := hopen (j + 1)
    rwa [List.take_take, Nat.min_eq_left hj] at hj'
  obtain ⟨hthere, -, hmore⟩ :=
    (@rejects_first_impossible _ strayParen hts false {} _ _ rfl).1 4 (by decide) hnot hleast
  have hinnermost := ((@rejects_first_impossible _ (strayParen.take 4) hfront false {} _ _ rfl).2
    fun k _ => hopen (k + 1)).2
  exact ⟨rfl, hnot, hthere, hmore, rfl, hinnermost⟩

end TanSource
