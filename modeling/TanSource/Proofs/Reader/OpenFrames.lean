import TanSource.Proofs.Reader.Derivations

/-!
# The frames that stand open

Between two tokens the reader has a stack of frames, and nothing but that stack decides how it goes
on (`readFrom_append_eq`). The frames also tell what was read: complete expressions below each of
them, and the complete terms of each list (`hasRead_framesAfter`).
-/

namespace TanSource

open ParseTree

/-- The frames that stand open behind a token, unless it failed. -/
def ReadStep.frames? (frames : List Frame) : ReadStep → Option (List Frame)
  | skipped => some frames
  | inside inner => some inner
  | complete _ => some []
  | failed _ _ => none

section

variable [Coercion]

/-- The frames that stand open behind a row of tokens, unless one of them failed. -/
def framesAfter (frames : List Frame) : List Token → Option (List Frame)
  | [] => some frames
  | t :: ts => ((readToken frames t).frames? frames).bind fun inner => framesAfter inner ts

theorem framesAfter_cons_of_some {frames inner : List Frame} {t : Token}
    (h : (readToken frames t).frames? frames = some inner) (ts : List Token) :
    framesAfter frames (t :: ts) = framesAfter inner ts := by
  rw [framesAfter, h, Option.bind_some]

theorem framesAfter_append (frames : List Frame) (ts us : List Token) :
    framesAfter frames (ts ++ us) =
      (framesAfter frames ts).bind fun inner => framesAfter inner us := by
  induction ts generalizing frames with
  | nil => rfl
  | cons t ts ih =>
      rw [List.cons_append, framesAfter, framesAfter]
      cases (readToken frames t).frames? frames with
      | none => rfl
      | some inner => exact ih inner

/-- Tokens are read to their end, or one of them fails. -/
theorem framesAfter_cases (frames : List Frame) (ts : List Token) :
    (∃ inner, framesAfter frames ts = some inner) ∨
      ∃ front t back inner failure consumed, ts = front ++ t :: back ∧
        framesAfter frames front = some inner ∧ readToken inner t = .failed failure consumed := by
  induction ts generalizing frames with
  | nil => exact Or.inl ⟨frames, rfl⟩
  | cons t ts ih =>
      cases hframes : (readToken frames t).frames? frames with
      | none =>
          cases hstep : readToken frames t with
          | failed failure consumed =>
              exact Or.inr ⟨[], t, ts, frames, failure, consumed, rfl, rfl, hstep⟩
          | _ =>
              rw [hstep] at hframes
              cases hframes
      | some inner =>
          rcases ih inner with
            ⟨last, hlast⟩ | ⟨front, u, back, last, failure, consumed, rfl, hlast, h⟩
          · exact Or.inl ⟨last, by rw [framesAfter_cons_of_some hframes, hlast]⟩
          · refine Or.inr ⟨t :: front, u, back, last, failure, consumed, rfl, ?_, h⟩
            rw [framesAfter_cons_of_some hframes, hlast]

/-- Behind tokens that do not fail the reader goes on from the frames that stand open. -/
theorem readFrom_append_eq {frames inner : List Frame} {ts : List Token}
    (h : framesAfter frames ts = some inner) :
    ∃ es : List Expr, ∀ us, (readFrom frames (ts ++ us)).result =
      (readFrom inner us).result.map (es ++ ·) := by
  induction ts generalizing frames with
  | nil =>
      cases h
      refine ⟨[], fun us => ?_⟩
      rw [List.nil_append]
      cases (readFrom inner us).result <;> rfl
  | cons t ts ih =>
      cases hstep : readToken frames t with
      | skipped =>
          rw [framesAfter_cons_of_some (by rw [hstep]; rfl)] at h
          obtain ⟨es, hes⟩ := ih h
          refine ⟨es, fun us => ?_⟩
          rw [List.cons_append, readFrom_cons, hstep]
          exact hes us
      | inside next =>
          rw [framesAfter_cons_of_some (by rw [hstep]; rfl)] at h
          obtain ⟨es, hes⟩ := ih h
          refine ⟨es, fun us => ?_⟩
          rw [List.cons_append, readFrom_cons, hstep]
          exact hes us
      | complete e =>
          rw [framesAfter_cons_of_some (by rw [hstep]; rfl)] at h
          obtain ⟨es, hes⟩ := ih h
          refine ⟨e :: es, fun us => ?_⟩
          rw [List.cons_append, readFrom_cons, hstep, resultAfter, read, hes]
          cases (readFrom inner us).result <;> rfl
      | failed failure consumed =>
          rw [framesAfter, hstep] at h
          cases h

end

/-! ## Steps of the reader -/

section

variable {t : Token} {family : Bracket}

theorem place_ne_failed (e : Expr) (frames : List Frame) (failure : ReadFailure)
    (consumed : Bool) : place e frames ≠ .failed failure consumed := by
  fun_induction place e frames with
  | case1 e => simp
  | case2 e mark below ih => exact ih
  | case3 e opener family terms below => simp

variable [Coercion]

/-- A token whose value fits fails only as a closing delimiter, and the failure names it. -/
theorem closing_of_failed (ht : t.WellTyped) {frames : List Frame} {failure : ReadFailure}
    {consumed : Bool} (h : readToken frames t = .failed failure consumed) :
    (∃ family, t.kind = .closing family) ∧ ∃ problem, failure = .rejected problem t := by
  rcases token_cases ht with hkind | hkind | ⟨family, hkind⟩ | ⟨family, hkind⟩ | ⟨e, hatom⟩
  · rw [readToken_remark hkind] at h
    cases h
  · rw [readToken_quote hkind] at h
    cases h
  · rw [readToken_opening hkind] at h
    cases h
  · refine ⟨⟨family, hkind⟩, ?_⟩
    rw [readToken_closing hkind] at h
    cases frames with
    | nil =>
        cases h
        exact ⟨_, rfl⟩
    | cons frame below =>
        cases frame with
        | quote mark =>
            cases h
            exact ⟨_, rfl⟩
        | list opener expected terms =>
            rw [closeTop] at h
            split at h
            · exact absurd h (place_ne_failed _ below failure consumed)
            · cases h
              exact ⟨_, rfl⟩
  · rw [readToken_atom hatom] at h
    exact absurd h (place_ne_failed e frames failure consumed)

end

/-! ## What was read -/

namespace ParseTree

theorem yields_append (xs ys : List ParseTree) : yields (xs ++ ys) = yields xs ++ yields ys := by
  induction xs with
  | nil => rfl
  | cons x xs ih => rw [List.cons_append, yields, yields, ih, List.append_assoc]

theorem MeansAll.append {xs ys : List ParseTree} {es fs : List Expr} (hxs : MeansAll xs es)
    (hys : MeansAll ys fs) : MeansAll (xs ++ ys) (es ++ fs) := by
  induction xs generalizing es with
  | nil =>
      cases hxs
      exact hys
  | cons x xs ih =>
      cases hxs with
      | cons hx hxs => exact .cons hx (ih hxs)

theorem MeansAll.snoc {xs : List ParseTree} {x : ParseTree} {es : List Expr} {e : Expr}
    (hxs : MeansAll xs es) (hx : x.Means e) : MeansAll (xs ++ [x]) (es ++ [e]) :=
  hxs.append (.cons hx .nil)

theorem yields_snoc (xs : List ParseTree) (x : ParseTree) :
    yields (xs ++ [x]) = yields xs ++ x.yield := by
  rw [yields_append, yields, yields, List.append_nil]

end ParseTree

/-- Which tokens, comments and annotations apart, were read when the frames stand open. -/
inductive HasRead : List Frame → List Token → Prop
  | top {xs : List ParseTree} {es : List Expr} (hxs : MeansAll xs es) : HasRead [] (yields xs)
  | quote {mark : Token} {below : List Frame} {ts : List Token} (hmark : mark.kind = .quote)
      (hbelow : HasRead below ts) : HasRead (.quote mark :: below) (ts ++ [mark])
  | list {opener : Token} {family : Bracket} {terms : List Expr} {below : List Frame}
      {ts : List Token} {xs : List ParseTree} (hopener : opener.kind = .opening family)
      (hterms : MeansAll xs terms.reverse) (hbelow : HasRead below ts) :
      HasRead (.list opener family terms :: below) (ts ++ opener :: yields xs)

/-- An expression that is complete goes behind what was read. -/
theorem HasRead.place {frames : List Frame} {ts : List Token} (h : HasRead frames ts)
    {x : ParseTree} {e : Expr} (hx : x.Means e) (base : List Frame) :
    ∃ inner, (TanSource.place e frames).frames? base = some inner ∧
      HasRead inner (ts ++ x.yield) := by
  induction h generalizing x e with
  | @top xs es hxs =>
      rw [← yields_snoc]
      exact ⟨[], rfl, .top (hxs.snoc hx)⟩
  | @quote mark below ts hmark _ ih =>
      obtain ⟨inner, hinner, hread⟩ := ih (.quote hmark hx)
      rw [yield, ← List.singleton_append, ← List.append_assoc] at hread
      exact ⟨inner, hinner, hread⟩
  | @list opener family terms below ts xs hopener hterms hbelow _ =>
      refine ⟨.list opener family (e :: terms) :: below, rfl, ?_⟩
      rw [List.append_assoc, List.cons_append, ← yields_snoc]
      refine .list hopener ?_ hbelow
      rw [List.reverse_cons]
      exact hterms.snoc hx

variable [Coercion]

/-- A token that does not fail goes behind what was read. -/
theorem HasRead.step {frames inner : List Frame} {t : Token} {us : List Token}
    (h : HasRead frames us) (ht : t.WellTyped)
    (hstep : (readToken frames t).frames? frames = some inner) :
    HasRead inner (us ++ stripRemarks [t]) := by
  rcases token_cases ht with hkind | hkind | ⟨family, hkind⟩ | ⟨family, hkind⟩ | ⟨e, hatom⟩
  · rw [readToken_remark hkind] at hstep
    cases hstep
    rw [stripRemarks_of_remark hkind]
    exact (List.append_nil us).symm ▸ h
  · rw [readToken_quote hkind] at hstep
    cases hstep
    rw [stripRemarks_of_not_remark (by simp [Token.isRemark, hkind])]
    exact .quote hkind h
  · rw [readToken_opening hkind] at hstep
    cases hstep
    rw [stripRemarks_of_not_remark (by simp [Token.isRemark, hkind])]
    have hopened : HasRead (.list t family [] :: frames) (us ++ t :: yields []) :=
      .list hkind .nil h
    exact hopened
  · rw [readToken_closing hkind] at hstep
    rw [stripRemarks_of_not_remark (by simp [Token.isRemark, hkind])]
    cases h with
    | top hxs => cases hstep
    | quote hmark hbelow => cases hstep
    | @list opener expected terms below ts xs hopener hterms hbelow =>
        rw [closeTop] at hstep
        split at hstep
        · next hfamily =>
            subst hfamily
            have hlist : (ParseTree.list opener xs t).Means _ :=
              .list hopener hterms hkind (listMeans_iff.mpr rfl)
            obtain ⟨inner', hinner, hread⟩ :=
              hbelow.place hlist (.list opener family terms :: below)
            cases hinner.symm.trans hstep
            rw [yield, ← List.cons_append, ← List.append_assoc] at hread
            exact hread
        · cases hstep
  · rw [readToken_atom hatom] at hstep
    rw [stripRemarks_of_not_remark hatom.isRemark]
    obtain ⟨inner', hinner, hread⟩ := h.place (.atom hatom) frames
    cases hinner.symm.trans hstep
    exact hread

theorem hasRead_framesAfter {frames inner : List Frame} {ts us : List Token}
    (hts : ∀ t ∈ ts, t.WellTyped) (h : HasRead frames us)
    (hframes : framesAfter frames ts = some inner) : HasRead inner (us ++ stripRemarks ts) := by
  induction ts generalizing frames us with
  | nil =>
      cases hframes
      exact (List.append_nil us).symm ▸ h
  | cons t ts ih =>
      obtain ⟨ht, hts⟩ := List.forall_mem_cons.mp hts
      obtain ⟨next, hnext, hinner⟩ := Option.bind_eq_some_iff.mp hframes
      have hrest := ih hts (h.step ht hnext) hinner
      rw [List.append_assoc] at hrest
      have hsplit : stripRemarks (t :: ts) = stripRemarks [t] ++ stripRemarks ts :=
        stripRemarks_append [t] ts
      rwa [hsplit]

end TanSource
