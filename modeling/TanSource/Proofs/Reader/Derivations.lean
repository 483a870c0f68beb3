import TanSource.Coercion.Lax
import TanSource.Proofs.Reader.Grammar

/-!
# What the reader accepts

The reader accepts the rows of tokens that parse trees yield, comments and annotations apart, and
gives what the trees mean (`create_exprs_iff_derives`).
-/

namespace TanSource

open ParseTree

/-! ## Rows without comments and annotations -/

theorem stripRemarks_of_remark {t : Token} (ht : t.isRemark = true) (ts : List Token) :
    stripRemarks (t :: ts) = stripRemarks ts := by
  simp [stripRemarks, ht]

theorem stripRemarks_of_not_remark {t : Token} (ht : t.isRemark = false) (ts : List Token) :
    stripRemarks (t :: ts) = t :: stripRemarks ts := by
  simp [stripRemarks, ht]

theorem stripRemarks_append (ts us : List Token) :
    stripRemarks (ts ++ us) = stripRemarks ts ++ stripRemarks us :=
  List.filter_append ts us

def ReadOutcome.stripped {α : Type} (outcome : ReadOutcome α) : ReadOutcome α :=
  { outcome with rest := stripRemarks outcome.rest }

/-! ## Results of runs -/

section

variable [Coercion]

/-- The result of reading on when an expression is complete in front of the frames. -/
def deliver (e : Expr) (frames : List Frame) (ts : List Token) : Except ReadFailure (List Expr) :=
  match frames with
  | [] => (read ts).map (e :: ·)
  | .quote _ :: below => deliver e.quotation below ts
  | .list opener family terms :: below =>
      (readFrom (.list opener family (e :: terms) :: below) ts).result

def resultAfter (frames : List Frame) (ts : List Token) : ReadStep → Except ReadFailure (List Expr)
  | .skipped => (readFrom frames ts).result
  | .inside inner => (readFrom inner ts).result
  | .complete e => (read ts).map (e :: ·)
  | .failed failure _ => .error failure

theorem readFrom_cons (frames : List Frame) (t : Token) (ts : List Token) :
    (readFrom frames (t :: ts)).result = resultAfter frames ts (readToken frames t) := by
  rw [readFrom]
  split <;> next h => rw [h]; rfl

theorem resultAfter_place (frames : List Frame) (ts : List Token) (e : Expr) (below : List Frame) :
    resultAfter frames ts (place e below) = deliver e below ts := by
  fun_induction place e below with
  | case1 e => rfl
  | case2 e mark below ih => exact ih
  | case3 e opener family terms below => rfl

theorem readToken_quote {t : Token} (ht : t.kind = .quote) (frames : List Frame) :
    readToken frames t = .inside (.quote t :: frames) := by
  rw [readToken, ht]

theorem readToken_opening {t : Token} {family : Bracket} (ht : t.kind = .opening family)
    (frames : List Frame) :
    readToken frames t = .inside (.list t family [] :: frames) := by
  rw [readToken, ht]

theorem readToken_closing {t : Token} {family : Bracket} (ht : t.kind = .closing family)
    (frames : List Frame) :
    readToken frames t = closeTop family t frames := by
  rw [readToken, ht]

theorem readFrom_quote {t : Token} (ht : t.kind = .quote) (frames : List Frame) (ts : List Token) :
    (readFrom frames (t :: ts)).result = (readFrom (.quote t :: frames) ts).result := by
  rw [readFrom_cons, readToken_quote ht]
  rfl

theorem readFrom_opening {t : Token} {family : Bracket} (ht : t.kind = .opening family)
    (frames : List Frame) (ts : List Token) :
    (readFrom frames (t :: ts)).result = (readFrom (.list t family [] :: frames) ts).result := by
  rw [readFrom_cons, readToken_opening ht]
  rfl

theorem readFrom_closing {t : Token} {family : Bracket} (ht : t.kind = .closing family)
    (opener : Token) (terms : List Expr) (below : List Frame) (ts : List Token) :
    (readFrom (.list opener family terms :: below) (t :: ts)).result =
      deliver (Expr.ofTerms (Expr.withHead family terms.reverse)) below ts := by
  rw [readFrom_cons, readToken_closing ht]
  simp only [closeTop, if_true, resultAfter_place]

/-- A closing bracket that does not close the innermost construct is rejected. -/
theorem readFrom_closing_cases {t : Token} {family : Bracket} (ht : t.kind = .closing family)
    (frames : List Frame) (ts : List Token) :
    (∃ opener terms below, frames = .list opener family terms :: below) ∨
      ∃ problem, (readFrom frames (t :: ts)).result = .error (.rejected problem t) := by
  rw [readFrom_cons, readToken_closing ht]
  cases frames with
  | nil => exact Or.inr ⟨_, rfl⟩
  | cons frame below =>
      cases frame with
      | quote mark => exact Or.inr ⟨_, rfl⟩
      | list opener expected terms =>
          by_cases hfamily : family = expected
          · subst hfamily
            exact Or.inl ⟨opener, terms, below, rfl⟩
          · simp only [closeTop, if_neg hfamily]
            exact Or.inr ⟨_, rfl⟩

theorem readToken_atom {t : Token} {e : Expr} (ht : AtomMeans t e) (frames : List Frame) :
    readToken frames t = place e frames := by
  have hatom := (ofToken?_eq_some_iff ht.wellTyped).mpr ht
  unfold readToken
  rw [hatom]
  cases ht <;> rfl

theorem readFrom_atom {t : Token} {e : Expr} (ht : AtomMeans t e) (frames : List Frame)
    (ts : List Token) : (readFrom frames (t :: ts)).result = deliver e frames ts := by
  rw [readFrom_cons, readToken_atom ht, resultAfter_place]

theorem readToken_remark {t : Token} (ht : t.isRemark = true) (frames : List Frame) :
    readToken frames t = .skipped := by
  simp only [Token.isRemark, Bool.or_eq_true, decide_eq_true_eq] at ht
  rcases ht with ht | ht <;> rw [readToken, ht]

theorem readFrom_remark {t : Token} (ht : t.isRemark = true) (frames : List Frame)
    (ts : List Token) : (readFrom frames (t :: ts)).result = (readFrom frames ts).result := by
  rw [readFrom_cons, readToken_remark ht]
  rfl

/-- Whatever stands open, the reader ends as it does without comments and annotations. -/
theorem readFrom_stripRemarks_eq (frames : List Frame) (ts : List Token) :
    readFrom frames (stripRemarks ts) = (readFrom frames ts).stripped := by
  induction ts generalizing frames with
  | nil => cases frames <;> rfl
  | cons t ts ih =>
      cases ht : t.isRemark with
      | true => rw [stripRemarks_of_remark ht, ih, readFrom, readToken_remark ht]
      | false =>
          -- the token stands in both rows and does the same, also where it is left unread
          have hunread := stripRemarks_of_not_remark ht ts
          rw [hunread, readFrom, readFrom]
          cases readToken frames t with
          | skipped => exact ih frames
          | inside inner => exact congrArg (ReadOutcome.precededBy _) (ih inner)
          | complete e => simp only [ih, ReadOutcome.stripped, ReadOutcome.precededBy]
          | failed failure consumed =>
              cases consumed with
              | true => rfl
              | false => exact congrArg (ReadOutcome.mk _ · _) hunread.symm

/-- Comments and annotations make no difference. -/
theorem readFrom_stripRemarks (frames : List Frame) (ts : List Token) :
    (readFrom frames (stripRemarks ts)).result = (readFrom frames ts).result := by
  rw [readFrom_stripRemarks_eq]
  rfl

/-! ## What parse trees yield is accepted -/

mutual

/-- The tokens of a tree take the reader to where the expression is complete. -/
theorem readFrom_yield : ∀ (x : ParseTree) {e : Expr}, x.Means e →
    ∀ (frames : List Frame) (ts : List Token),
      (readFrom frames (x.yield ++ ts)).result = deliver e frames ts := by
  intro x e hx frames ts
  match x, hx with
  | .atom t, .atom ht => exact readFrom_atom ht frames ts
  | .quote mark target, .quote hmark htarget =>
      rw [yield, List.cons_append, readFrom_quote hmark, readFrom_yield target htarget]
      rfl
  | .list opener terms closer, .list hopener hterms hcloser he =>
      rw [yield, List.cons_append, List.append_assoc, readFrom_opening hopener,
        readFrom_yields_inside terms hterms, List.singleton_append, readFrom_closing hcloser,
        listMeans_iff.mp he, List.append_nil, List.reverse_reverse]

theorem readFrom_yields_inside : ∀ (xs : List ParseTree) {es : List Expr}, MeansAll xs es →
    ∀ (opener : Token) (family : Bracket) (terms : List Expr) (below : List Frame)
      (ts : List Token),
      (readFrom (.list opener family terms :: below) (yields xs ++ ts)).result =
        (readFrom (.list opener family (es.reverse ++ terms) :: below) ts).result := by
  intro xs es hxs opener family terms below ts
  match xs, hxs with
  | [], .nil => rfl
  | x :: xs, @MeansAll.cons _ e _ _ hx hxs =>
      rw [yields, List.append_assoc, readFrom_yield x hx]
      show (readFrom (.list opener family (e :: terms) :: below) (yields xs ++ ts)).result = _
      rw [readFrom_yields_inside xs hxs, List.reverse_cons, List.append_assoc,
        List.singleton_append]

end

theorem read_yields {xs : List ParseTree} {es : List Expr} (hxs : MeansAll xs es) :
    read (yields xs) = .ok es := by
  induction xs generalizing es with
  | nil =>
      cases hxs
      rfl
  | cons x xs ih =>
      cases hxs with
      | cons hx hxs =>
          rw [yields, read, readFrom_yield x hx, deliver, ih hxs]
          rfl

end

/-! ## What is accepted has parse trees -/

mutual

/-- Which tokens, comments and annotations apart, finish the frames and give the expressions. -/
inductive Finishes : List Frame → List Token → List Expr → Prop
  | top {xs : List ParseTree} {es : List Expr} (hxs : MeansAll xs es) : Finishes [] (yields xs) es
  | quote {mark : Token} {x : ParseTree} {e : Expr} {below : List Frame} {ts : List Token}
      {es : List Expr} (hx : x.Means e) (hrest : FinishesBehind e.quotation below ts es) :
      Finishes (.quote mark :: below) (x.yield ++ ts) es
  | list {opener closer : Token} {family : Bracket} {terms more : List Expr} {below : List Frame}
      {xs : List ParseTree} {ts : List Token} {es : List Expr} (hxs : MeansAll xs more)
      (hcloser : closer.kind = .closing family)
      (hrest : FinishesBehind (Expr.ofTerms (Expr.withHead family (terms.reverse ++ more))) below
        ts es) :
      Finishes (.list opener family terms :: below) (yields xs ++ closer :: ts) es

/-- Which tokens finish the frames when an expression is complete in front of them. -/
inductive FinishesBehind : Expr → List Frame → List Token → List Expr → Prop
  | top {e : Expr} {ts : List Token} {es : List Expr} (hrest : Finishes [] ts es) :
      FinishesBehind e [] ts (e :: es)
  | quote {mark : Token} {e : Expr} {below : List Frame} {ts : List Token} {es : List Expr}
      (hrest : FinishesBehind e.quotation below ts es) :
      FinishesBehind e (.quote mark :: below) ts es
  | list {opener : Token} {family : Bracket} {terms : List Expr} {e : Expr} {below : List Frame}
      {ts : List Token} {es : List Expr}
      (hrest : Finishes (.list opener family (e :: terms) :: below) ts es) :
      FinishesBehind e (.list opener family terms :: below) ts es

end

theorem Finishes.of_means {x : ParseTree} {e : Expr} {frames : List Frame} {ts : List Token}
    {es : List Expr} (hx : x.Means e) (hrest : FinishesBehind e frames ts es) :
    Finishes frames (x.yield ++ ts) es := by
  cases hrest with
  | top hrest =>
      cases hrest with
      | top hxs => exact .top (.cons hx hxs)
  | quote hrest => exact .quote hx hrest
  | list hrest =>
      cases hrest with
      | list hxs hcloser hrest =>
          rw [List.reverse_cons, List.append_assoc, List.singleton_append] at hrest
          rw [← List.append_assoc]
          exact .list (.cons hx hxs) hcloser hrest

section

variable [Coercion]

theorem finishesBehind_of_deliver {ts : List Token}
    (hts : ∀ (frames : List Frame) (es : List Expr), (readFrom frames ts).result = .ok es →
      Finishes frames (stripRemarks ts) es)
    {e : Expr} {frames : List Frame} {es : List Expr} (h : deliver e frames ts = .ok es) :
    FinishesBehind e frames (stripRemarks ts) es := by
  induction frames generalizing e with
  | nil =>
      rw [deliver] at h
      cases hread : read ts with
      | error failure =>
          rw [hread] at h
          cases h
      | ok others =>
          rw [hread] at h
          cases h
          exact .top (hts [] others hread)
  | cons frame below ih =>
      cases frame with
      | quote mark => exact .quote (ih h)
      | list opener family terms => exact .list (hts _ es h)

theorem finishes_of_readFrom {ts : List Token} (hts : ∀ t ∈ ts, t.WellTyped) {frames : List Frame}
    {es : List Expr} (h : (readFrom frames ts).result = .ok es) :
    Finishes frames (stripRemarks ts) es := by
  -- The frames change with every token, so what they still demand has to be known for all of them.
  induction ts generalizing frames es with
  | nil =>
      cases frames with
      | nil =>
          cases h
          exact .top .nil
      | cons frame below => cases h
  | cons t ts ih =>
      obtain ⟨ht, hts⟩ := List.forall_mem_cons.mp hts
      have hrest (frames : List Frame) (es : List Expr)
          (h : (readFrom frames ts).result = .ok es) : Finishes frames (stripRemarks ts) es :=
        ih hts h
      rcases token_cases ht with hkind | hkind | ⟨family, hkind⟩ | ⟨family, hkind⟩ | ⟨e, hatom⟩
      · rw [readFrom_remark hkind] at h
        rw [stripRemarks_of_remark hkind]
        exact hrest frames es h
      · rw [readFrom_quote hkind] at h
        rw [stripRemarks_of_not_remark (by simp [Token.isRemark, hkind])]
        generalize stripRemarks ts = us at *
        cases hrest _ es h with
        | quote hx hbehind => exact .of_means (.quote hkind hx) hbehind
      · rw [readFrom_opening hkind] at h
        rw [stripRemarks_of_not_remark (by simp [Token.isRemark, hkind])]
        generalize stripRemarks ts = us at *
        cases hrest _ es h with
        | @list _ closer _ _ more _ xs vs _ hxs hcloser hbehind =>
            have hlist : (ParseTree.list t xs closer).Means _ :=
              .list hkind hxs hcloser (listMeans_iff.mpr rfl)
            have hfinish := Finishes.of_means hlist hbehind
            rwa [yield, List.cons_append, List.append_assoc] at hfinish
      · rw [stripRemarks_of_not_remark (by simp [Token.isRemark, hkind])]
        rcases readFrom_closing_cases hkind frames ts with
          ⟨opener, terms, below, rfl⟩ | ⟨problem, herror⟩
        · rw [readFrom_closing hkind] at h
          have hbehind := finishesBehind_of_deliver hrest h
          rw [← List.append_nil terms.reverse] at hbehind
          exact .list .nil hkind hbehind
        · rw [herror] at h
          cases h
      · rw [readFrom_atom hatom] at h
        rw [stripRemarks_of_not_remark hatom.isRemark]
        exact .of_means (.atom hatom) (finishesBehind_of_deliver hrest h)

/-! ## The grammar of the reader -/

theorem deliver_error {ts : List Token}
    (hts : ∀ (frames : List Frame) (failure : ReadFailure),
      (readFrom frames ts).result = .error failure → ∃ problem t, failure = .rejected problem t)
    {e : Expr} {frames : List Frame} {failure : ReadFailure}
    (h : deliver e frames ts = .error failure) : ∃ problem t, failure = .rejected problem t := by
  induction frames generalizing e with
  | nil =>
      rw [deliver] at h
      cases hread : read ts with
      | error failure' =>
          rw [hread] at h
          cases h
          exact hts [] failure hread
      | ok others =>
          rw [hread] at h
          cases h
  | cons frame below ih =>
      cases frame with
      | quote mark => exact ih h
      | list opener family terms => exact hts _ failure h

/-- Tokens whose values fit are read or rejected. -/
theorem rejected_of_readFrom {ts : List Token} (hts : ∀ t ∈ ts, t.WellTyped) {frames : List Frame}
    {failure : ReadFailure} (h : (readFrom frames ts).result = .error failure) :
    ∃ problem t, failure = .rejected problem t := by
  induction ts generalizing frames failure with
  | nil =>
      cases frames with
      | nil => cases h
      | cons frame below =>
          cases h
          cases frame <;> exact ⟨_, _, rfl⟩
  | cons t ts ih =>
      obtain ⟨ht, hts⟩ := List.forall_mem_cons.mp hts
      rcases token_cases ht with hkind | hkind | ⟨family, hkind⟩ | ⟨family, hkind⟩ | ⟨e, hatom⟩
      · rw [readFrom_remark hkind] at h
        exact ih hts h
      · rw [readFrom_quote hkind] at h
        exact ih hts h
      · rw [readFrom_opening hkind] at h
        exact ih hts h
      · rcases readFrom_closing_cases hkind frames ts with
          ⟨opener, terms, below, rfl⟩ | ⟨problem, herror⟩
        · rw [readFrom_closing hkind] at h
          exact deliver_error (fun _ _ => ih hts) h
        · rw [herror] at h
          cases h
          exact ⟨problem, t, rfl⟩
      · rw [readFrom_atom hatom] at h
        exact deliver_error (fun _ _ => ih hts) h

theorem read_eq_ok_iff {ts : List Token} (hts : ∀ t ∈ ts, t.WellTyped) {es : List Expr} :
    read ts = .ok es ↔ ∃ xs, MeansAll xs es ∧ yields xs = stripRemarks ts := by
  constructor
  · intro h
    have hfinish := finishes_of_readFrom hts h
    generalize stripRemarks ts = us at *
    cases hfinish with
    | @top xs _ hxs => exact ⟨xs, hxs, rfl⟩
  · rintro ⟨xs, hxs, hyields⟩
    rw [read, ← readFrom_stripRemarks, ← hyields]
    exact read_yields hxs

theorem create_result (stripComments : Bool) (log : LogSettings) (ts : List Token) :
    (Reader.create ⟨true, stripComments, log⟩ ts).1.map Reader.exprs = read ts := by
  have hprepare : read (Reader.prepare ⟨true, stripComments, log⟩ ts) = read ts := by
    cases stripComments with
    | true => exact readFrom_stripRemarks [] ts
    | false => rfl
  rw [← hprepare]
  simp only [Reader.create, Reader.ofTokens, if_true]
  split <;> next h => exact h.symm

/-- A reader of tokens whose values fit gives expressions exactly if parse trees of them yield the
tokens without comments and annotations. There is one row of such trees at most, and without one
the reader rejects a token. -/
theorem create_exprs_iff_derives (ts : List Token) (hts : ∀ t ∈ ts, t.WellTyped)
    (stripComments : Bool) (log : LogSettings) :
    (∀ es, (Reader.create ⟨true, stripComments, log⟩ ts).1.map Reader.exprs = .ok es ↔
      ∃ xs, MeansAll xs es ∧ yields xs = stripRemarks ts) ∧
    (∀ xs ys es es', MeansAll xs es → yields xs = stripRemarks ts →
      MeansAll ys es' → yields ys = stripRemarks ts → xs = ys ∧ es = es') ∧
    ((∀ xs es, MeansAll xs es → yields xs ≠ stripRemarks ts) →
      ∃ problem t, (Reader.create ⟨true, stripComments, log⟩ ts).1 =
        .error (.rejected problem t)) := by
  rw [create_result]
  refine ⟨fun es => read_eq_ok_iff hts, ?_, ?_⟩
  · intro xs ys es es' hxs hxyield hys hyyield
    obtain rfl := yields_inj hxs hys (hxyield.trans hyyield.symm)
    exact ⟨rfl, meansAll_unique xs hxs hys⟩
  · intro hnone
    have hresult := create_result stripComments log ts
    cases hcreate : (Reader.create ⟨true, stripComments, log⟩ ts).1 with
    | ok reader =>
        rw [hcreate] at hresult
        obtain ⟨xs, hxs, hyield⟩ := (read_eq_ok_iff hts).mp hresult.symm
        exact absurd hyield (hnone xs _ hxs)
    | error failure =>
        rw [hcreate] at hresult
        obtain ⟨problem, t, rfl⟩ := rejected_of_readFrom hts hresult.symm
        exact ⟨problem, t, rfl⟩

end

def quotedArray : List Token :=
  [⟨.quote, .absent, {}⟩, ⟨.comment, .text ";".toList, {}⟩, ⟨.opening .square, .absent, {}⟩,
    ⟨.int, .int 1, {}⟩, ⟨.closing .square, .absent, {}⟩]

attribute [local instance] Coercion.lax

theorem create_exprs_quotedArray :
    (∀ t ∈ quotedArray, t.WellTyped) ∧
      (Reader.create ⟨true, false, {}⟩ quotedArray).1.map Reader.exprs =
        .ok [.list [.symbol "quot".toList, .list [.symbol "Array".toList, .int 1]]] := by
  have hts : ∀ t ∈ quotedArray, t.WellTyped := by simp [quotedArray, Token.WellTyped]
  have hmeans : MeansAll
      [.quote ⟨.quote, .absent, {}⟩
        (.list ⟨.opening .square, .absent, {}⟩ [.atom ⟨.int, .int 1, {}⟩]
          ⟨.closing .square, .absent, {}⟩)]
      [.list [.symbol "quot".toList, .list [.symbol "Array".toList, .int 1]]] :=
    .cons (.quote rfl (.list rfl (.cons (.atom .int) .nil) rfl .array)) .nil
  exact ⟨hts, ((create_exprs_iff_derives quotedArray hts false {}).1 _).mpr ⟨_, hmeans, rfl⟩⟩

end TanSource
