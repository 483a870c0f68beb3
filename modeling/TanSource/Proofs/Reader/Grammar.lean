import TanSource.Reader

/-!
# The grammar of expressions

A program is a row of expressions; an expression is an atom, a quote mark in front of an expression,
or a row of expressions between brackets of one family. A parse tree has the tokens as its leaves,
and a row of tokens has one row of parse trees at most (`yields_inj`).
-/

namespace TanSource

/-- The value of an atom is of the sort that its kind asks for. -/
def Token.WellTyped (t : Token) : Prop :=
  match t.kind with
  | .string => ∃ s, t.value = .text s
  | .symbol => ∃ s, t.value = .text s
  | .int => ∃ n, t.value = .int n
  | .float => ∃ x, t.value = .float x
  | _ => True

inductive AtomMeans : Token → Expr → Prop
  | string {s : Text} {span : Span} : AtomMeans ⟨.string, .text s, span⟩ (.string s)
  | int {n : Int} {span : Span} : AtomMeans ⟨.int, .int n, span⟩ (.int n)
  | float {x : Binary64} {span : Span} : AtomMeans ⟨.float, .float x, span⟩ (.float x)
  | boolTrue {span : Span} : AtomMeans ⟨.symbol, .text "true".toList, span⟩ (.bool true)
  | boolFalse {span : Span} : AtomMeans ⟨.symbol, .text "false".toList, span⟩ (.bool false)
  | symbol {s : Text} {span : Span} (htrue : s ≠ "true".toList) (hfalse : s ≠ "false".toList) :
      AtomMeans ⟨.symbol, .text s, span⟩ (.symbol s)

inductive ListMeans : Bracket → List Expr → Expr → Prop
  | unit : ListMeans .paren [] .unit
  | parens {e : Expr} {es : List Expr} : ListMeans .paren (e :: es) (.list (e :: es))
  | array {es : List Expr} : ListMeans .square es (.list (.symbol "Array".toList :: es))
  | dict {es : List Expr} : ListMeans .brace es (.list (.symbol "Dict".toList :: es))

inductive ParseTree
  | atom (t : Token)
  | quote (mark : Token) (target : ParseTree)
  | list (opener : Token) (terms : List ParseTree) (closer : Token)

namespace ParseTree

mutual

def yield : ParseTree → List Token
  | atom t => [t]
  | quote mark target => mark :: target.yield
  | list opener terms closer => opener :: (yields terms ++ [closer])

def yields : List ParseTree → List Token
  | [] => []
  | x :: xs => x.yield ++ yields xs

end

mutual

/-- The tree follows the grammar and means the expression. -/
inductive Means : ParseTree → Expr → Prop
  | atom {t : Token} {e : Expr} (ht : AtomMeans t e) : Means (.atom t) e
  | quote {mark : Token} {target : ParseTree} {e : Expr} (hmark : mark.kind = .quote)
      (htarget : Means target e) :
      Means (.quote mark target) (.list [.symbol "quot".toList, e])
  | list {opener closer : Token} {family : Bracket} {terms : List ParseTree} {es : List Expr}
      {e : Expr} (hopener : opener.kind = .opening family) (hterms : MeansAll terms es)
      (hcloser : closer.kind = .closing family) (he : ListMeans family es e) :
      Means (.list opener terms closer) e

inductive MeansAll : List ParseTree → List Expr → Prop
  | nil : MeansAll [] []
  | cons {x : ParseTree} {e : Expr} {xs : List ParseTree} {es : List Expr} (hx : Means x e)
      (hxs : MeansAll xs es) : MeansAll (x :: xs) (e :: es)

end

end ParseTree

/-! ## Meanings -/

/-- A value that fits is kept, whatever becomes of the others. -/
theorem ofToken?_eq_some_iff [Coercion] {t : Token} (ht : t.WellTyped) {e : Expr} :
    Expr.ofToken? t = some e ↔ AtomMeans t e := by
  obtain ⟨kind, value, span⟩ := t
  constructor
  · intro h
    cases kind with
    | string =>
        obtain ⟨s, rfl⟩ := ht
        obtain rfl : .string s = e := by simpa [Expr.ofToken?] using h
        exact .string
    | symbol =>
        obtain ⟨s, rfl⟩ := ht
        obtain rfl : Expr.ofWord s = e := by simpa [Expr.ofToken?] using h
        unfold Expr.ofWord
        split
        · next hs =>
          subst hs
          exact .boolTrue
        · next htrue =>
          split
          · next hs =>
            subst hs
            exact .boolFalse
          · next hfalse => exact .symbol htrue hfalse
    | int =>
        obtain ⟨n, rfl⟩ := ht
        obtain rfl : .int n = e := by simpa [Expr.ofToken?] using h
        exact .int
    | float =>
        obtain ⟨x, rfl⟩ := ht
        obtain rfl : .float x = e := by simpa [Expr.ofToken?] using h
        exact .float
    | _ => cases h
  · intro h
    cases h with
    | symbol htrue hfalse =>
        have hword (s : Text) (htrue : s ≠ trueWord) (hfalse : s ≠ falseWord) :
            Expr.ofWord s = .symbol s := by
          simp [Expr.ofWord, htrue, hfalse]
        exact (Expr.ofSymbol?_text _).trans (congrArg some (hword _ htrue hfalse))
    | string => simp [Expr.ofToken?]
    | int => simp [Expr.ofToken?]
    | float => simp [Expr.ofToken?]
    | boolTrue => exact Expr.ofSymbol?_text trueWord
    | boolFalse => exact Expr.ofSymbol?_text falseWord

theorem listMeans_iff {family : Bracket} {es : List Expr} {e : Expr} :
    ListMeans family es e ↔ e = Expr.ofTerms (Expr.withHead family es) := by
  constructor
  · intro h
    cases h <;> rfl
  · rintro rfl
    cases family with
    | paren =>
        cases es with
        | nil => exact .unit
        | cons e es => exact .parens
    | square => exact .array
    | brace => exact .dict

theorem AtomMeans.wellTyped {t : Token} {e : Expr} (h : AtomMeans t e) : t.WellTyped := by
  cases h <;> exact ⟨_, rfl⟩

theorem AtomMeans.kind_ne {t : Token} {e : Expr} (h : AtomMeans t e) :
    t.kind ≠ .quote ∧ ∀ d, t.kind ≠ .delimiter d := by
  cases h <;> simp

theorem AtomMeans.isRemark {t : Token} {e : Expr} (h : AtomMeans t e) : t.isRemark = false := by
  cases h <;> rfl

theorem AtomMeans.unique {t : Token} {e e' : Expr} (h : AtomMeans t e) (h' : AtomMeans t e') :
    e = e' := by
  cases h <;> cases h' <;> first | rfl | contradiction

/-- A token whose value fits is passed over, stands for a part of a construct, or is an atom. -/
theorem token_cases {t : Token} (ht : t.WellTyped) :
    t.isRemark = true ∨ t.kind = .quote ∨ (∃ family, t.kind = .opening family) ∨
      (∃ family, t.kind = .closing family) ∨ ∃ e, AtomMeans t e := by
  obtain ⟨kind, value, span⟩ := t
  cases kind with
  | comment => exact Or.inl rfl
  | annot => exact Or.inl rfl
  | quote => exact Or.inr (Or.inl rfl)
  | delimiter d =>
      cases d with
      | opening family => exact Or.inr (Or.inr (Or.inl ⟨family, rfl⟩))
      | closing family => exact Or.inr (Or.inr (Or.inr (Or.inl ⟨family, rfl⟩)))
  | string | int | float =>
      obtain ⟨v, rfl⟩ := ht
      exact Or.inr (Or.inr (Or.inr (Or.inr ⟨_, by constructor⟩)))
  | symbol =>
      obtain ⟨s, rfl⟩ := ht
      refine Or.inr (Or.inr (Or.inr (Or.inr ?_)))
      by_cases htrue : s = trueWord
      · subst htrue
        exact ⟨_, .boolTrue⟩
      · by_cases hfalse : s = falseWord
        · subst hfalse
          exact ⟨_, .boolFalse⟩
        · exact ⟨_, .symbol htrue hfalse⟩

/-! ## Uniqueness of parse trees -/

namespace ParseTree

/-- Terms end where there are no more tokens or a closing bracket stands. -/
def EndsTerms (us : List Token) : Prop :=
  ∀ t ∈ us.head?, ∃ family, t.kind = .closing family

theorem not_endsTerms_yield {x : ParseTree} {e : Expr} (h : x.Means e) (us : List Token) :
    ¬EndsTerms (x.yield ++ us) := by
  intro hend
  cases h with
  | atom ht =>
      obtain ⟨family, hkind⟩ := hend _ rfl
      exact ht.kind_ne.2 _ hkind
  | quote hmark _ =>
      obtain ⟨family, hkind⟩ := hend _ rfl
      rw [hmark] at hkind
      cases hkind
  | list hopener _ _ _ =>
      obtain ⟨family, hkind⟩ := hend _ rfl
      rw [hopener] at hkind
      cases hkind

mutual

/-- The tree in front of a row of tokens is determined. -/
theorem yield_append_inj : ∀ (x y : ParseTree) {e e' : Expr} {us vs : List Token}, x.Means e →
    y.Means e' → x.yield ++ us = y.yield ++ vs → x = y ∧ us = vs := by
  intro x y e e' us vs hx hy h
  match x, y, hx, hy with
  | .atom t, .atom t', .atom _, .atom _ =>
      simpa [yield] using h
  | .quote mark target, .quote mark' target', .quote _ htarget, .quote _ htarget' =>
      simp only [yield, List.cons_append, List.cons.injEq] at h
      obtain ⟨rfl, h⟩ := h
      obtain ⟨rfl, rfl⟩ := yield_append_inj target target' htarget htarget' h
      exact ⟨rfl, rfl⟩
  | .list opener terms closer, .list opener' terms' closer', .list _ hterms hcloser _,
      .list _ hterms' hcloser' _ =>
      simp only [yield, List.cons_append, List.append_assoc, List.cons.injEq] at h
      obtain ⟨rfl, h⟩ := h
      have hend : EndsTerms (closer :: us) := by simp [EndsTerms, hcloser]
      have hend' : EndsTerms (closer' :: vs) := by simp [EndsTerms, hcloser']
      obtain ⟨rfl, hrest⟩ := yields_append_inj terms terms' hterms hterms' hend hend' h
      obtain ⟨rfl, rfl⟩ := List.cons.inj hrest
      exact ⟨rfl, rfl⟩
  | .atom t, .quote mark target, .atom ht, .quote hmark _ =>
      obtain ⟨rfl, -⟩ := List.cons.inj h
      exact absurd hmark ht.kind_ne.1
  | .atom t, .list opener terms closer, .atom ht, .list hopener _ _ _ =>
      obtain ⟨rfl, -⟩ := List.cons.inj h
      exact absurd hopener (ht.kind_ne.2 _)
  | .quote mark target, .atom t, .quote hmark _, .atom ht =>
      obtain ⟨rfl, -⟩ := List.cons.inj h
      exact absurd hmark ht.kind_ne.1
  | .quote mark target, .list opener terms closer, .quote hmark _, .list hopener _ _ _ =>
      obtain ⟨rfl, -⟩ := List.cons.inj h
      rw [hmark] at hopener
      cases hopener
  | .list opener terms closer, .atom t, .list hopener _ _ _, .atom ht =>
      obtain ⟨rfl, -⟩ := List.cons.inj h
      exact absurd hopener (ht.kind_ne.2 _)
  | .list opener terms closer, .quote mark target, .list hopener _ _ _, .quote hmark _ =>
      obtain ⟨rfl, -⟩ := List.cons.inj h
      rw [hmark] at hopener
      cases hopener

theorem yields_append_inj : ∀ (xs ys : List ParseTree) {es es' : List Expr} {us vs : List Token},
    MeansAll xs es → MeansAll ys es' → EndsTerms us → EndsTerms vs →
    yields xs ++ us = yields ys ++ vs → xs = ys ∧ us = vs := by
  intro xs ys es es' us vs hxs hys hus hvs h
  match xs, ys, hxs, hys with
  | [], [], .nil, .nil => exact ⟨rfl, h⟩
  | [], y :: ys, .nil, .cons hy _ =>
      simp only [yields, List.nil_append, List.append_assoc] at h
      rw [h] at hus
      exact absurd hus (not_endsTerms_yield hy _)
  | x :: xs, [], .cons hx _, .nil =>
      simp only [yields, List.nil_append, List.append_assoc] at h
      rw [← h] at hvs
      exact absurd hvs (not_endsTerms_yield hx _)
  | x :: xs, y :: ys, .cons hx hxs, .cons hy hys =>
      simp only [yields, List.append_assoc] at h
      obtain ⟨rfl, hrest⟩ := yield_append_inj x y hx hy h
      obtain ⟨rfl, rfl⟩ := yields_append_inj xs ys hxs hys hus hvs hrest
      exact ⟨rfl, rfl⟩

end

theorem yields_inj {xs ys : List ParseTree} {es es' : List Expr} (hxs : MeansAll xs es)
    (hys : MeansAll ys es') (h : yields xs = yields ys) : xs = ys := by
  have hend : EndsTerms [] := by simp [EndsTerms]
  exact (yields_append_inj xs ys hxs hys hend hend (congrArg (· ++ []) h)).1

mutual

theorem means_unique : ∀ (x : ParseTree) {e e' : Expr}, x.Means e → x.Means e' → e = e' := by
  intro x e e' h h'
  match x, h, h' with
  | .atom t, .atom ht, .atom ht' => exact ht.unique ht'
  | .quote mark target, .quote _ htarget, .quote _ htarget' =>
      rw [means_unique target htarget htarget']
  | .list opener terms closer, .list hopener hterms _ he, .list hopener' hterms' _ he' =>
      rw [hopener] at hopener'
      cases hopener'
      rw [listMeans_iff] at he he'
      rw [he, he', meansAll_unique terms hterms hterms']

theorem meansAll_unique : ∀ (xs : List ParseTree) {es es' : List Expr}, MeansAll xs es →
    MeansAll xs es' → es = es' := by
  intro xs es es' h h'
  match xs, h, h' with
  | [], .nil, .nil => rfl
  | x :: xs, .cons hx hxs, .cons hx' hxs' =>
      rw [means_unique x hx hx', meansAll_unique xs hxs hxs']

end

mutual

/-- What a tree means has a property if its atoms have it, and quotations and lists keep it. -/
theorem of_means {P : Expr → Prop} (hquote : ∀ e, P e → P (.list [.symbol "quot".toList, e]))
    (hlist : ∀ family terms e, (∀ term ∈ terms, P term) → ListMeans family terms e → P e) :
    ∀ (x : ParseTree) {e : Expr}, x.Means e → (∀ t ∈ x.yield, ∀ e, AtomMeans t e → P e) →
      P e := by
  intro x e hx hatoms
  match x, hx with
  | .atom t, .atom ht => exact hatoms t (by simp [yield]) _ ht
  | .quote mark target, .quote _ htarget =>
      refine hquote _ (of_means hquote hlist target htarget ?_)
      exact fun t ht => hatoms t (by simp [yield, ht])
  | .list opener terms closer, .list _ hterms _ he =>
      refine hlist _ _ _ (of_meansAll hquote hlist terms hterms ?_) he
      exact fun t ht => hatoms t (by simp [yield, ht])

theorem of_meansAll {P : Expr → Prop} (hquote : ∀ e, P e → P (.list [.symbol "quot".toList, e]))
    (hlist : ∀ family terms e, (∀ term ∈ terms, P term) → ListMeans family terms e → P e) :
    ∀ (xs : List ParseTree) {es : List Expr}, MeansAll xs es →
      (∀ t ∈ yields xs, ∀ e, AtomMeans t e → P e) → ∀ e ∈ es, P e := by
  intro xs es hxs hatoms
  match xs, hxs with
  | [], .nil => simp
  | x :: xs, .cons hx hxs =>
      refine List.forall_mem_cons.mpr
        ⟨of_means hquote hlist x hx ?_, of_meansAll hquote hlist xs hxs ?_⟩
      · exact fun t ht => hatoms t (by simp [yields, ht])
      · exact fun t ht => hatoms t (by simp [yields, ht])

end

end ParseTree

end TanSource
