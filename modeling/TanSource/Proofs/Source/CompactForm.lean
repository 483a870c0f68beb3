import TanSource.Proofs.Source.Composition
import TanSource.Proofs.Source.Failures
import TanSource.Proofs.Source.Rereading

/-!
# The compact form of a source text

What the reader makes of a text can be read back when it is written, but for strings, which lose
their marks, and for numbers that are too large (`isReadable_of_read`). Lines of expressions that
can be read back are their own compact form (`compactSource_structuralLines`). So the compact form
of a text without such tokens is final (`compactSource_idempotent`).
-/

namespace TanSource

open ParseTree

/-! ## What the reader makes is readable -/

/-- The symbols that stand for quote marks and brackets are words that a text may hold. -/
theorem isSymbolText_head {s : Text}
    (hs : s = "quot".toList ∨ s = "Array".toList ∨ s = "Dict".toList) : IsSymbolText s := by
  rcases hs with rfl | rfl | rfl
  all_goals
    exact ⟨⟨by decide, List.all_eq_true.mp (by decide)⟩, by decide,
      fun l => (l.text_ne (by decide)).symm, by decide, by decide⟩

namespace Expr

theorem isReadable_quotation {e : Expr} (he : e.IsReadable) :
    (Expr.list [.symbol "quot".toList, e]).IsReadable := by
  refine .list (by simp) ?_
  simp only [List.forall_mem_cons]
  exact ⟨.symbol (isSymbolText_head (Or.inl rfl)), he, by simp⟩

/-- No brackets make an empty list: parentheses around nothing are the unit, and the other families
put a symbol in front of the terms. -/
theorem isReadable_of_listMeans {family : Bracket} {terms : List Expr} {e : Expr}
    (hterms : ∀ term ∈ terms, term.IsReadable) (he : ListMeans family terms e) : e.IsReadable := by
  cases he with
  | unit => exact .unit
  | parens => exact .list (by simp) hterms
  | array =>
      exact .list (by simp) (List.forall_mem_cons.mpr
        ⟨.symbol (isSymbolText_head (Or.inr (Or.inl rfl))), hterms⟩)
  | dict =>
      exact .list (by simp) (List.forall_mem_cons.mpr
        ⟨.symbol (isSymbolText_head (Or.inr (Or.inr rfl))), hterms⟩)

/-- An atom of a text is readable, unless it is a string or an infinite number. -/
theorem isReadable_of_atomMeans {s : Text} {ts : List Token} (hts : tokenize s = .ok ts) {t : Token}
    (ht : t ∈ ts) (hstring : t.kind ≠ .string)
    (hfinite : ∀ negative, t.value ≠ .float (.infinite negative)) {e : Expr}
    (he : AtomMeans t e) : e.IsReadable := by
  obtain ⟨x, hx, hdenotes, -⟩ := exists_lexeme_of_tokenize hts t ht
  cases he with
  | string => exact absurd rfl hstring
  | int => exact .int (fewDigits_of_tokenize hts ht rfl)
  | @float value span =>
      refine .float ?_
      cases value with
      | finite negative magnitude => rfl
      | infinite negative => exact absurd rfl (hfinite negative)
      | nan =>
          generalize hvalue : Value.float .nan = v at hdenotes
          cases hdenotes with
          | float l hpart =>
              exact absurd (Value.float.inj hvalue).symm (Decimal.toBinary64_ne_nan _ _)
  | boolTrue => exact .bool true
  | boolFalse => exact .bool false
  | symbol htrue hfalse =>
      cases hdenotes with
      | symbol hnumber =>
          exact .symbol ⟨hx.1, hx.2, fun l => (hnumber l).symm, htrue, hfalse⟩

end Expr

section

variable [Coercion] {s : Text} {ts : List Token}

/-- The expressions of a text are readable if it has no strings and no infinite numbers. -/
theorem isReadable_of_read (hts : tokenize s = .ok ts) (hstrings : ∀ t ∈ ts, t.kind ≠ .string)
    (hfinite : ∀ t ∈ ts, ∀ negative, t.value ≠ .float (.infinite negative)) {es : List Expr}
    (hes : read (stripRemarks ts) = .ok es) : ∀ e ∈ es, e.IsReadable := by
  obtain ⟨xs, hxs, hyields⟩ := exists_trees_of_read hts hes
  refine of_meansAll (fun _ => Expr.isReadable_quotation)
    (fun _ _ _ => Expr.isReadable_of_listMeans) xs hxs fun t ht e he => ?_
  rw [hyields] at ht
  have ht : t ∈ ts := (List.mem_filter.mp ht).1
  exact Expr.isReadable_of_atomMeans hts ht (hstrings t ht) (hfinite t ht) he

/-! ## Readable lines are final -/

/-- Lines of readable expressions are their own compact form. -/
theorem compactSource_structuralLines {es : List Expr} (hes : ∀ e ∈ es, e.IsReadable) :
    compactSource (structuralLines es) = .ok (structuralLines es) := by
  obtain ⟨contents, hlexes, hparses⟩ := exists_contents_lines hes
  obtain ⟨ts, hts, hcontents⟩ := hlexes.tokenize
  obtain ⟨xs, hxs, rfl⟩ := hparses ts hcontents
  have hread : read (stripRemarks (yields xs)) = .ok es :=
    (readFrom_stripRemarks [] (yields xs)).trans (read_yields hxs)
  have hlines := renderLines_of_isWritable fun e he => (hes e he).isWritable
  simp only [compactSource_of_tokenize hts, hread, Except.mapError, Except.bind, hlines]

/-- The compact form of a text without strings and infinite numbers is its own compact form. -/
theorem compactSource_idempotent (hts : tokenize s = .ok ts)
    (hstrings : ∀ t ∈ ts, t.kind ≠ .string)
    (hfinite : ∀ t ∈ ts, ∀ negative, t.value ≠ .float (.infinite negative)) {out : Text}
    (h : compactSource s = .ok out) : compactSource out = .ok out := by
  obtain ⟨us, es, hus, hes, hout⟩ := exists_of_compactSource h
  cases hts.symm.trans hus
  obtain ⟨-, rfl⟩ := renderLines_eq_ok_iff.mp hout
  exact compactSource_structuralLines (isReadable_of_read hts hstrings hfinite hes)

end

attribute [local instance] Coercion.lax

/-- A quoted row with a comment in it and a number that has more digits than it needs, and behind it
a pair of braces with nothing between them. -/
theorem compactSource_idempotent_quotedRow :
    compactSource "'[x;c\n007]\x7b\x7d".toList = .ok "(quot (Array x 7))\n(Dict)\n".toList ∧
      compactSource "(quot (Array x 7))\n(Dict)\n".toList =
        .ok "(quot (Array x 7))\n(Dict)\n".toList := by
  have hts : tokenize "'[x;c\n007]\x7b\x7d".toList = .ok
      [⟨.quote, .absent, ⟨⟨0, 1, 1⟩, ⟨1, 1, 2⟩⟩⟩,
        ⟨.opening .square, .absent, ⟨⟨1, 1, 2⟩, ⟨2, 1, 3⟩⟩⟩,
        ⟨.symbol, .text ['x'], ⟨⟨2, 1, 3⟩, ⟨3, 1, 4⟩⟩⟩,
        ⟨.comment, .text [';', 'c'], ⟨⟨3, 1, 4⟩, ⟨5, 1, 6⟩⟩⟩,
        ⟨.int, .int 7, ⟨⟨6, 2, 1⟩, ⟨9, 2, 4⟩⟩⟩,
        ⟨.closing .square, .absent, ⟨⟨9, 2, 4⟩, ⟨10, 2, 5⟩⟩⟩,
        ⟨.opening .brace, .absent, ⟨⟨10, 2, 5⟩, ⟨11, 2, 6⟩⟩⟩,
        ⟨.closing .brace, .absent, ⟨⟨11, 2, 6⟩, ⟨12, 2, 7⟩⟩⟩] := by
    decide +kernel
  have hcompact : compactSource "'[x;c\n007]\x7b\x7d".toList =
      .ok "(quot (Array x 7))\n(Dict)\n".toList := by decide +kernel
  exact ⟨hcompact, compactSource_idempotent hts (by simp) (by simp) hcompact⟩

end TanSource
