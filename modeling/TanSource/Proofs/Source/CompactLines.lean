import TanSource.Proofs.Source.CompactForm

/-!
# The lines of the compact form

In the compact form of a text a line feed stands behind each expression. A string is written as it
is, and nothing else that is written has a line feed in it. So there are as many line feeds as
expressions and those in strings besides, and every expression has a line of its own if and only if
no string has a line feed in it (`compactSource_lines`).
-/

namespace TanSource

open ParseTree

/-! ## Line feeds of texts -/

def lineFeeds (s : Text) : Nat :=
  s.count '\n'

theorem lineFeeds_append (s u : Text) : lineFeeds (s ++ u) = lineFeeds s + lineFeeds u :=
  List.count_append

theorem lineFeeds_cons {c : Char} (hc : c ≠ '\n') (s : Text) : lineFeeds (c :: s) = lineFeeds s :=
  List.count_cons_of_ne hc

theorem lineFeeds_eq_zero_iff {s : Text} : lineFeeds s = 0 ↔ '\n' ∉ s :=
  List.count_eq_zero

/-- No word has a line feed in it, because a line feed is blank. -/
theorem lineFeeds_word {s : Text} (hs : (Lexeme.word s).WellFormed) : lineFeeds s = 0 :=
  lineFeeds_eq_zero_iff.mpr fun hmem => absurd (hs.1.all_symbol _ hmem) (by decide)

theorem lineFeeds_decimalText (n : Int) : lineFeeds (decimalText n) = 0 :=
  lineFeeds_word (wellFormed_of_ofWord? (Numeral.ofWord?_decimalText n))

theorem lineFeeds_float (x : Binary64) : lineFeeds x.text = 0 := by
  cases x with
  | finite negative magnitude =>
      obtain ⟨n, hread, -, -⟩ := Binary64.ofWord?_text (x := .finite negative magnitude) rfl
      exact lineFeeds_word (wellFormed_of_ofWord? hread)
  | infinite negative => cases negative <;> decide
  | nan => decide

/-! ## Line feeds of expressions -/

def Token.stringText (t : Token) : Text :=
  if t.kind = .string then t.value.printed.text else []

theorem Token.stringText_of_ne {t : Token} (ht : t.kind ≠ .string) : t.stringText = [] :=
  if_neg ht

def stringTexts (ts : List Token) : Text :=
  ts.flatMap Token.stringText

@[simp] theorem stringTexts_nil : stringTexts [] = [] := rfl

@[simp] theorem stringTexts_cons (t : Token) (ts : List Token) :
    stringTexts (t :: ts) = t.stringText ++ stringTexts ts := List.flatMap_cons

@[simp] theorem stringTexts_append (ts us : List Token) :
    stringTexts (ts ++ us) = stringTexts ts ++ stringTexts us := List.flatMap_append

theorem lineFeeds_stringTexts_eq_zero_iff {ts : List Token} :
    lineFeeds (stringTexts ts) = 0 ↔
      ∀ t ∈ ts, t.kind = .string → '\n' ∉ t.value.printed.text := by
  rw [lineFeeds_eq_zero_iff, stringTexts, List.mem_flatMap]
  simp only [Token.stringText]
  grind

theorem stringTexts_stripRemarks (ts : List Token) :
    stringTexts (stripRemarks ts) = stringTexts ts := by
  induction ts with
  | nil => rfl
  | cons t ts ih =>
      rw [stripRemarks] at ih
      rw [stripRemarks, List.filter_cons]
      split
      · rw [stringTexts_cons, stringTexts_cons, ih]
      · next hremark =>
        have hstring : t.kind ≠ .string := by
          intro hkind
          simp [Token.isRemark, hkind] at hremark
        rw [ih, stringTexts_cons, Token.stringText_of_ne hstring, List.nil_append]

namespace Expr

/-- The spaces between terms add no line feeds to theirs. -/
theorem lineFeeds_structuralTerms (terms : List Expr) :
    lineFeeds (structuralTerms terms) = lineFeeds (terms.flatMap structuralText) := by
  induction terms with
  | nil => rfl
  | cons e es ih =>
      cases es with
      | nil => simp [structuralTerms]
      | cons f fs =>
          rw [structuralTerms, lineFeeds_append, lineFeeds_cons (by decide), ih,
            List.flatMap_cons (x := e), lineFeeds_append]

theorem lineFeeds_list (terms : List Expr) :
    lineFeeds (list terms).structuralText = lineFeeds (terms.flatMap structuralText) := by
  have hclose : lineFeeds [')'] = 0 := by decide
  rw [structuralText, lineFeeds_cons (by decide), lineFeeds_append, hclose,
    lineFeeds_structuralTerms, Nat.add_zero]

/-- A symbol in front of the terms of a list adds no line feed, if it has none in it. -/
theorem lineFeeds_headed {head : Text} (h : lineFeeds head = 0) (terms : List Expr) :
    lineFeeds (list (.symbol head :: terms)).structuralText =
      lineFeeds (terms.flatMap structuralText) := by
  have hsymbol : lineFeeds (symbol head).structuralText = 0 := h
  rw [lineFeeds_list, List.flatMap_cons, lineFeeds_append, hsymbol, Nat.zero_add]

/-- An atom of a text has the line feeds of its token. -/
theorem lineFeeds_of_atomMeans {s : Text} {ts : List Token} (hts : tokenize s = .ok ts) {t : Token}
    (ht : t ∈ ts) {e : Expr} (he : AtomMeans t e) :
    lineFeeds e.structuralText = lineFeeds t.stringText := by
  obtain ⟨x, hx, hdenotes, -⟩ := exists_lexeme_of_tokenize hts t ht
  cases he with
  | @string text span =>
      have hprinted : (Value.text text).printed.text = text := by
        simp [Value.printed, Message.text, MessagePart.chars]
      exact congrArg lineFeeds hprinted.symm
  | @int n span => exact lineFeeds_decimalText n
  | @float value span => exact lineFeeds_float value
  | boolTrue | boolFalse => rfl
  | symbol htrue hfalse =>
      cases hdenotes with
      | symbol hnumber => exact lineFeeds_word hx

/-- Brackets add no line feeds to those of the terms between them. -/
theorem lineFeeds_of_listMeans {family : Bracket} {terms : List Expr} {e : Expr}
    (he : ListMeans family terms e) :
    lineFeeds e.structuralText = lineFeeds (terms.flatMap structuralText) := by
  cases he with
  | unit => decide
  | parens => exact lineFeeds_list _
  | array | dict => exact lineFeeds_headed (by decide) _

end Expr

namespace ParseTree

mutual

/-- What a tree means has the line feeds of the strings among its tokens. -/
theorem lineFeeds_of_means : ∀ (x : ParseTree) {e : Expr}, x.Means e →
    (∀ t ∈ x.yield, ∀ e, AtomMeans t e → lineFeeds e.structuralText = lineFeeds t.stringText) →
    lineFeeds e.structuralText = lineFeeds (stringTexts x.yield) := by
  intro x e hx hatoms
  match x, hx with
  | .atom t, .atom ht => simpa [yield] using hatoms t (by simp [yield]) _ ht
  | .quote mark target, .quote hmark htarget =>
      have hinner := lineFeeds_of_means target htarget
        fun t ht => hatoms t (by simp [yield, ht])
      have hnone : mark.stringText = [] := Token.stringText_of_ne (by simp [hmark])
      rw [Expr.lineFeeds_headed (by decide)]
      simpa [yield, hnone] using hinner
  | .list opener terms closer, .list hopener hterms hcloser he =>
      have hinner := lineFeeds_of_meansAll terms hterms
        fun t ht => hatoms t (by simp [yield, ht])
      have hopen : opener.stringText = [] := Token.stringText_of_ne (by simp [hopener])
      have hclose : closer.stringText = [] := Token.stringText_of_ne (by simp [hcloser])
      rw [Expr.lineFeeds_of_listMeans he]
      simpa [yield, hopen, hclose] using hinner

theorem lineFeeds_of_meansAll : ∀ (xs : List ParseTree) {es : List Expr}, MeansAll xs es →
    (∀ t ∈ yields xs, ∀ e, AtomMeans t e → lineFeeds e.structuralText = lineFeeds t.stringText) →
    lineFeeds (es.flatMap Expr.structuralText) = lineFeeds (stringTexts (yields xs)) := by
  intro xs es hxs hatoms
  match xs, hxs with
  | [], .nil => rfl
  | x :: xs, .cons hx hxs =>
      have hfirst := lineFeeds_of_means x hx fun t ht => hatoms t (by simp [yields, ht])
      have hrest := lineFeeds_of_meansAll xs hxs fun t ht => hatoms t (by simp [yields, ht])
      rw [List.flatMap_cons, lineFeeds_append, hfirst, hrest, yields, stringTexts_append,
        lineFeeds_append]

end

end ParseTree

/-! ## Lines -/

/-- The lines of expressions are those of their texts, and an empty one behind the last line feed.
-/
theorem splitOn_structuralLines (es : List Expr) :
    (structuralLines es).splitOn '\n' =
      es.flatMap (fun e => e.structuralText.splitOn '\n') ++ [[]] := by
  induction es with
  | nil => rfl
  | cons e es ih =>
      rw [structuralLines_cons, List.splitOn_append_cons_self, ih, List.flatMap_cons,
        List.append_assoc]

theorem lineFeeds_structuralLines (es : List Expr) :
    lineFeeds (structuralLines es) =
      es.length + lineFeeds (es.flatMap Expr.structuralText) := by
  induction es with
  | nil => rfl
  | cons e es ih =>
      have hfeed : lineFeeds ['\n'] = 1 := by decide
      rw [structuralLines_cons, ← List.singleton_append, lineFeeds_append, lineFeeds_append, hfeed,
        ih, List.length_cons, List.flatMap_cons, lineFeeds_append]
      omega

section

variable [Coercion] {s out : Text} {ts : List Token} {es : List Expr}

/-- The line feeds in the expressions of a text are those in its strings. -/
theorem lineFeeds_of_read (hts : tokenize s = .ok ts) (hes : read (stripRemarks ts) = .ok es) :
    lineFeeds (es.flatMap Expr.structuralText) = lineFeeds (stringTexts ts) := by
  obtain ⟨xs, hxs, hyields⟩ := exists_trees_of_read hts hes
  rw [lineFeeds_of_meansAll xs hxs, hyields, stringTexts_stripRemarks]
  intro t ht e he
  rw [hyields] at ht
  exact Expr.lineFeeds_of_atomMeans hts (List.mem_filter.mp ht).1 he

/-- The compact form of a text has a line feed for each of its expressions and those of its strings
besides. Its lines are the texts of the expressions in their order if and only if no string of the
text has a line feed in it. -/
theorem compactSource_lines (h : compactSource s = .ok out) :
    ∃ ts es texts, tokenize s = .ok ts ∧ read (stripRemarks ts) = .ok es ∧
      es.map Expr.render = texts.map .ok ∧
      lineFeeds out = es.length + lineFeeds (stringTexts ts) ∧
      out.splitOn '\n' = texts.flatMap (fun text : Text => text.splitOn '\n') ++ [[]] ∧
      ((lineFeeds out = es.length ∧ out.splitOn '\n' = texts ++ [[]]) ↔
        ∀ t ∈ ts, t.kind = .string → '\n' ∉ t.value.printed.text) := by
  obtain ⟨ts, es, hts, hes, hout⟩ := exists_of_compactSource h
  obtain ⟨hwritable, rfl⟩ := renderLines_eq_ok_iff.mp hout
  have htexts : es.map Expr.render = (es.map Expr.structuralText).map .ok := by
    rw [List.map_map]
    exact List.map_congr_left fun e he => Expr.render_of_isWritable (hwritable e he)
  have hstrings := lineFeeds_of_read hts hes
  have hfeeds := lineFeeds_structuralLines es
  have hsplit := splitOn_structuralLines es
  rw [hstrings] at hfeeds
  refine ⟨ts, es, es.map Expr.structuralText, hts, hes, htexts, hfeeds, ?_, ?_⟩
  · rw [hsplit, List.flatMap_map]
  rw [← lineFeeds_stringTexts_eq_zero_iff]
  constructor
  · rintro ⟨hcount, -⟩
    omega
  · intro hzero
    refine ⟨by omega, ?_⟩
    rw [hzero, lineFeeds_eq_zero_iff] at hstrings
    have hsingle : ∀ e ∈ es, e.structuralText.splitOn '\n' = [e.structuralText] := fun e he =>
      List.splitOn_eq_singleton fun hfeed => hstrings (List.mem_flatMap.mpr ⟨e, he, hfeed⟩)
    rw [hsplit, List.flatMap_congr hsingle, List.map_eq_flatMap]

end

attribute [local instance] Coercion.lax

/-- A quoted row with a string and a comment in it, and a number on the same line behind it. -/
theorem compactSource_lines_quotedRow :
    compactSource "'[\"a b\" ;c\n] 7".toList = .ok "(quot (Array a b))\n7\n".toList ∧
      ∃ ts es texts, tokenize "'[\"a b\" ;c\n] 7".toList = .ok ts ∧
        read (stripRemarks ts) = .ok es ∧ es.map Expr.render = texts.map .ok ∧
        lineFeeds "(quot (Array a b))\n7\n".toList = es.length ∧
        "(quot (Array a b))\n7\n".toList.splitOn '\n' = texts ++ [[]] := by
  have hcompact : compactSource "'[\"a b\" ;c\n] 7".toList =
      .ok "(quot (Array a b))\n7\n".toList := by decide +kernel
  have htokens : tokenize "'[\"a b\" ;c\n] 7".toList = .ok
      [⟨.quote, .absent, ⟨⟨0, 1, 1⟩, ⟨1, 1, 2⟩⟩⟩,
        ⟨.opening .square, .absent, ⟨⟨1, 1, 2⟩, ⟨2, 1, 3⟩⟩⟩,
        ⟨.string, .text "a b".toList, ⟨⟨2, 1, 3⟩, ⟨7, 1, 8⟩⟩⟩,
        ⟨.comment, .text ";c".toList, ⟨⟨8, 1, 9⟩, ⟨10, 1, 11⟩⟩⟩,
        ⟨.closing .square, .absent, ⟨⟨11, 2, 1⟩, ⟨12, 2, 2⟩⟩⟩,
        ⟨.int, .int 7, ⟨⟨13, 2, 3⟩, ⟨14, 2, 4⟩⟩⟩] := by
    decide +kernel
  obtain ⟨ts, es, texts, hts, hes, htexts, -, -, hlines⟩ := compactSource_lines hcompact
  cases htokens.symm.trans hts
  obtain ⟨hcount, hsplit⟩ := hlines.mpr (by decide)
  exact ⟨hcompact, _, es, texts, hts, hes, htexts, hcount, hsplit⟩

/-- A string with a line feed in it, which takes two lines though it is one expression. -/
theorem compactSource_lines_brokenString :
    compactSource "\"a\nb\"".toList = .ok "a\nb\n".toList ∧
      ∃ ts es texts, tokenize "\"a\nb\"".toList = .ok ts ∧ read (stripRemarks ts) = .ok es ∧
        es.map Expr.render = texts.map .ok ∧
        es.length = 1 ∧ lineFeeds "a\nb\n".toList = 2 ∧
        "a\nb\n".toList.splitOn '\n' = ["a".toList, "b".toList, []] ∧
        "a\nb\n".toList.splitOn '\n' ≠ texts ++ [[]] := by
  have htokens : tokenize "\"a\nb\"".toList =
      .ok [⟨.string, .text "a\nb".toList, ⟨⟨0, 1, 1⟩, ⟨5, 2, 3⟩⟩⟩] := by decide +kernel
  have hrender : (Expr.string "a\nb".toList).render = .ok "a\nb".toList :=
    Expr.render_of_isWritable trivial
  refine ⟨by decide +kernel, _, [.string "a\nb".toList], ["a\nb".toList], htokens, rfl, ?_, rfl,
    by decide, by decide, by decide⟩
  rw [List.map_singleton, hrender]
  rfl

end TanSource
