import TanSource.Coercion.Lax
import TanSource.Proofs.Expr.Rendering
import TanSource.Proofs.Reader.Derivations
import TanSource.Proofs.Source.Relexing

/-!
# Reading undoes compact writing

An expression on a line is lexed to tokens that are parsed as the expression again, if its symbols
are words of their own and it holds no strings, functions or empty lists. Its text ends in front of
a blank or a parenthesis, wherever it stands (`read_renderLines`).
-/

namespace TanSource

open ParseTree

/-- The text is a word that is read as a symbol and not as a number or a truth value. -/
structure IsSymbolText (s : Text) : Prop where
  word : IsWord s
  unmarked : s.head? ≠ some '#'
  no_number : ∀ l : NumberLiteral, s ≠ l.text
  ne_true : s ≠ "true".toList
  ne_false : s ≠ "false".toList

/-- Nothing of the expression is lost when it is written on a line. -/
inductive Expr.IsReadable : Expr → Prop
  | unit : IsReadable .unit
  | bool (b : Bool) : IsReadable (.bool b)
  | int {n : Int} (hn : FewDigits n) : IsReadable (.int n)
  | float {x : Binary64} (hx : x.isFinite = true) : IsReadable (.float x)
  | symbol {s : Text} (hs : IsSymbolText s) : IsReadable (.symbol s)
  | list {terms : List Expr} (hne : terms ≠ []) (hterms : ∀ e ∈ terms, IsReadable e) :
      IsReadable (.list terms)

theorem Expr.IsReadable.isWritable {e : Expr} (he : e.IsReadable) : e.IsWritable := by
  induction he with
  | int hn => exact hn
  | list _ _ ih => exact Expr.isWritable_list.mpr ih
  | _ => trivial

/-! ## Texts and tokens of expressions -/

/-- In front of any text that does not begin with a symbol character, the text is lexed to these
kinds and values. -/
def LexesInFront (s : Text) (contents : List (TokenKind × Value)) : Prop :=
  ∀ rest more, StopsAt isSymbolChar rest → LexesTo rest more →
    LexesTo (s ++ rest) (contents ++ more)

/-- Tokens of these kinds and values are parsed as the expression. -/
def ParsesAs (contents : List (TokenKind × Value)) (e : Expr) : Prop :=
  ∀ ts : List Token, ts.map Token.content = contents → ∃ x : ParseTree, x.Means e ∧ x.yield = ts

def ParsesAllAs (contents : List (TokenKind × Value)) (es : List Expr) : Prop :=
  ∀ ts : List Token, ts.map Token.content = contents → ∃ xs, MeansAll xs es ∧ yields xs = ts

theorem parsesAllAs_nil : ParsesAllAs [] [] := by
  intro ts hts
  obtain rfl := List.map_eq_nil_iff.mp hts
  exact ⟨[], .nil, rfl⟩

theorem parsesAllAs_cons {contents more : List (TokenKind × Value)} {e : Expr} {es : List Expr}
    (he : ParsesAs contents e) (hes : ParsesAllAs more es) :
    ParsesAllAs (contents ++ more) (e :: es) := by
  intro ts hts
  obtain ⟨front, back, rfl, hfront, hback⟩ := List.map_eq_append_iff.mp hts
  obtain ⟨x, hx, rfl⟩ := he front hfront
  obtain ⟨xs, hxs, rfl⟩ := hes back hback
  exact ⟨x :: xs, .cons hx hxs, rfl⟩

/-- Tokens between parentheses are parsed as what the list of terms means. -/
theorem parsesAs_parens {contents : List (TokenKind × Value)} {terms : List Expr} {e : Expr}
    (hterms : ParsesAllAs contents terms) (he : ListMeans .paren terms e) :
    ParsesAs ((.opening .paren, .absent) :: (contents ++ [(.closing .paren, .absent)])) e := by
  intro ts hts
  obtain ⟨opener, behind, rfl, hopener, hbehind⟩ := List.map_eq_cons_iff.mp hts
  obtain ⟨inner, last, rfl, hinner, hlast⟩ := List.map_eq_append_iff.mp hbehind
  obtain ⟨closer, rfl, hcloser⟩ := List.map_eq_singleton_iff.mp hlast
  obtain ⟨xs, hxs, rfl⟩ := hterms inner hinner
  exact ⟨.list opener xs closer,
    .list (congrArg Prod.fst hopener) hxs (congrArg Prod.fst hcloser) he, rfl⟩

/-- The text of the expression is lexed to these kinds and values, and they are parsed as the
expression. -/
structure Expr.ReadsBack (e : Expr) (contents : List (TokenKind × Value)) : Prop where
  lexes : LexesInFront e.structuralText contents
  parses : ParsesAs contents e

/-! ## Atoms -/

theorem NumberLiteral.text_ne {s : Text} (hs : Numeral.ofWord? s = none) (l : NumberLiteral) :
    l.text ≠ s := by
  rintro rfl
  rw [l.ofWord?_text] at hs
  cases hs

theorem prints_symbol {s : Text} {span : Span} (hs : (Lexeme.word s).WellFormed)
    (hnumber : ∀ l : NumberLiteral, l.text ≠ s) :
    Token.Prints ⟨.symbol, .text s, span⟩ (.word s) :=
  ⟨Message.written_text s, hs, .symbol hnumber,
    fun l hl _ _ => absurd (Lexeme.word.inj hl).symm (hnumber l)⟩

namespace Expr

variable {e : Expr} {kind : TokenKind} {value : Value}

/-- An atom is read back if it is written as the word that its token is written as. -/
theorem readsBack_word (hprints : Token.Prints ⟨kind, value, {}⟩ (.word e.structuralText))
    (hmeans : ∀ span, AtomMeans ⟨kind, value, span⟩ e) : e.ReadsBack [(kind, value)] := by
  constructor
  · intro rest more hrest hmore
    exact .lexeme hprints.wellFormed hrest hprints.denotes hprints.limit hmore
  · intro ts hts
    obtain ⟨t, rfl, ht⟩ := List.map_eq_singleton_iff.mp hts
    obtain ⟨span, rfl⟩ := FormatSettings.exists_span_of_content_eq (t := ⟨kind, value, {}⟩) ht
    exact ⟨.atom _, .atom (hmeans span), rfl⟩

theorem readsBack_bool (b : Bool) :
    (Expr.bool b).ReadsBack [(.symbol, .text (Expr.bool b).structuralText)] := by
  have hword : (Lexeme.word (Expr.bool b).structuralText).WellFormed := by
    cases b <;> exact ⟨⟨by decide, List.all_eq_true.mp (by decide)⟩, by decide⟩
  have hnumber : Numeral.ofWord? (Expr.bool b).structuralText = none := by
    cases b <;> decide
  refine readsBack_word (prints_symbol hword (NumberLiteral.text_ne hnumber)) ?_
  intro span
  cases b with
  | true => exact .boolTrue
  | false => exact .boolFalse

/-- The text of a symbol is read as the symbol. -/
theorem readsBack_symbol {s : Text} (hs : IsSymbolText s) :
    (Expr.symbol s).ReadsBack [(.symbol, .text s)] := by
  have hprints : Token.Prints ⟨.symbol, .text s, {}⟩ (.word s) :=
    prints_symbol ⟨hs.word, hs.unmarked⟩ fun l => (hs.no_number l).symm
  exact readsBack_word hprints fun _ => .symbol hs.ne_true hs.ne_false

end Expr

/-! ## Lists -/

/-- A text between parentheses is lexed to what is lexed in it, between parentheses. -/
theorem lexesInFront_parens {s : Text} {contents : List (TokenKind × Value)}
    (hs : LexesInFront s contents) :
    LexesInFront ('(' :: (s ++ [')']))
      ((.opening .paren, .absent) :: (contents ++ [(.closing .paren, .absent)])) := by
  intro rest more _ hmore
  have hclose : LexesTo (')' :: rest) ((.closing .paren, .absent) :: more) :=
    .delimiter (.closing .paren) hmore
  have hinner := hs _ _ (stopsAt_cons.mpr (by decide)) hclose
  rw [List.cons_append, List.cons_append, List.append_assoc, List.append_assoc]
  exact hinner.delimiter (.opening .paren)

namespace Expr

theorem readsBack_unit :
    Expr.unit.ReadsBack [(.opening .paren, .absent), (.closing .paren, .absent)] := by
  have hnothing : LexesInFront [] [] := fun _ _ _ hmore => hmore
  exact ⟨lexesInFront_parens hnothing, parsesAs_parens parsesAllAs_nil .unit⟩

theorem exists_contents_terms {terms : List Expr}
    (hterms : ∀ e ∈ terms, ∃ contents, e.ReadsBack contents) :
    ∃ contents, LexesInFront (structuralTerms terms) contents ∧
      ParsesAllAs contents terms := by
  induction terms with
  | nil => exact ⟨[], fun _ _ _ hmore => hmore, parsesAllAs_nil⟩
  | cons e es ih =>
      obtain ⟨⟨contents, he⟩, hes⟩ := List.forall_mem_cons.mp hterms
      obtain ⟨others, hlexes, hparses⟩ := ih hes
      refine ⟨contents ++ others, ?_, parsesAllAs_cons he.parses hparses⟩
      intro rest more hrest hmore
      have hothers := hlexes rest more hrest hmore
      rw [List.append_assoc]
      -- a term ends in front of a space, and the last one in front of what is behind the list
      cases es with
      | nil => exact he.lexes rest _ hrest hothers
      | cons f fs =>
          have hspace : StopsAt isSymbolChar (' ' :: (structuralTerms (f :: fs) ++ rest)) :=
            stopsAt_cons.mpr (by decide)
          rw [structuralTerms, List.append_assoc, List.cons_append]
          exact he.lexes _ _ hspace (.blank (by decide) hothers)

theorem IsReadable.exists_readsBack {e : Expr} (he : e.IsReadable) :
    ∃ contents, e.ReadsBack contents := by
  induction he with
  | unit => exact ⟨_, readsBack_unit⟩
  | bool b => exact ⟨_, readsBack_bool b⟩
  | int hn => exact ⟨_, readsBack_word (prints_int hn) fun _ => .int⟩
  | float hx => exact ⟨_, readsBack_word (prints_float hx) fun _ => .float⟩
  | symbol hs => exact ⟨_, readsBack_symbol hs⟩
  | @list terms hne _ ih =>
      obtain ⟨contents, hlexes, hparses⟩ := exists_contents_terms ih
      obtain ⟨e, es, rfl⟩ := List.exists_cons_of_ne_nil hne
      exact ⟨_, lexesInFront_parens hlexes, parsesAs_parens hparses .parens⟩

end Expr

/-! ## Lines -/

theorem exists_contents_lines {es : List Expr} (hes : ∀ e ∈ es, e.IsReadable) :
    ∃ contents, LexesTo (structuralLines es) contents ∧ ParsesAllAs contents es := by
  induction es with
  | nil => exact ⟨[], .nil, parsesAllAs_nil⟩
  | cons e es ih =>
      obtain ⟨he, hes⟩ := List.forall_mem_cons.mp hes
      obtain ⟨contents, hlexes, hparses⟩ := he.exists_readsBack
      obtain ⟨others, hothers, hparsesAll⟩ := ih hes
      have hline : StopsAt isSymbolChar ('\n' :: structuralLines es) :=
        stopsAt_cons.mpr (by decide)
      refine ⟨contents ++ others, ?_, parsesAllAs_cons hparses hparsesAll⟩
      rw [structuralLines_cons]
      exact hlexes _ _ hline (.blank (by decide) hothers)

/-- Readable expressions are written, each on a line, and the text is lexed and read as these
expressions. -/
theorem read_renderLines [Coercion] {es : List Expr} (hes : ∀ e ∈ es, e.IsReadable) :
    ∃ text ts, renderLines es = .ok text ∧ tokenize text = .ok ts ∧
      ∀ (stripComments : Bool) (log : LogSettings),
        (Reader.create ⟨true, stripComments, log⟩ ts).1.map Reader.exprs = .ok es := by
  obtain ⟨contents, hlexes, hparses⟩ := exists_contents_lines hes
  obtain ⟨ts, hts, hcontents⟩ := hlexes.tokenize
  obtain ⟨xs, hxs, rfl⟩ := hparses ts hcontents
  refine ⟨_, _, renderLines_of_isWritable fun e he => (hes e he).isWritable, hts, ?_⟩
  intro stripComments log
  rw [create_result, read_yields hxs]

def mixedExprs : List Expr :=
  [.list [.symbol ['-', '#'], .int (-12), .float (.finite true .zero), .list [.bool true, .unit]],
    .int 7]

attribute [local instance] Coercion.lax

theorem read_renderLines_mixedExprs :
    (∀ e ∈ mixedExprs, e.IsReadable) ∧
      ∃ ts, tokenize "(-# -12 -0.0 (true ()))\n7\n".toList = .ok ts ∧
        (Reader.create ⟨true, true, {}⟩ ts).1.map Reader.exprs = .ok mixedExprs := by
  have hsymbol : IsSymbolText ['-', '#'] :=
    ⟨⟨by decide, List.all_eq_true.mp (by decide)⟩, by decide,
      fun l => (l.text_ne (by decide)).symm, by decide, by decide⟩
  have hinner : ∀ e ∈ [Expr.bool true, .unit], e.IsReadable := by
    simp [Expr.IsReadable.bool, Expr.IsReadable.unit]
  have hterms : ∀ e ∈ [.symbol ['-', '#'], .int (-12), .float (.finite true .zero),
      .list [.bool true, .unit]], Expr.IsReadable e := by
    simp only [List.forall_mem_cons]
    exact ⟨.symbol hsymbol, .int (by decide), .float rfl, .list (by simp) hinner, by simp⟩
  have hes : ∀ e ∈ mixedExprs, e.IsReadable := by
    simp only [mixedExprs, List.forall_mem_cons]
    exact ⟨.list (by simp) hterms, .int (by decide), by simp⟩
  have htext : renderLines mixedExprs = .ok "(-# -12 -0.0 (true ()))\n7\n".toList := by
    decide +kernel
  obtain ⟨text, ts, hlines, hts, hread⟩ := read_renderLines hes
  cases htext.symm.trans hlines
  exact ⟨hes, ts, hts, hread true {}⟩

end TanSource
