import TanSource.Proofs.Formatter.Rendering
import TanSource.Proofs.Lexer.Printed

/-!
# Lexing undoes formatting

Inside a list every piece of the output ends its line, so no token goes on with the next one.
Outside all lists nothing is written between tokens; there a comment has to be the last token, and
words have to stand apart. Then the output is lexed to the tokens that were formatted
(`tokenize_format`).
-/

namespace TanSource

/-! ## Tokens that stand apart -/

namespace Token

/-- The text of the token goes on with symbol characters that follow it. -/
def IsOpenEnded (t : Token) : Prop :=
  t.kind = .symbol ∨ t.kind = .int ∨ t.kind = .float ∨
    t.kind = .annot ∧ ∀ body, t.value ≠ .text ('(' :: body)

def BeginsWord (t : Token) : Prop :=
  t.kind = .symbol ∨ t.kind = .int ∨ t.kind = .float ∨ t.kind = .annot

end Token

/-- Outside all lists, no comment is in front of a token, and nothing that goes on in front of what
it goes on with. -/
structure Separated (brackets : List Bracket) (ts : List Token) : Prop where
  comment_last : ∀ before t after, ts = before ++ t :: after → openBehind brackets before = [] →
    t.kind = .comment → after = []
  words_apart : ∀ before t next after, ts = before ++ t :: next :: after →
    openBehind brackets before = [] → t.IsOpenEnded → ¬next.BeginsWord

theorem separated_nil (brackets : List Bracket) : Separated brackets [] :=
  ⟨by simp, by simp⟩

theorem separated_cons {brackets : List Bracket} {t : Token} {ts : List Token} :
    Separated brackets (t :: ts) ↔
      (brackets = [] → (t.kind = .comment → ts = []) ∧
        (t.IsOpenEnded → ∀ next ∈ ts.head?, ¬next.BeginsWord)) ∧
      Separated (t.shift brackets) ts := by
  constructor
  · intro h
    refine ⟨fun hopen => ⟨h.comment_last [] t ts rfl hopen, ?_⟩, ?_, ?_⟩
    · intro hended next hnext
      obtain ⟨after, rfl⟩ := List.head?_eq_some_iff.mp hnext
      exact h.words_apart [] t next after rfl hopen hended
    · intro before u after hts hopen
      exact h.comment_last (t :: before) u after (by rw [hts, List.cons_append]) hopen
    · intro before u next after hts hopen
      exact h.words_apart (t :: before) u next after (by rw [hts, List.cons_append]) hopen
  · rintro ⟨hhead, htail⟩
    constructor
    · intro before u after hts hopen hkind
      cases before with
      | nil =>
          obtain ⟨rfl, rfl⟩ := List.cons.inj hts
          exact (hhead hopen).1 hkind
      | cons v before =>
          obtain ⟨rfl, rfl⟩ := List.cons.inj hts
          exact htail.comment_last before u after rfl hopen hkind
    · intro before u next after hts hopen hended
      cases before with
      | nil =>
          obtain ⟨rfl, rfl⟩ := List.cons.inj hts
          exact (hhead hopen).2 hended next rfl
      | cons v before =>
          obtain ⟨rfl, rfl⟩ := List.cons.inj hts
          exact htail.words_apart before u next after rfl hopen hended

/-! ## Where lexemes begin -/

theorem isSymbolChar_delimiter (d : Delimiter) : isSymbolChar d.char = false := by
  rcases d with family | family <;> cases family <;> decide

/-- What is denoted by other lexemes than words and annotations begins with no symbol character. -/
theorem Lexeme.Denotes.stopsAt_symbol {x : Lexeme} {kind : TokenKind} {value : Value}
    (h : x.Denotes kind value)
    (hkind : ¬(kind = .symbol ∨ kind = .int ∨ kind = .float ∨ kind = .annot)) (rest : Text) :
    StopsAt isSymbolChar (x.text ++ rest) := by
  cases h with
  | comment | quote | string => exact stopsAt_cons.mpr (by decide)
  | @delimiter d => exact stopsAt_cons.mpr (isSymbolChar_delimiter d)
  | annot | int | float | symbol => simp at hkind

theorem Token.Prints.content_delimiter {t : Token} {x : Lexeme} {d : Delimiter} (h : t.Prints x)
    (ht : t.kind = .delimiter d) : t.content = (.delimiter d, .absent) := by
  obtain ⟨kind, value, span⟩ := t
  cases ht
  cases h.denotes
  rfl

theorem LexesTo.delimiter (d : Delimiter) {s : Text} {contents : List (TokenKind × Value)}
    (hs : LexesTo s contents) : LexesTo (d.char :: s) ((.delimiter d, .absent) :: contents) := by
  have hlimit : (Lexeme.delimiter d).WithinDigitLimit :=
    Lexeme.withinDigitLimit_of_not_word (by simp)
  exact .lexeme (x := .delimiter d) trivial trivial .delimiter hlimit hs

/-! ## Pieces of the output -/

namespace FormatSettings

variable (settings : FormatSettings)

/-- The kinds and values that a token has in the output. The compatible layout closes braces with an
additional parenthesis. -/
def echo (t : Token) : List (TokenKind × Value) :=
  if settings.layout = .compat ∧ t.kind = .closing .brace then
    [t.content, (.closing .paren, .absent)]
  else [t.content]

variable {settings} {s : Text} {contents : List (TokenKind × Value)}

theorem isBlank_of_mem_margin {depth : Int} {c : Char} (hc : c ∈ settings.margin depth) :
    isBlank c = true := by
  obtain rfl := eq_space_of_mem_blanks hc
  decide

theorem lexesTo_lead (depth : Nat) (hs : LexesTo s contents) :
    LexesTo (settings.lead depth ++ s) contents := by
  unfold lead
  split
  · exact hs
  · exact .blanks (fun _ => isBlank_of_mem_margin) hs

theorem lexesTo_lineEnd (depth : Nat) (hs : LexesTo s contents) :
    LexesTo (lineEnd depth ++ s) contents := by
  unfold lineEnd
  split
  · exact hs
  · exact .blank (by decide) hs

theorem lexesTo_openText (family : Bracket) (hs : LexesTo s contents) :
    LexesTo (settings.openText family ++ s) ((.opening family, .absent) :: contents) := by
  have hline : LexesTo ('\n' :: s) contents := .blank (by decide) hs
  unfold openText
  split
  · exact .delimiter (.opening .paren) hs
  · exact .delimiter (.opening _) hline

theorem lexesTo_closeText {t : Token} {family : Bracket}
    (ht : t.content = (.closing family, .absent)) (nesting : Int) (hs : LexesTo s contents) :
    LexesTo (settings.closeText nesting family ++ s) (settings.echo t ++ contents) := by
  have hkind : t.kind = .closing family := congrArg Prod.fst ht
  have hclose : LexesTo (family.closeChar :: s) ((.closing family, .absent) :: contents) :=
    .delimiter (.closing family) hs
  cases hlayout : settings.layout with
  | canonical =>
      have hecho : settings.echo t = [(.closing family, .absent)] := by simp [echo, hlayout, ht]
      have htext : settings.closeText nesting family =
          settings.margin nesting ++ [family.closeChar] := by simp [closeText, hlayout]
      rw [hecho, htext, List.append_assoc]
      exact .blanks (fun _ => isBlank_of_mem_margin) hclose
  | compat =>
      by_cases hbrace : family = .brace
      · subst hbrace
        have hecho : settings.echo t =
            [(.closing .brace, .absent), (.closing .paren, .absent)] := by
          simp [echo, hlayout, ht, hkind]
        have htext : settings.closeText nesting .brace = ['}', ')'] := by
          simp [closeText, hlayout]
        rw [hecho, htext]
        exact .delimiter (.closing .brace) (.delimiter (.closing .paren) hs)
      · have hecho : settings.echo t = [(.closing family, .absent)] := by
          simp [echo, hlayout, ht, hkind, hbrace]
        have htext : settings.closeText nesting family = [family.closeChar] := by
          cases family <;> simp_all [closeText]
        rw [hecho, htext]
        exact hclose

theorem echo_of_not_closing {t : Token} (ht : ∀ family, t.kind ≠ .closing family) :
    settings.echo t = [t.content] := by
  rw [echo, if_neg (fun h => ht .brace h.2)]

/-! ## The output -/

/-- Outside all lists a token that is not a stray begins with a symbol character only if it is a
word or an annotation. -/
theorem stopsAt_render {ts : List Token} (hprints : ∀ t ∈ ts, ∃ x, t.Prints x)
    (hstrays : strays [] ts = []) (hnext : ∀ t ∈ ts.head?, ¬t.BeginsWord) :
    StopsAt isSymbolChar (settings.render [] ts) := by
  cases ts with
  | nil => exact stopsAt_nil
  | cons t ts =>
      obtain ⟨⟨x, hx⟩, -⟩ := List.forall_mem_cons.mp hprints
      have hword : ¬t.BeginsWord := hnext t rfl
      rcases t.kind_cases with ⟨family, ht⟩ | ⟨family, ht⟩ | ht
      · rw [render, piece_opening ht]
        show StopsAt isSymbolChar (settings.openText family ++ _)
        unfold openText
        split
        · exact stopsAt_cons.mpr (by decide)
        · exact stopsAt_cons.mpr (isSymbolChar_delimiter (.opening _))
      · have hstray : t.isStray [] = true := by
          rw [Token.isStray_closing ht]
          rfl
        rw [strays, if_pos hstray] at hstrays
        cases hstrays
      · rw [render, piece_leaf ht hx.text, List.append_assoc, List.append_assoc]
        exact hx.denotes.stopsAt_symbol hword _

/-- In front of the rest of the output every lexeme ends. -/
theorem endsBefore_render {brackets : List Bracket} {t : Token} {ts : List Token} {x : Lexeme}
    (hx : t.Prints x) (hprints : ∀ t ∈ ts, ∃ x, t.Prints x)
    (hstrays : strays brackets ts = []) (hseparated : Separated brackets (t :: ts)) :
    x.EndsBefore (lineEnd brackets.length ++ settings.render brackets ts) := by
  cases brackets with
  | cons family brackets => exact hx.denotes.endsBefore_newline _
  | nil =>
      show x.EndsBefore (settings.render [] ts)
      obtain ⟨hlast, hapart⟩ := (separated_cons.mp hseparated).1 rfl
      have hstop (hended : t.IsOpenEnded) : StopsAt isSymbolChar (settings.render [] ts) :=
        stopsAt_render hprints hstrays (hapart hended)
      have hdenotes := hx.denotes
      unfold Token.IsOpenEnded at hstop
      generalize t.kind = kind at *
      generalize t.value = value at *
      cases hdenotes with
      | comment =>
          obtain rfl := hlast rfl
          exact Lexeme.endsBefore_nil _
      | annot =>
          intro hword
          refine hstop (Or.inr (Or.inr (Or.inr ⟨rfl, ?_⟩)))
          rintro body heq
          cases heq
          have hsymbol := hword.all_symbol '(' List.mem_cons_self
          cases hsymbol
      | int => exact hstop (Or.inr (Or.inl rfl))
      | float => exact hstop (Or.inr (Or.inr (Or.inl rfl)))
      | symbol => exact hstop (Or.inl rfl)
      | _ => trivial

/-- The output is lexed to the tokens that are formatted. -/
theorem lexesTo_render {brackets : List Bracket} {ts : List Token}
    (hprints : ∀ t ∈ ts, ∃ x, t.Prints x) (hstrays : strays brackets ts = [])
    (hseparated : Separated brackets ts) :
    LexesTo (settings.render brackets ts) (ts.flatMap settings.echo) := by
  induction ts generalizing brackets with
  | nil => exact .nil
  | cons t ts ih =>
      obtain ⟨⟨x, hx⟩, hprints⟩ := List.forall_mem_cons.mp hprints
      have hstray : t.isStray brackets = false := by
        by_contra hstray
        rw [strays, if_pos (by simpa using hstray)] at hstrays
        cases hstrays
      rw [strays, hstray, if_neg Bool.false_ne_true] at hstrays
      have hrest := ih hprints hstrays (separated_cons.mp hseparated).2
      rw [render, List.flatMap_cons]
      rcases t.kind_cases with ⟨family, ht⟩ | ⟨family, ht⟩ | ht
      · rw [piece_opening ht, echo_of_not_closing (by simp [ht]), hx.content_delimiter ht,
          List.append_assoc]
        exact lexesTo_lead _ (lexesTo_openText family hrest)
      · rw [Token.isStray_closing ht] at hstray
        obtain ⟨outer, rfl⟩ : ∃ outer, brackets = family :: outer :=
          List.head?_eq_some_iff.mp (by simpa using hstray)
        rw [piece_closing ht, List.append_assoc]
        exact lexesTo_closeText (hx.content_delimiter ht) _ (lexesTo_lineEnd _ hrest)
      -- The one piece that could go on with what follows it.
      · rw [piece_leaf ht hx.text, echo_of_not_closing (fun _ => ht _), List.append_assoc,
          List.append_assoc]
        rw [Token.shift_leaf ht] at hrest hstrays ⊢
        have hend := settings.endsBefore_render hx hprints hstrays hseparated
        exact lexesTo_lead _
          (.lexeme hx.wellFormed hend hx.denotes hx.limit (lexesTo_lineEnd _ hrest))

/-! ## Tokens of equal kinds and values -/

theorem exists_span_of_content_eq {t u : Token} (h : u.content = t.content) :
    ∃ span, u = ⟨t.kind, t.value, span⟩ := by
  obtain ⟨kind, value, span⟩ := u
  cases h
  exact ⟨span, rfl⟩

theorem admits_of_content_eq {brackets : List Bracket} {ts us : List Token}
    (h : us.map Token.content = ts.map Token.content) (hadmits : settings.Admits brackets ts) :
    settings.Admits brackets us := by
  induction ts generalizing us brackets with
  | nil =>
      obtain rfl := List.map_eq_nil_iff.mp h
      exact hadmits
  | cons t ts ih =>
      obtain ⟨u, us, rfl, hu, hus⟩ := List.map_eq_cons_iff.mp h
      obtain ⟨span, rfl⟩ := exists_span_of_content_eq hu
      exact ⟨hadmits.1, ih hus hadmits.2⟩

theorem render_of_content_eq {brackets : List Bracket} {ts us : List Token}
    (h : us.map Token.content = ts.map Token.content) :
    settings.render brackets us = settings.render brackets ts := by
  induction ts generalizing us brackets with
  | nil =>
      obtain rfl := List.map_eq_nil_iff.mp h
      rfl
  | cons t ts ih =>
      obtain ⟨u, us, rfl, hu, hus⟩ := List.map_eq_cons_iff.mp h
      obtain ⟨span, rfl⟩ := exists_span_of_content_eq hu
      exact congrArg (settings.piece brackets t ++ ·) (ih hus)

end FormatSettings

/-- The output of a pass without diagnostics is lexed to the kinds and values of the tokens that
were formatted, in the compatible layout with a parenthesis behind each brace that closes. The
canonical output is therefore formatted to itself. -/
theorem tokenize_format {s out : Text} {ts : List Token} {settings : FormatSettings}
    (hts : tokenize s = .ok ts)
    (hout : (Formatter.ofTokens settings ts).format.1 = .ok out)
    (hclean : (Formatter.ofTokens settings ts).format.2.pass.pending = [])
    (hfinite : ∀ t ∈ ts, ∀ negative, t.value ≠ .float (.infinite negative))
    (hseparated : Separated [] ts) :
    ∃ us, tokenize out = .ok us ∧
      (settings.layout = .canonical → us.map Token.content = ts.map Token.content ∧
        (Formatter.ofTokens settings us).format.1 = .ok out) ∧
      (settings.layout = .compat → us.map Token.content = ts.flatMap fun t =>
        if t.kind = .closing .brace then [t.content, (.closing .paren, .absent)]
        else [t.content]) := by
  have hadmits : settings.Admits [] ts := Formatter.admits_of_format hout
  obtain ⟨hrender, hpending⟩ := Formatter.format_of_admits hadmits
  obtain rfl : settings.render [] ts = out := by
    rw [hrender] at hout
    exact Except.ok.inj hout
  have hstrays : strays [] ts = [] := by
    rw [hpending] at hclean
    exact List.map_eq_nil_iff.mp hclean
  have hprints : ∀ t ∈ ts, ∃ x, t.Prints x := by
    intro t ht
    obtain ⟨x, hx, hdenotes, hlimit⟩ := exists_lexeme_of_tokenize hts t ht
    exact Token.exists_prints hx hdenotes hlimit (hfinite t ht)
  obtain ⟨us, hus, hcontents⟩ :=
    (settings.lexesTo_render hprints hstrays hseparated).tokenize
  refine ⟨us, hus, ?_, ?_⟩
  · intro hlayout
    have hecho : settings.echo = fun t => [t.content] := by
      funext t
      simp [FormatSettings.echo, hlayout]
    have hsame : us.map Token.content = ts.map Token.content := by
      rw [hcontents, hecho, List.map_eq_flatMap]
    have hagain := Formatter.format_of_admits (FormatSettings.admits_of_content_eq hsame hadmits)
    rw [FormatSettings.render_of_content_eq hsame] at hagain
    exact ⟨hsame, hagain.1⟩
  · intro hlayout
    have hecho : settings.echo = fun t =>
        if t.kind = .closing .brace then [t.content, (.closing .paren, .absent)]
        else [t.content] := by
      funext t
      simp [FormatSettings.echo, hlayout]
    rw [hcontents, hecho]

/-- The tokens of a word in braces and a word behind them. -/
def bracedWord : List Token :=
  [⟨.opening .brace, .absent, ⟨⟨0, 1, 1⟩, ⟨1, 1, 2⟩⟩⟩,
    ⟨.symbol, .text ['a'], ⟨⟨1, 1, 2⟩, ⟨2, 1, 3⟩⟩⟩,
    ⟨.closing .brace, .absent, ⟨⟨2, 1, 3⟩, ⟨3, 1, 4⟩⟩⟩,
    ⟨.symbol, .text ['b'], ⟨⟨3, 1, 4⟩, ⟨4, 1, 5⟩⟩⟩]

theorem tokenize_format_bracedWord :
    ∃ us, tokenize "\x7b\n    a\n\x7d)b".toList = .ok us ∧
      us.map Token.content = [(.opening .brace, .absent), (.symbol, .text ['a']),
        (.closing .brace, .absent), (.closing .paren, .absent), (.symbol, .text ['b'])] := by
  have hts : tokenize "\x7ba\x7db".toList = .ok bracedWord := by decide +kernel
  have hout : (Formatter.ofTokens {} bracedWord).format.1 = .ok "\x7b\n    a\n\x7d)b".toList := by
    decide +kernel
  have hclean : (Formatter.ofTokens {} bracedWord).format.2.pass.pending = [] := by
    decide +kernel
  have hseparated : Separated [] bracedWord := by
    simp [bracedWord, separated_cons, separated_nil, Token.shift, Token.IsOpenEnded]
  obtain ⟨us, hus, -, hcompat⟩ := tokenize_format hts hout hclean (by simp [bracedWord]) hseparated
  exact ⟨us, hus, hcompat rfl⟩

end TanSource
