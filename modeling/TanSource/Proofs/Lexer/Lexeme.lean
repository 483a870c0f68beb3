import TanSource.Lexer.Item
import TanSource.Proofs.Numeral.Literal

/-!
# Lexemes

The lexical grammar of tan source, said without reference to how a text is cut up: which texts are
lexemes, in front of which text a lexeme ends, and what it denotes. The first item of a text is the
lexeme in front of it (`firstItem_of_wellFormed`), and there is none only at an item that is at
fault (`firstItem_cases`).
-/

namespace TanSource

/-- The inside of a string: characters other than double quotes and backslashes, and pairs of a
backslash and any character. -/
inductive StringBody : Text → Prop
  | nil : StringBody []
  | plain {c : Char} {s : Text} (hquote : c ≠ '"') (hescape : c ≠ '\\') (hs : StringBody s) :
      StringBody (c :: s)
  | escaped {c : Char} {s : Text} (hs : StringBody s) : StringBody ('\\' :: c :: s)

/-- A group opens with a parenthesis and ends where its parentheses first balance. -/
structure IsGroup (s : Text) : Prop where
  head : s.head? = some '('
  balanced : s.count '(' = s.count ')'
  first : ∀ front back : Text, s = front ++ back → front ≠ [] → back ≠ [] →
    front.count '(' ≠ front.count ')'

structure IsWord (s : Text) : Prop where
  ne_nil : s ≠ []
  all_symbol : ∀ c ∈ s, isSymbolChar c = true

inductive Lexeme
  | blank (s : Text)
  | comment (body : Text)
  | delimiter (d : Delimiter)
  | quote
  | string (body : Text)
  | annot (body : Text)
  | word (s : Text)
  deriving DecidableEq

namespace Lexeme

def text : Lexeme → Text
  | blank s => s
  | comment body => ';' :: body
  | delimiter d => [d.char]
  | quote => ['\'']
  | string body => '"' :: (body ++ ['"'])
  | annot body => '#' :: body
  | word s => s

def WellFormed : Lexeme → Prop
  | blank s => s ≠ [] ∧ ∀ c ∈ s, isBlank c = true
  | comment body => '\n' ∉ body
  | delimiter _ => True
  | quote => True
  | string body => StringBody body
  | annot body => IsWord body ∨ IsGroup body
  | word s => IsWord s ∧ s.head? ≠ some '#'

/-- A lexeme that could go on does not do so with the text behind it. -/
def EndsBefore : Lexeme → Text → Prop
  | blank _, rest => StopsAt isBlank rest
  | comment _, rest => StopsAt (· ≠ '\n') rest
  | annot body, rest => IsWord body → StopsAt isSymbolChar rest
  | word _, rest => StopsAt isSymbolChar rest
  | _, _ => True

/-- The kind and the value of the token that a lexeme is. A word is a number if it is the text of a
number literal, a floating point number if that has a fraction or an exponent. -/
inductive Denotes : Lexeme → TokenKind → Value → Prop
  | comment {body : Text} : Denotes (.comment body) .comment (.text (';' :: body))
  | delimiter {d : Delimiter} : Denotes (.delimiter d) (.delimiter d) .absent
  | quote : Denotes .quote .quote .absent
  | string {body : Text} : Denotes (.string body) .string (.text body)
  | annot {body : Text} : Denotes (.annot body) .annot (.text body)
  | int (l : NumberLiteral) (hfraction : l.fraction? = none) (hexponent : l.exponent? = none) :
      Denotes (.word l.text) .int (.int l.numeral.toInt)
  | float (l : NumberLiteral) (hpart : l.fraction? ≠ none ∨ l.exponent? ≠ none) :
      Denotes (.word l.text) .float (.float l.numeral.toBinary64)
  | symbol {s : Text} (hs : ∀ l : NumberLiteral, l.text ≠ s) : Denotes (.word s) .symbol (.text s)

/-- A lexeme that is an integer has no more digits than can be converted. -/
def WithinDigitLimit (x : Lexeme) : Prop :=
  ∀ l : NumberLiteral, x = .word l.text → l.fraction? = none → l.exponent? = none →
    l.numeral.whole.length ≤ integerDigitLimit

def reading : Lexeme → Reading
  | blank _ => .blank
  | comment body => .token .comment (.text (';' :: body))
  | delimiter d => .token (.delimiter d) .absent
  | quote => .token .quote .absent
  | string body => .token .string (.text body)
  | annot body => .token .annot (.text body)
  | word s => readWord s

end Lexeme

/-! ## Strings and groups -/

theorem splitString?_append {body : Text} (h : StringBody body) (rest : Text) :
    splitString? (body ++ '"' :: rest) = some (body, rest) := by
  induction h with
  | nil => simp [splitString?]
  | plain hquote hescape hs ih => simp [splitString?, hquote, hescape, ih]
  | escaped hs ih => simp [splitString?, ih]

theorem stringBody_of_splitString? {s body rest : Text} (h : splitString? s = some (body, rest)) :
    StringBody body := by
  fun_induction splitString? s generalizing body rest with
  | case1 => cases h
  | case2 => cases h
  | case3 c s ih =>
      obtain ⟨⟨b, r⟩, hr, he⟩ := Option.map_eq_some_iff.mp h
      cases he
      exact .escaped (ih hr)
  | case4 s =>
      cases h
      exact .nil
  | case5 c s hend hpair hquote ih =>
      obtain ⟨⟨b, r⟩, hr, he⟩ := Option.map_eq_some_iff.mp h
      cases he
      refine .plain hquote ?_ (ih hr)
      rintro rfl
      cases s with
      | nil => exact hend rfl rfl
      | cons d s => exact hpair d s rfl rfl

/-- Splitting a group stops where the closing parentheses first outnumber the others by those that
are open. -/
theorem splitGroup?_append {depth : Nat} {body : Text}
    (hbalanced : body.count ')' = body.count '(' + depth + 1)
    (hfirst : ∀ front back : Text, body = front ++ back → back ≠ [] →
      front.count ')' ≠ front.count '(' + depth + 1) (rest : Text) :
    splitGroup? depth (body ++ rest) = some (body, rest) := by
  induction body generalizing depth with
  | nil => simp at hbalanced
  | cons c body ih =>
      have hfirst' (front back : Text) (hbody : body = front ++ back) (hback : back ≠ []) :
          (c :: front).count ')' ≠ (c :: front).count '(' + depth + 1 :=
        hfirst (c :: front) back (by rw [hbody, List.cons_append]) hback
      by_cases hclose : c = ')'
      · subst hclose
        simp only [List.count_cons_self, List.count_cons_of_ne (by decide : ')' ≠ '(')] at *
        cases depth with
        | zero =>
            have hbody : body = [] := by
              by_contra hne
              exact hfirst' [] body rfl hne rfl
            simp [splitGroup?, hbody]
        | succ outer =>
            have hsplit : splitGroup? outer (body ++ rest) = some (body, rest) := by
              apply ih (by omega)
              intro front back hbody hback
              have hne := hfirst' front back hbody hback
              omega
            simp [splitGroup?, hsplit]
      · rw [List.count_cons_of_ne hclose] at hbalanced
        simp only [List.count_cons_of_ne hclose] at hfirst'
        by_cases hopen : c = '('
        · subst hopen
          simp only [List.count_cons_self] at *
          have hsplit : splitGroup? (depth + 1) (body ++ rest) = some (body, rest) := by
            apply ih (by omega)
            intro front back hbody hback
            have hne := hfirst' front back hbody hback
            omega
          simp [splitGroup?, hsplit]
        · rw [List.count_cons_of_ne hopen] at hbalanced
          simp only [List.count_cons_of_ne hopen] at hfirst'
          simp [splitGroup?, hclose, hopen, ih hbalanced hfirst']

theorem count_of_splitGroup? {depth : Nat} {s body rest : Text}
    (h : splitGroup? depth s = some (body, rest)) :
    body.count ')' = body.count '(' + depth + 1 ∧
      ∀ front back : Text, body = front ++ back → back ≠ [] →
        front.count ')' < front.count '(' + depth + 1 := by
  fun_induction splitGroup? depth s generalizing body rest with
  | case1 => cases h
  | case2 s =>
      cases h
      refine ⟨rfl, ?_⟩
      intro front back hbody hback
      cases front with
      | nil => simp
      | cons c front =>
          rw [List.cons_append, List.cons.injEq] at hbody
          exact absurd (List.append_eq_nil_iff.mp hbody.2.symm).2 hback
  | case3 s outer ih =>
      obtain ⟨⟨b, r⟩, hr, he⟩ := Option.map_eq_some_iff.mp h
      cases he
      obtain ⟨hcount, hfront⟩ := ih hr
      simp only [List.count_cons_self, List.count_cons_of_ne (by decide : ')' ≠ '(')]
      refine ⟨by omega, ?_⟩
      intro front back hbody hback
      cases front with
      | nil => simp
      | cons c front =>
          rw [List.cons_append, List.cons.injEq] at hbody
          obtain ⟨rfl, hbody⟩ := hbody
          have hlt := hfront front back hbody hback
          simp only [List.count_cons_self, List.count_cons_of_ne (by decide : ')' ≠ '(')]
          omega
  | case4 depth c s hclose ih =>
      obtain ⟨⟨b, r⟩, hr, he⟩ := Option.map_eq_some_iff.mp h
      cases he
      obtain ⟨hcount, hfront⟩ := ih hr
      have hopened (u : Text) : (c :: u).count '(' + depth =
          u.count '(' + if c = '(' then depth + 1 else depth := by
        by_cases hopen : c = '('
        · simp [hopen]
          omega
        · simp [hopen]
      rw [List.count_cons_of_ne hclose, hopened]
      refine ⟨hcount, ?_⟩
      intro front back hbody hback
      cases front with
      | nil => simp
      | cons d front =>
          rw [List.cons_append, List.cons.injEq] at hbody
          obtain ⟨rfl, hbody⟩ := hbody
          rw [List.count_cons_of_ne hclose, hopened]
          exact hfront front back hbody hback

theorem splitGroup?_eq_some_iff {s body rest : Text} :
    splitGroup? 0 s = some (body, rest) ↔ IsGroup ('(' :: body) ∧ s = body ++ rest := by
  constructor
  · intro h
    obtain ⟨hcount, hfront⟩ := count_of_splitGroup? h
    refine ⟨⟨rfl, ?_, ?_⟩, (append_of_splitGroup? h).symm⟩
    · rw [List.count_cons_self, List.count_cons_of_ne (by decide), hcount]
    · intro front back hbody hne hback
      obtain ⟨c, front, rfl⟩ := List.exists_cons_of_ne_nil hne
      rw [List.cons_append, List.cons.injEq] at hbody
      obtain ⟨rfl, hbody⟩ := hbody
      have hlt := hfront front back hbody hback
      rw [List.count_cons_self, List.count_cons_of_ne (by decide)]
      omega
  · rintro ⟨hgroup, rfl⟩
    have hbalanced := hgroup.balanced
    rw [List.count_cons_self, List.count_cons_of_ne (by decide)] at hbalanced
    apply splitGroup?_append (by omega)
    intro front back hbody hback heq
    apply hgroup.first ('(' :: front) back (by rw [hbody, List.cons_append]) (by simp) hback
    rw [List.count_cons_self, List.count_cons_of_ne (by decide), heq]

/-! ## The item that begins with a character -/

theorem isSymbolChar_iff {c : Char} : isSymbolChar c = true ↔
    isBlank c = false ∧ Delimiter.ofChar? c = none ∧ c ≠ '"' ∧ c ≠ ';' ∧ c ≠ '\'' := by
  simp [isSymbolChar, and_assoc]

theorem char_cases (c : Char) :
    isBlank c = true ∨ c = ';' ∨ (∃ d : Delimiter, c = d.char) ∨ c = '"' ∨ c = '\'' ∨
      c = '#' ∨ (isSymbolChar c = true ∧ c ≠ '#') := by
  by_cases hsymbol : isSymbolChar c = true
  · by_cases hmark : c = '#' <;> simp [hmark, hsymbol]
  · cases hdelim : Delimiter.ofChar? c with
    | some d => exact Or.inr (Or.inr (Or.inl ⟨d, Delimiter.ofChar?_eq_some.mp hdelim⟩))
    | none =>
        rw [isSymbolChar_iff] at hsymbol
        grind

theorem isBlank_delimiter (d : Delimiter) : isBlank d.char = false := by
  rcases d with family | family <;> cases family <;> decide

theorem delimiter_char_ne {c : Char} (hc : Delimiter.ofChar? c = none) (d : Delimiter) :
    d.char ≠ c := by
  rintro rfl
  rw [Delimiter.ofChar?_eq_some.mpr rfl] at hc
  cases hc

theorem firstItem_blank {c : Char} (hc : isBlank c = true) (s : Text) :
    firstItem c s = ⟨c :: s.takeWhile isBlank, .blank, s.dropWhile isBlank⟩ := by
  simp [firstItem, hc]

theorem firstItem_comment (s : Text) :
    firstItem ';' s = ⟨';' :: s.takeWhile (· ≠ '\n'),
      .token .comment (.text (';' :: s.takeWhile (· ≠ '\n'))), s.dropWhile (· ≠ '\n')⟩ := by
  have hblank : isBlank ';' = false := by decide
  simp [firstItem, hblank]

theorem firstItem_delimiter (d : Delimiter) (s : Text) :
    firstItem d.char s = ⟨[d.char], .token (.delimiter d) .absent, s⟩ := by
  have hcomment : d.char ≠ ';' := delimiter_char_ne (by decide) d
  have hchar : Delimiter.ofChar? d.char = some d := Delimiter.ofChar?_eq_some.mpr rfl
  simp [firstItem, isBlank_delimiter, hcomment, hchar]

theorem firstItem_string_of_some {s body rest : Text} (h : splitString? s = some (body, rest)) :
    firstItem '"' s = ⟨'"' :: (body ++ ['"']), .token .string (.text body), rest⟩ := by
  have hblank : isBlank '"' = false := by decide
  have hdelim : Delimiter.ofChar? '"' = none := by decide
  simp [firstItem, hblank, hdelim, h]

theorem firstItem_string_of_none {s : Text} (h : splitString? s = none) :
    firstItem '"' s = ⟨'"' :: s, .fault .unterminatedString, []⟩ := by
  have hblank : isBlank '"' = false := by decide
  have hdelim : Delimiter.ofChar? '"' = none := by decide
  simp [firstItem, hblank, hdelim, h]

theorem firstItem_quote (s : Text) : firstItem '\'' s = ⟨['\''], .token .quote .absent, s⟩ := by
  have hblank : isBlank '\'' = false := by decide
  have hdelim : Delimiter.ofChar? '\'' = none := by decide
  simp [firstItem, hblank, hdelim]

theorem firstItem_annot (s : Text) : firstItem '#' s = annotationItem s := by
  have hblank : isBlank '#' = false := by decide
  have hdelim : Delimiter.ofChar? '#' = none := by decide
  simp [firstItem, hblank, hdelim]

theorem firstItem_word {c : Char} (hc : isSymbolChar c = true) (hmark : c ≠ '#') (s : Text) :
    firstItem c s = ⟨c :: s.takeWhile isSymbolChar, readWord (c :: s.takeWhile isSymbolChar),
      s.dropWhile isSymbolChar⟩ := by
  obtain ⟨hblank, hdelim, hstring, hcomment, hquote⟩ := isSymbolChar_iff.mp hc
  simp [firstItem, hblank, hdelim, hstring, hcomment, hquote, hmark]

theorem firstItem_annot_of_head_ne {s : Text} (hs : s.head? ≠ some '(') :
    firstItem '#' s = ⟨'#' :: s.takeWhile isSymbolChar,
      if s.takeWhile isSymbolChar = [] then .fault .emptyAnnot
      else .token .annot (.text (s.takeWhile isSymbolChar)), s.dropWhile isSymbolChar⟩ := by
  rw [firstItem_annot]
  unfold annotationItem
  split
  · simp at hs
  · rfl

theorem firstItem_group_of_some {s body rest : Text} (h : splitGroup? 0 s = some (body, rest)) :
    firstItem '#' ('(' :: s) = ⟨'#' :: '(' :: body, .token .annot (.text ('(' :: body)), rest⟩ := by
  simp [firstItem_annot, annotationItem, h]

theorem firstItem_group_of_none {s : Text} (h : splitGroup? 0 s = none) :
    firstItem '#' ('(' :: s) = ⟨'#' :: '(' :: s, .fault .unterminatedAnnot, []⟩ := by
  simp [firstItem_annot, annotationItem, h]

/-! ## Lexemes and first items -/

theorem IsWord.head?_ne {c : Char} {s : Text} (h : IsWord s) (hc : isSymbolChar c = false)
    (rest : Text) : (s ++ rest).head? ≠ some c := by
  obtain ⟨d, s, rfl⟩ := List.exists_cons_of_ne_nil h.ne_nil
  have hd := h.all_symbol d List.mem_cons_self
  rintro heq
  cases heq
  rw [hc] at hd
  cases hd

theorem isWord_takeWhile {s : Text} (h : s.takeWhile isSymbolChar ≠ []) :
    IsWord (s.takeWhile isSymbolChar) :=
  ⟨h, forall_mem_takeWhile s⟩

/-- A lexeme in front of a text with which it does not go on is the first item there. -/
theorem firstItem_of_wellFormed {x : Lexeme} {rest : Text} (hx : x.WellFormed)
    (hend : x.EndsBefore rest) {c : Char} {s : Text} (htext : x.text ++ rest = c :: s) :
    firstItem c s = ⟨x.text, x.reading, rest⟩ := by
  cases x with
  | blank t =>
      obtain ⟨d, t, rfl⟩ := List.exists_cons_of_ne_nil hx.1
      obtain ⟨rfl, rfl⟩ := List.cons.inj htext
      have ht : ∀ d ∈ t, isBlank d = true := fun d hd => hx.2 d (List.mem_cons_of_mem _ hd)
      rw [firstItem_blank (hx.2 _ List.mem_cons_self)]
      simp only [Lexeme.text, Lexeme.reading, List.append_eq, takeWhile_run ht hend,
        dropWhile_run ht hend]
  | comment body =>
      obtain ⟨rfl, rfl⟩ := List.cons.inj htext
      have hbody : ∀ d ∈ body, (decide (d ≠ '\n')) = true := by
        intro d hd
        have hne : d ≠ '\n' := by
          rintro rfl
          exact hx hd
        simpa using hne
      rw [firstItem_comment]
      simp only [Lexeme.text, Lexeme.reading, List.append_eq, takeWhile_run hbody hend,
        dropWhile_run hbody hend]
  | delimiter d =>
      obtain ⟨rfl, rfl⟩ := List.cons.inj htext
      exact firstItem_delimiter d rest
  | quote =>
      obtain ⟨rfl, rfl⟩ := List.cons.inj htext
      exact firstItem_quote rest
  | string body =>
      obtain ⟨rfl, hs⟩ := List.cons.inj htext
      have hsplit : splitString? s = some (body, rest) := by
        rw [← hs]
        simpa using splitString?_append hx rest
      exact firstItem_string_of_some hsplit
  | annot body =>
      obtain ⟨rfl, hs⟩ := List.cons.inj htext
      rcases hx with hword | hgroup
      · have hparen := hword.head?_ne (by decide : isSymbolChar '(' = false) rest
        rw [← hs, List.append_eq, firstItem_annot_of_head_ne hparen]
        have hrest : StopsAt isSymbolChar rest := hend hword
        simp only [Lexeme.text, Lexeme.reading, takeWhile_run hword.all_symbol hrest,
          dropWhile_run hword.all_symbol hrest, if_neg hword.ne_nil]
      · obtain ⟨body, rfl⟩ : ∃ t, body = '(' :: t := List.head?_eq_some_iff.mp hgroup.head
        have hsplit : splitGroup? 0 (body ++ rest) = some (body, rest) :=
          splitGroup?_eq_some_iff.mpr ⟨hgroup, rfl⟩
        rw [← hs]
        exact firstItem_group_of_some hsplit
  | word t =>
      obtain ⟨hword, hmark⟩ := hx
      obtain ⟨d, t, rfl⟩ := List.exists_cons_of_ne_nil hword.ne_nil
      obtain ⟨rfl, rfl⟩ := List.cons.inj htext
      have hd := hword.all_symbol d List.mem_cons_self
      have ht : ∀ c ∈ t, isSymbolChar c = true :=
        fun c hc => hword.all_symbol c (List.mem_cons_of_mem _ hc)
      rw [firstItem_word hd (by simpa using hmark)]
      simp only [Lexeme.text, Lexeme.reading, List.append_eq, takeWhile_run ht hend,
        dropWhile_run ht hend]

theorem endsBefore_group {body rest : Text} (h : IsGroup body) :
    (Lexeme.annot body).EndsBefore rest := by
  intro hword
  have hhead := hword.head?_ne (by decide : isSymbolChar '(' = false) []
  rw [List.append_nil] at hhead
  exact absurd h.head hhead

/-- The first item of a text is a lexeme with which the rest does not go on, unless a string or a
group does not end or a mark stands alone. -/
theorem firstItem_cases (c : Char) (s : Text) :
    (∃ (x : Lexeme) (rest : Text), x.WellFormed ∧ x.EndsBefore rest ∧
      firstItem c s = ⟨x.text, x.reading, rest⟩) ∨
    ∃ (lexeme rest : Text) (f : LexFault), firstItem c s = ⟨lexeme, .fault f, rest⟩ ∧
      f ∈ [.unterminatedString, .unterminatedAnnot, .emptyAnnot] := by
  rcases char_cases c with hc | rfl | ⟨d, rfl⟩ | rfl | rfl | rfl | ⟨hc, hmark⟩
  · refine Or.inl ⟨.blank (c :: s.takeWhile isBlank), _, ⟨by simp, ?_⟩, stopsAt_dropWhile s,
      firstItem_blank hc s⟩
    simpa [hc] using forall_mem_takeWhile s
  · refine Or.inl ⟨.comment (s.takeWhile (· ≠ '\n')), _, ?_, stopsAt_dropWhile s,
      firstItem_comment s⟩
    intro hmem
    simpa using forall_mem_takeWhile s _ hmem
  · exact Or.inl ⟨.delimiter d, s, trivial, trivial, firstItem_delimiter d s⟩
  · cases hsplit : splitString? s with
    | some pair =>
        exact Or.inl ⟨.string pair.1, pair.2, stringBody_of_splitString? hsplit, trivial,
          firstItem_string_of_some hsplit⟩
    | none => exact Or.inr ⟨_, _, _, firstItem_string_of_none hsplit, by simp⟩
  · exact Or.inl ⟨.quote, s, trivial, trivial, firstItem_quote s⟩
  · by_cases hparen : s.head? = some '('
    · obtain ⟨s, rfl⟩ := List.head?_eq_some_iff.mp hparen
      cases hsplit : splitGroup? 0 s with
      | some pair =>
          have hgroup := (splitGroup?_eq_some_iff.mp hsplit).1
          exact Or.inl ⟨.annot ('(' :: pair.1), pair.2, Or.inr hgroup, endsBefore_group hgroup,
            firstItem_group_of_some hsplit⟩
      | none => exact Or.inr ⟨_, _, _, firstItem_group_of_none hsplit, by simp⟩
    · have hitem := firstItem_annot_of_head_ne hparen
      by_cases hword : s.takeWhile isSymbolChar = []
      · rw [if_pos hword] at hitem
        exact Or.inr ⟨_, _, _, hitem, by simp⟩
      · rw [if_neg hword] at hitem
        exact Or.inl ⟨.annot (s.takeWhile isSymbolChar), _, Or.inl (isWord_takeWhile hword),
          fun _ => stopsAt_dropWhile s, hitem⟩
  · refine Or.inl ⟨.word (c :: s.takeWhile isSymbolChar), _, ⟨⟨by simp, ?_⟩, by simpa using hmark⟩,
      stopsAt_dropWhile s, firstItem_word hc hmark s⟩
    simpa [hc] using forall_mem_takeWhile s

/-! ## What lexemes denote -/

namespace Lexeme

theorem denotes_word_iff {s : Text} {kind : TokenKind} {value : Value} :
    (word s).Denotes kind value ↔
      (Numeral.ofWord? s = none ∧ kind = .symbol ∧ value = .text s) ∨
      ∃ n : Numeral, Numeral.ofWord? s = some n ∧
        ((n.isInteger = true ∧ kind = .int ∧ value = .int n.toInt) ∨
          (n.isInteger = false ∧ kind = .float ∧ value = .float n.toBinary64)) := by
  constructor
  · intro h
    cases h with
    | int l hfraction hexponent =>
        have hinteger := l.isInteger_numeral.mpr ⟨hfraction, hexponent⟩
        exact Or.inr ⟨l.numeral, l.ofWord?_text, Or.inl ⟨hinteger, rfl, rfl⟩⟩
    | float l hpart =>
        have hinteger : l.numeral.isInteger = false := by
          rw [← Bool.not_eq_true, l.isInteger_numeral]
          grind
        exact Or.inr ⟨l.numeral, l.ofWord?_text, Or.inr ⟨hinteger, rfl, rfl⟩⟩
    | symbol hs =>
        have hnone : Numeral.ofWord? s = none := by
          apply Option.eq_none_iff_forall_ne_some.mpr
          intro n hn
          obtain ⟨l, hl, -⟩ := Numeral.ofWord?_eq_some_iff.mp hn
          exact hs l hl
        exact Or.inl ⟨hnone, rfl, rfl⟩
  · rintro (⟨hnone, rfl, rfl⟩ | ⟨n, hn, hcases⟩)
    · refine .symbol ?_
      rintro l rfl
      rw [l.ofWord?_text] at hnone
      cases hnone
    · obtain ⟨l, rfl, rfl⟩ := Numeral.ofWord?_eq_some_iff.mp hn
      rcases hcases with ⟨hinteger, rfl, rfl⟩ | ⟨hinteger, rfl, rfl⟩
      · obtain ⟨hfraction, hexponent⟩ := l.isInteger_numeral.mp hinteger
        exact .int l hfraction hexponent
      · refine .float l ?_
        rw [← Bool.not_eq_true, l.isInteger_numeral] at hinteger
        grind

theorem withinDigitLimit_word_iff {s : Text} :
    (word s).WithinDigitLimit ↔ ∀ n : Numeral, Numeral.ofWord? s = some n → n.isInteger = true →
      n.whole.length ≤ integerDigitLimit := by
  constructor
  · intro h n hn hinteger
    obtain ⟨l, rfl, rfl⟩ := Numeral.ofWord?_eq_some_iff.mp hn
    obtain ⟨hfraction, hexponent⟩ := l.isInteger_numeral.mp hinteger
    exact h l rfl hfraction hexponent
  · intro h l hl hfraction hexponent
    have hinteger := l.isInteger_numeral.mpr ⟨hfraction, hexponent⟩
    exact h l.numeral (word.inj hl ▸ l.ofWord?_text) hinteger

theorem readWord_eq_token_iff {s : Text} {kind : TokenKind} {value : Value} :
    readWord s = .token kind value ↔ (word s).Denotes kind value ∧ (word s).WithinDigitLimit := by
  rw [denotes_word_iff, withinDigitLimit_word_iff]
  unfold readWord
  cases hs : Numeral.ofWord? s with
  | none => grind
  | some n => cases hinteger : n.isInteger <;> grind

theorem withinDigitLimit_of_not_word {x : Lexeme} (hx : ∀ s, x ≠ .word s) : x.WithinDigitLimit :=
  fun l hl _ _ => absurd hl (hx l.text)

/-- A lexeme is read as a token exactly when it denotes that token and can be converted. -/
theorem reading_eq_token_iff {x : Lexeme} {kind : TokenKind} {value : Value} :
    x.reading = .token kind value ↔ x.Denotes kind value ∧ x.WithinDigitLimit := by
  cases x with
  | word s => exact readWord_eq_token_iff
  | blank s => exact ⟨fun h => (by cases h), fun h => (by cases h.1)⟩
  | _ =>
      rw [and_iff_left (withinDigitLimit_of_not_word (by simp))]
      constructor
      · intro h
        cases h
        constructor
      · intro h
        cases h
        rfl

theorem denotes_unique {x : Lexeme} {kind kind' : TokenKind} {value value' : Value}
    (h : x.Denotes kind value) (h' : x.Denotes kind' value') : kind = kind' ∧ value = value' := by
  cases x with
  | word s =>
      rw [denotes_word_iff] at h h'
      grind
  | blank s => cases h
  | _ =>
      cases h
      cases h'
      exact ⟨rfl, rfl⟩

/-- The lexeme that a text is, told by its first character. -/
def ofText : Text → Lexeme
  | [] => .blank []
  | c :: s =>
      if isBlank c then .blank (c :: s)
      else if c = ';' then .comment s
      else
        match Delimiter.ofChar? c with
        | some d => .delimiter d
        | none =>
            if c = '"' then .string s.dropLast
            else if c = '\'' then .quote
            else if c = '#' then .annot s
            else .word (c :: s)

theorem ofText_text {x : Lexeme} (hx : x.WellFormed) : ofText x.text = x := by
  cases x with
  | blank s =>
      obtain ⟨c, s, rfl⟩ := List.exists_cons_of_ne_nil hx.1
      simp [text, ofText, hx.2 c List.mem_cons_self]
  | comment body =>
      have hblank : isBlank ';' = false := by decide
      simp [text, ofText, hblank]
  | delimiter d =>
      have hcomment : d.char ≠ ';' := delimiter_char_ne (by decide) d
      have hchar : Delimiter.ofChar? d.char = some d := Delimiter.ofChar?_eq_some.mpr rfl
      simp [text, ofText, isBlank_delimiter, hcomment, hchar]
  | quote => rfl
  | string body =>
      have hblank : isBlank '"' = false := by decide
      have hdelim : Delimiter.ofChar? '"' = none := by decide
      simp [text, ofText, hblank, hdelim]
  | annot body =>
      have hblank : isBlank '#' = false := by decide
      have hdelim : Delimiter.ofChar? '#' = none := by decide
      simp [text, ofText, hblank, hdelim]
  | word s =>
      obtain ⟨hword, hmark⟩ := hx
      obtain ⟨c, s, rfl⟩ := List.exists_cons_of_ne_nil hword.ne_nil
      have hc := hword.all_symbol c List.mem_cons_self
      obtain ⟨hblank, hdelim, hstring, hcomment, hquote⟩ := isSymbolChar_iff.mp hc
      have hne : c ≠ '#' := by simpa using hmark
      simp [text, ofText, hblank, hdelim, hstring, hcomment, hquote, hne]

theorem text_inj {x y : Lexeme} (hx : x.WellFormed) (hy : y.WellFormed) (h : x.text = y.text) :
    x = y := by
  rw [← ofText_text hx, h, ofText_text hy]

theorem text_ne_nil {x : Lexeme} (hx : x.WellFormed) : x.text ≠ [] := by
  cases x with
  | blank s => exact hx.1
  | word s => exact hx.1.ne_nil
  | _ => simp [text]

/-! ## Where lexemes end -/

theorem endsBefore_nil (x : Lexeme) : x.EndsBefore [] := by
  cases x with
  | annot body => exact fun _ => stopsAt_nil
  | blank s => exact stopsAt_nil
  | comment body => exact stopsAt_nil
  | word s => exact stopsAt_nil
  | _ => trivial

/-- What is denoted ends with its line. -/
theorem Denotes.endsBefore_newline {x : Lexeme} {kind : TokenKind} {value : Value}
    (h : x.Denotes kind value) (s : Text) : x.EndsBefore ('\n' :: s) := by
  have hsymbol : isSymbolChar '\n' = false := by decide
  cases h with
  | comment => exact stopsAt_cons.mpr (by decide)
  | annot => exact fun _ => stopsAt_cons.mpr hsymbol
  | int | float | symbol => exact stopsAt_cons.mpr hsymbol
  | _ => trivial

/-- What is denoted ends where it did when a line is added to the text. -/
theorem Denotes.endsBefore_append {x : Lexeme} {kind : TokenKind} {value : Value} {rest : Text}
    (h : x.Denotes kind value) (hend : x.EndsBefore rest) (s : Text) :
    x.EndsBefore (rest ++ '\n' :: s) := by
  cases rest with
  | nil => exact h.endsBefore_newline s
  | cons c rest =>
      cases h with
      | annot => exact fun hword => stopsAt_cons.mpr (stopsAt_cons.mp (hend hword))
      | comment | int | float | symbol => exact stopsAt_cons.mpr (stopsAt_cons.mp hend)
      | _ => trivial

end Lexeme

end TanSource
