import TanSource.Numeral

/-!
# The first item of a text

A text is a row of items: blank stretches, comments, strings, delimiters, quote marks, annotations
and words. `firstItem` cuts the first one off. Its lexeme and the rest are the text again, and the
lexeme is never empty, which is why cutting items off comes to an end.
-/

namespace TanSource

inductive LexFault
  | unterminatedString
  | unterminatedAnnot
  | emptyAnnot
  | pastEnd
  | tooManyDigits (count : Nat)
  deriving DecidableEq

inductive Reading
  | blank
  | token (kind : TokenKind) (value : Value)
  | fault (f : LexFault)
  deriving DecidableEq

structure Item where
  lexeme : Text
  reading : Reading
  rest : Text
  deriving DecidableEq

def Delimiter.ofChar? : Char → Option Delimiter
  | '(' => some (.opening .paren)
  | ')' => some (.closing .paren)
  | '[' => some (.opening .square)
  | ']' => some (.closing .square)
  | '{' => some (.opening .brace)
  | '}' => some (.closing .brace)
  | _ => none

theorem Delimiter.ofChar?_eq_some {c : Char} {d : Delimiter} :
    Delimiter.ofChar? c = some d ↔ c = d.char := by
  constructor
  · intro h
    unfold ofChar? at h
    split at h <;> cases h <;> rfl
  · rintro rfl
    rcases d with family | family <;> cases family <;> rfl

/-- The characters of words: all but blanks, delimiters, both kinds of quotes and the semicolon. -/
def isSymbolChar (c : Char) : Bool :=
  !(isBlank c || (Delimiter.ofChar? c).isSome || c = '"' || c = ';' || c = '\'')

/-- Splits behind the double quote that ends a string: what is in front of it, and what follows. A
backslash takes the next character with it. -/
def splitString? : Text → Option (Text × Text)
  | [] => none
  | ['\\'] => none
  | '\\' :: c :: rest => (splitString? rest).map fun (body, after) => ('\\' :: c :: body, after)
  | c :: rest =>
      if c = '"' then some ([], rest)
      else (splitString? rest).map fun (body, after) => (c :: body, after)

/-- Splits behind the parenthesis that closes a group, with `depth` groups open inside it. -/
def splitGroup? : Nat → Text → Option (Text × Text)
  | _, [] => none
  | depth, c :: rest =>
      if c = ')' then
        match depth with
        | 0 => some ([c], rest)
        | outer + 1 => (splitGroup? outer rest).map fun (body, after) => (c :: body, after)
      else
        (splitGroup? (if c = '(' then depth + 1 else depth) rest).map fun (body, after) =>
          (c :: body, after)

def readWord (word : Text) : Reading :=
  match Numeral.ofWord? word with
  | none => .token .symbol (.text word)
  | some n =>
      if n.isInteger then
        if integerDigitLimit < n.whole.length then .fault (.tooManyDigits n.whole.length)
        else .token .int (.int n.toInt)
      else .token .float (.float n.toBinary64)

def annotationItem (s : Text) : Item :=
  match s with
  | '(' :: rest =>
      match splitGroup? 0 rest with
      | some (body, after) =>
          ⟨'#' :: '(' :: body, .token .annot (.text ('(' :: body)), after⟩
      | none => ⟨'#' :: s, .fault .unterminatedAnnot, []⟩
  | _ =>
      let word := s.takeWhile isSymbolChar
      let reading : Reading :=
        if word = [] then .fault .emptyAnnot else .token .annot (.text word)
      ⟨'#' :: word, reading, s.dropWhile isSymbolChar⟩

def firstItem (c : Char) (s : Text) : Item :=
  if isBlank c then ⟨c :: s.takeWhile isBlank, .blank, s.dropWhile isBlank⟩
  else if c = ';' then
    let comment := c :: s.takeWhile (· ≠ '\n')
    ⟨comment, .token .comment (.text comment), s.dropWhile (· ≠ '\n')⟩
  else
    match Delimiter.ofChar? c with
    | some d => ⟨[c], .token (.delimiter d) .absent, s⟩
    | none =>
        if c = '"' then
          match splitString? s with
          | some (body, after) => ⟨c :: (body ++ ['"']), .token .string (.text body), after⟩
          | none => ⟨c :: s, .fault .unterminatedString, []⟩
        else if c = '\'' then ⟨[c], .token .quote .absent, s⟩
        else if c = '#' then annotationItem s
        else
          let word := c :: s.takeWhile isSymbolChar
          ⟨word, readWord word, s.dropWhile isSymbolChar⟩

theorem append_of_splitString? {s body after : Text} (h : splitString? s = some (body, after)) :
    body ++ '"' :: after = s := by
  fun_induction splitString? s generalizing body after with
  | case1 => cases h
  | case2 => cases h
  | case3 c rest ih =>
      obtain ⟨⟨b, a⟩, hr, he⟩ := Option.map_eq_some_iff.mp h
      cases he
      simp [ih hr]
  | case4 rest =>
      cases h
      rfl
  | case5 c rest _ _ _ ih =>
      obtain ⟨⟨b, a⟩, hr, he⟩ := Option.map_eq_some_iff.mp h
      cases he
      simp [ih hr]

theorem append_of_splitGroup? {depth : Nat} {s body after : Text}
    (h : splitGroup? depth s = some (body, after)) : body ++ after = s := by
  fun_induction splitGroup? depth s generalizing body after with
  | case1 => cases h
  | case2 rest =>
      cases h
      rfl
  | case3 rest outer ih =>
      obtain ⟨⟨b, a⟩, hr, he⟩ := Option.map_eq_some_iff.mp h
      cases he
      simp [ih hr]
  | case4 depth c rest _ ih =>
      obtain ⟨⟨b, a⟩, hr, he⟩ := Option.map_eq_some_iff.mp h
      cases he
      simp [ih hr]

theorem annotationItem_append (s : Text) :
    (annotationItem s).lexeme ++ (annotationItem s).rest = '#' :: s := by
  unfold annotationItem
  split
  · split
    · rename_i h
      simp [append_of_splitGroup? h]
    · simp
  · simp

/-- No character is lost: an item and the rest are the text. -/
theorem firstItem_append (c : Char) (s : Text) :
    (firstItem c s).lexeme ++ (firstItem c s).rest = c :: s := by
  unfold firstItem
  split
  · simp
  · split
    · simp
    · split
      · simp
      · split
        · split
          · rename_i h
            simp [append_of_splitString? h]
          · simp
        · split
          · simp
          · split
            · rename_i h
              rw [h]
              exact annotationItem_append s
            · simp

theorem annotationItem_lexeme_ne_nil (s : Text) : (annotationItem s).lexeme ≠ [] := by
  unfold annotationItem
  split
  · split <;> simp
  · simp

/-- An item takes at least one character. -/
theorem firstItem_lexeme_ne_nil (c : Char) (s : Text) : (firstItem c s).lexeme ≠ [] := by
  unfold firstItem
  split
  · simp
  · split
    · simp
    · split
      · simp
      · split
        · split <;> simp
        · split
          · simp
          · split
            · exact annotationItem_lexeme_ne_nil s
            · simp

/-- The rest behind an item is shorter than the text. -/
theorem length_firstItem_rest (c : Char) (s : Text) :
    (firstItem c s).rest.length < (c :: s).length := by
  have h := congrArg List.length (firstItem_append c s)
  have hn := List.length_pos_iff.mpr (firstItem_lexeme_ne_nil c s)
  rw [List.length_append] at h
  omega

end TanSource
