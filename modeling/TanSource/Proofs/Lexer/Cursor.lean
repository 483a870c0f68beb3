import TanSource.Proofs.Lexer.Places
import TanSource.Proofs.Numeral.Conversion

/-!
# Scanning with a cursor

The lexer said as a cursor that steps over one character at a time: each scanner looks at the
character in front, and the value of a token is cut out of the input from the mark on. A step can
run past the end of the input, and a text that is taken for a number can turn out to be none. On a
lexer whose place is one of its input the scan does what `Lexer.tokenize` does, and so neither of
the two happens (`scan_eq_tokenize`).
-/

namespace TanSource

inductive ScanFailure
  | lexical (e : LexError)
  | malformedNumber (digits : Text)
  deriving DecidableEq

structure ScanStop where
  failure : ScanFailure
  lexer : Lexer
  deriving DecidableEq

namespace Lexer

def step (lexer : Lexer) : Except ScanStop Lexer :=
  match lexer.advance 1 with
  | (.ok (), next) => .ok next
  | (.error e, next) => .error ⟨.lexical e, next⟩

/-- The lexer behind a text that stands in front of it. -/
def behind (lexer : Lexer) (passed : Text) : Lexer :=
  { lexer with rest := lexer.rest.drop passed.length, here := lexer.here.after passed }

/-- Stops with a fault of the item that starts at the mark. -/
def fail (lexer : Lexer) (fault : LexFault) : Except ScanStop Lexer :=
  .error ⟨.lexical ⟨fault, lexer.mark⟩, lexer⟩

def add (lexer : Lexer) (kind : TokenKind) (value : Value) : Lexer :=
  { lexer with tokens := lexer.tokens ++ [⟨kind, value, ⟨lexer.mark, lexer.here⟩⟩] }

variable {lexer next : Lexer} {c : Char} {s t : Text}

theorem step_nil (h : lexer.rest = []) :
    lexer.step = .error ⟨.lexical ⟨.pastEnd, lexer.here⟩, lexer⟩ := by
  obtain ⟨input, rest, here, mark, tokens⟩ := lexer
  cases h
  rfl

theorem step_cons (h : lexer.rest = c :: s) : lexer.step = .ok (lexer.behind [c]) := by
  obtain ⟨input, rest, here, mark, tokens⟩ := lexer
  cases h
  rfl

theorem length_rest_of_step (h : lexer.step = .ok next) :
    next.rest.length < lexer.rest.length := by
  cases hrest : lexer.rest with
  | nil =>
      rw [step_nil hrest] at h
      cases h
  | cons c s =>
      rw [step_cons hrest] at h
      cases h
      simp [behind, hrest]

def stepThen (lexer : Lexer)
    (goOn : ∀ next : Lexer, next.rest.length < lexer.rest.length → Except ScanStop Lexer) :
    Except ScanStop Lexer :=
  match h : lexer.step with
  | .ok next => goOn next (length_rest_of_step h)
  | .error stop => .error stop

/-! ## Loops -/

def passWhile (p : Char → Bool) (lexer : Lexer) : Except ScanStop Lexer :=
  if lexer.hasMore ∧ p lexer.current then lexer.stepThen fun next _ => passWhile p next
  else .ok lexer
termination_by lexer.rest.length

/-- Steps up to the double quote that ends a string. A backslash takes the next character with it,
if there is one. -/
def passString (lexer : Lexer) : Except ScanStop Lexer :=
  if lexer.hasMore ∧ lexer.current ≠ '"' then
    lexer.stepThen fun next _ =>
      if lexer.current = '\\' then
        if next.hasMore then next.stepThen fun last _ => passString last else .ok next
      else passString next
  else .ok lexer
termination_by lexer.rest.length

def depthBehind (depth : Int) (c : Char) : Int :=
  if c = '(' then depth + 1 else if c = ')' then depth - 1 else depth

/-- Steps behind the parenthesis with which no group is open any more, `depth` being open in front.
-/
def passGroup (depth : Int) (lexer : Lexer) : Except ScanStop Lexer :=
  if lexer.hasMore then
    let depth := depthBehind depth lexer.current
    if lexer.current = ')' ∧ depth = 0 then lexer.step
    else lexer.stepThen fun next _ => passGroup depth next
  else lexer.fail .unterminatedAnnot
termination_by lexer.rest.length

/-! ## Scanners -/

def scanComment (lexer : Lexer) : Except ScanStop Lexer := do
  let lexer ← lexer.passWhile (· ≠ '\n')
  return lexer.add .comment (.text lexer.sinceMark)

def scanString (lexer : Lexer) : Except ScanStop Lexer := do
  let lexer ← lexer.step
  let lexer ← lexer.passString
  if lexer.hasMore then
    let lexer ← lexer.step
    return lexer.add .string (.text (lexer.sinceMark.drop 1).dropLast)
  else lexer.fail .unterminatedString

def passAnnot (lexer : Lexer) : Except ScanStop Lexer :=
  if lexer.current = '(' then lexer.passGroup 0 else lexer.passWhile isSymbolChar

def scanAnnot (lexer : Lexer) : Except ScanStop Lexer := do
  let lexer ← lexer.step
  let lexer ← lexer.passAnnot
  let text := lexer.sinceMark.drop 1
  if text = [] then lexer.fail .emptyAnnot else return lexer.add .annot (.text text)

/-- Adds the token of a word. A number is converted from its digits without the underscores. -/
def addWord (lexer : Lexer) : Except ScanStop Lexer :=
  let word := lexer.sinceMark
  if (Numeral.ofWord? word).isSome then
    let digits := Numeral.partDigits word
    match convertNumber digits with
    | .ok (kind, value) => .ok (lexer.add kind value)
    | .error (.tooManyDigits count) => lexer.fail (.tooManyDigits count)
    | .error .malformed => .error ⟨.malformedNumber digits, lexer⟩
  else .ok (lexer.add .symbol (.text word))

def scanWord (lexer : Lexer) : Except ScanStop Lexer := do
  let lexer ← lexer.passWhile isSymbolChar
  lexer.addWord

def scanItem (lexer : Lexer) : Except ScanStop Lexer :=
  let c := lexer.current
  let lexer := lexer.markHere
  if isBlank c then lexer.passWhile isBlank
  else if c = ';' then lexer.scanComment
  else
    match Delimiter.ofChar? c with
    | some d => do
        let lexer ← lexer.step
        return lexer.add (.delimiter d) .absent
    | none =>
        if c = '"' then lexer.scanString
        else if c = '\'' then do
          let lexer ← lexer.step
          return lexer.add .quote .absent
        else if c = '#' then lexer.scanAnnot
        else lexer.scanWord

/-! ## The text that a loop passes -/

theorem rest_behind (h : lexer.rest = s ++ t) : (lexer.behind s).rest = t := by
  rw [behind, h, List.drop_left]

theorem behind_nil (lexer : Lexer) : lexer.behind [] = lexer :=
  rfl

theorem behind_behind (lexer : Lexer) (s t : Text) :
    (lexer.behind s).behind t = lexer.behind (s ++ t) := by
  simp [behind, Position.after_append]

theorem hasMore_nil (h : lexer.rest = []) : lexer.hasMore = false := by
  rw [hasMore, h]
  rfl

theorem hasMore_cons (h : lexer.rest = c :: s) : lexer.hasMore = true := by
  rw [hasMore, h]
  rfl

theorem exists_rest_of_hasMore (h : lexer.hasMore = true) : ∃ c s, lexer.rest = c :: s := by
  cases hrest : lexer.rest with
  | nil =>
      rw [hasMore_nil hrest] at h
      cases h
  | cons c s => exact ⟨c, s, rfl⟩

theorem current_cons (h : lexer.rest = c :: s) : lexer.current = c := by
  rw [current, h]
  rfl

theorem stepThen_cons (h : lexer.rest = c :: s)
    (goOn : ∀ next : Lexer, next.rest.length < lexer.rest.length → Except ScanStop Lexer) :
    lexer.stepThen goOn = goOn (lexer.behind [c]) (length_rest_of_step (step_cons h)) := by
  unfold stepThen
  split
  · next hstep =>
      rw [step_cons h] at hstep
      cases hstep
      rfl
  · next hstep =>
      rw [step_cons h] at hstep
      cases hstep

theorem head?_rest_of_current (h : lexer.current = c) (hc : c ≠ '\x00') :
    lexer.rest.head? = some c := by
  unfold current at h
  cases hrest : lexer.rest with
  | nil =>
      rw [hrest] at h
      exact absurd h.symm hc
  | cons d s =>
      rw [hrest] at h
      exact congrArg some h

theorem passWhile_eq (p : Char → Bool) (h : lexer.rest = s) :
    lexer.passWhile p = .ok (lexer.behind (s.takeWhile p)) := by
  induction s generalizing lexer with
  | nil =>
      rw [passWhile, hasMore_nil h, if_neg (by simp)]
      rfl
  | cons c s ih =>
      have hrest : (lexer.behind [c]).rest = s := rest_behind h
      rw [passWhile, hasMore_cons h, current_cons h]
      by_cases hc : p c = true
      · rw [if_pos ⟨rfl, hc⟩, stepThen_cons h, ih hrest, behind_behind,
          List.takeWhile_cons_of_pos hc]
        rfl
      · rw [if_neg (by simpa using hc), List.takeWhile_cons_of_neg hc, behind_nil]

/-- The string loop stops in front of the double quote that ends the string, or at the end. -/
theorem passString_eq (h : lexer.rest = s) :
    lexer.passString = .ok (lexer.behind ((splitString? s).elim s Prod.fst)) := by
  fun_induction splitString? s generalizing lexer with
  | case1 =>
      rw [passString, hasMore_nil h, if_neg (by simp)]
      rfl
  | case2 =>
      have hrest : (lexer.behind ['\\']).rest = [] := rest_behind h
      rw [passString, hasMore_cons h, current_cons h, if_pos (by decide), stepThen_cons h,
        if_pos rfl, hasMore_nil hrest]
      rfl
  | case3 c rest ih =>
      have hrest : (lexer.behind ['\\']).rest = c :: rest := rest_behind h
      have hlast : ((lexer.behind ['\\']).behind [c]).rest = rest := rest_behind hrest
      rw [passString, hasMore_cons h, current_cons h, if_pos (by decide), stepThen_cons h,
        if_pos rfl, if_pos (hasMore_cons hrest), stepThen_cons hrest, ih hlast, behind_behind,
        behind_behind]
      cases splitString? rest <;> rfl
  | case4 rest =>
      rw [passString, current_cons h, if_neg (by simp)]
      rfl
  | case5 c rest hlast hescape hquote ih =>
      have hrest : (lexer.behind [c]).rest = rest := rest_behind h
      have hbackslash : c ≠ '\\' := by
        rintro rfl
        cases rest with
        | nil => exact hlast rfl rfl
        | cons d rest => exact hescape d rest rfl rfl
      rw [passString, hasMore_cons h, current_cons h, if_pos ⟨rfl, hquote⟩, stepThen_cons h,
        if_neg hbackslash, ih hrest, behind_behind]
      cases splitString? rest <;> rfl

/-- What the loop over a group comes to in front of a text, which is split behind the group. -/
def groupEnd (lexer : Lexer) (s : Text) : Option (Text × Text) → Except ScanStop Lexer
  | some (body, _) => .ok (lexer.behind body)
  | none => (lexer.behind s).fail .unterminatedAnnot

theorem groupEnd_cons (lexer : Lexer) (c : Char) (s : Text) (split? : Option (Text × Text)) :
    (lexer.behind [c]).groupEnd s split? =
      lexer.groupEnd (c :: s) (split?.map fun (body, after) => (c :: body, after)) := by
  cases split? with
  | none => simp only [Option.map_none, groupEnd, behind_behind, List.singleton_append]
  | some split => simp only [Option.map_some, groupEnd, behind_behind, List.singleton_append]

/-- The loop over a group, of which some parentheses are open, stops behind the one that closes the
outermost of them, and fails at the end. -/
theorem passGroup_eq (depth : Nat) (h : lexer.rest = s) :
    lexer.passGroup (depth + 1) = lexer.groupEnd s (splitGroup? depth s) := by
  fun_induction splitGroup? depth s generalizing lexer with
  | case1 =>
      rw [passGroup, hasMore_nil h]
      rfl
  | case2 rest =>
      have hdepth : depthBehind ((0 : Nat) + 1) ')' = 0 := rfl
      rw [passGroup, if_pos (hasMore_cons h), current_cons h, hdepth, if_pos ⟨rfl, rfl⟩,
        step_cons h, groupEnd]
  | case3 rest outer ih =>
      have hrest : (lexer.behind [')']).rest = rest := rest_behind h
      have hdepth : depthBehind ((outer + 1 : Nat) + 1) ')' = outer + 1 := by
        rw [depthBehind, if_neg (by decide), if_pos rfl]
        omega
      rw [passGroup, if_pos (hasMore_cons h), current_cons h, hdepth, if_neg (by omega),
        stepThen_cons h, ih hrest, groupEnd_cons]
  | case4 depth c rest hc ih =>
      have hrest : (lexer.behind [c]).rest = rest := rest_behind h
      have hdepth : depthBehind (depth + 1) c =
          (if c = '(' then depth + 1 else depth : Nat) + 1 := by
        rw [depthBehind, if_neg hc]
        split <;> rfl
      rw [passGroup, if_pos (hasMore_cons h), current_cons h, hdepth, if_neg fun h => hc h.1,
        stepThen_cons h, ih hrest, groupEnd_cons]

theorem passGroup_opening (h : lexer.rest = '(' :: s) :
    lexer.passGroup 0 = (lexer.behind ['(']).groupEnd s (splitGroup? 0 s) := by
  have hrest : (lexer.behind ['(']).rest = s := rest_behind h
  have hdepth : depthBehind 0 '(' = (0 : Nat) + 1 := rfl
  rw [passGroup, if_pos (hasMore_cons h), current_cons h, hdepth, if_neg (by decide),
    stepThen_cons h, passGroup_eq 0 hrest]

/-! ## One item -/

/-- The lexer stands at a place of its input and has it marked. -/
structure AtMark (lexer : Lexer) : Prop where
  here : lexer.here.InFrontOf lexer.rest lexer.input
  mark : lexer.mark = lexer.here

theorem atMark_markHere (h : lexer.here.InFrontOf lexer.rest lexer.input) :
    lexer.markHere.AtMark :=
  ⟨h, rfl⟩

theorem AtMark.sinceMark_behind (hat : lexer.AtMark) (h : lexer.rest = s ++ t) :
    (lexer.behind s).sinceMark = s := by
  obtain ⟨⟨passed, hinput, hhere⟩, hmark⟩ := hat
  have hindex : ({} : Position).index + passed.length = passed.length := Nat.zero_add _
  simp only [sinceMark, behind, hmark, hhere, ← hinput, h, Position.index_after, hindex,
    List.take_length_add_append, List.drop_left, List.take_left]

def settle (lexer : Lexer) : Reading → Except ScanStop Lexer
  | .blank => .ok lexer
  | .token kind value => .ok (lexer.add kind value)
  | .fault fault => lexer.fail fault

def afterItem (lexer : Lexer) (item : Item) : Except ScanStop Lexer :=
  (lexer.behind item.lexeme).settle item.reading

theorem rest_eq_run (h : lexer.rest = c :: s) (p : Char → Bool) :
    lexer.rest = (c :: s.takeWhile p) ++ s.dropWhile p := by
  rw [h, List.cons_append, List.takeWhile_append_dropWhile]

theorem scanComment_eq (hat : lexer.AtMark) (h : lexer.rest = ';' :: s) :
    lexer.scanComment = lexer.afterItem (firstItem ';' s) := by
  have hpassed := passWhile_eq (· ≠ '\n') h
  rw [List.takeWhile_cons_of_pos (by decide)] at hpassed
  have htext := rest_eq_run h (· ≠ '\n')
  rw [scanComment, hpassed, firstItem_comment]
  simp only [bind, Except.bind, hat.sinceMark_behind htext]
  rfl

theorem scanString_eq (hat : lexer.AtMark) (h : lexer.rest = '"' :: s) :
    lexer.scanString = lexer.afterItem (firstItem '"' s) := by
  have hopened : (lexer.behind ['"']).rest = s := rest_behind h
  rw [scanString, step_cons h]
  simp only [bind, Except.bind, passString_eq hopened, behind_behind]
  cases hsplit : splitString? s with
  | none =>
      have hrest : (lexer.behind (['"'] ++ s)).rest = [] := rest_behind (by simp [h])
      simp only [Option.elim_none, hasMore_nil hrest, Bool.false_eq_true, if_false]
      rw [firstItem_string_of_none hsplit]
      rfl
  | some split =>
      obtain ⟨body, after⟩ := split
      have hs := append_of_splitString? hsplit
      have hquote : (lexer.behind (['"'] ++ body)).rest = '"' :: after :=
        rest_behind (by simp [h, ← hs])
      have htext : lexer.rest = (['"'] ++ body ++ ['"']) ++ after := by simp [h, ← hs]
      simp only [Option.elim_some, hasMore_cons hquote, if_true, step_cons hquote, behind_behind,
        hat.sinceMark_behind htext]
      rw [firstItem_string_of_some hsplit]
      simp [pure, Except.pure, afterItem, settle]

theorem scanAnnot_eq (hat : lexer.AtMark) (h : lexer.rest = '#' :: s) :
    lexer.scanAnnot = lexer.afterItem (firstItem '#' s) := by
  have hrest : (lexer.behind ['#']).rest = s := rest_behind h
  rw [scanAnnot, step_cons h]
  by_cases hgroup : s.head? = some '('
  · obtain ⟨s, rfl⟩ : ∃ inner, s = '(' :: inner := List.head?_eq_some_iff.mp hgroup
    simp only [bind, Except.bind, passAnnot, current_cons hrest, if_true,
      passGroup_opening hrest, behind_behind]
    cases hsplit : splitGroup? 0 s with
    | none =>
        rw [firstItem_group_of_none hsplit]
        simp [groupEnd, behind_behind, afterItem, settle, fail]
    | some split =>
        obtain ⟨body, after⟩ := split
        have htext : lexer.rest = ('#' :: '(' :: body) ++ after := by
          rw [h, ← append_of_splitGroup? hsplit]
          rfl
        rw [firstItem_group_of_some hsplit]
        simp [groupEnd, behind_behind, hat.sinceMark_behind htext, pure, Except.pure, afterItem,
          settle]
  · have hcurrent : (lexer.behind ['#']).current ≠ '(' := by
      intro heq
      exact hgroup (hrest ▸ head?_rest_of_current heq (by decide))
    have htext := rest_eq_run h isSymbolChar
    simp only [bind, Except.bind, passAnnot, hcurrent, if_false,
      passWhile_eq isSymbolChar hrest, behind_behind, List.singleton_append,
      hat.sinceMark_behind htext]
    rw [firstItem_annot_of_head_ne hgroup]
    by_cases hempty : s.takeWhile isSymbolChar = []
    · simp [hempty, afterItem, settle]
    · simp [hempty, pure, Except.pure, afterItem, settle]

theorem addWord_eq (hat : lexer.AtMark) (h : lexer.rest = s ++ t) :
    (lexer.behind s).addWord = lexer.afterItem ⟨s, readWord s, t⟩ := by
  rw [addWord, hat.sinceMark_behind h]
  unfold readWord
  cases hn : Numeral.ofWord? s with
  | none => rfl
  | some n =>
      simp only [Option.isSome_some, if_true, convertNumber_of_numeral hn]
      cases n.isInteger with
      | false => rfl
      | true =>
        by_cases hlimit : integerDigitLimit < n.whole.length
        · simp [hlimit, afterItem, settle]
        · simp [hlimit, afterItem, settle]

theorem scanWord_eq (hat : lexer.AtMark) (h : lexer.rest = c :: s) (hc : isSymbolChar c = true)
    (hmark : c ≠ '#') : lexer.scanWord = lexer.afterItem (firstItem c s) := by
  have hpassed := passWhile_eq isSymbolChar h
  rw [List.takeWhile_cons_of_pos hc] at hpassed
  rw [scanWord, hpassed, firstItem_word hc hmark]
  exact addWord_eq hat (rest_eq_run h isSymbolChar)

theorem scanItem_delimiter {d : Delimiter} (h : lexer.rest = d.char :: s) :
    lexer.scanItem = do return (← lexer.markHere.step).add (.delimiter d) .absent := by
  have hcomment : d.char ≠ ';' := delimiter_char_ne (by decide) d
  have hchar : Delimiter.ofChar? d.char = some d := Delimiter.ofChar?_eq_some.mpr rfl
  simp only [scanItem, current_cons h, isBlank_delimiter, Bool.false_eq_true, if_false, hcomment,
    hchar]

theorem scanItem_word (h : lexer.rest = c :: s) (hc : isSymbolChar c = true) (hmark : c ≠ '#') :
    lexer.scanItem = lexer.markHere.scanWord := by
  obtain ⟨hblank, hdelim, hstring, hcomment, hquote⟩ := isSymbolChar_iff.mp hc
  simp only [scanItem, current_cons h, hblank, Bool.false_eq_true, if_false, hcomment, hdelim,
    hstring, hquote, hmark]

/-- The scan of one item moves the lexer behind it and adds its token, or reports its fault. -/
theorem scanItem_eq (hhere : lexer.here.InFrontOf lexer.rest lexer.input)
    (h : lexer.rest = c :: s) :
    lexer.scanItem = lexer.markHere.afterItem (firstItem c s) := by
  have hat := atMark_markHere hhere
  have hmarked : lexer.markHere.rest = c :: s := h
  rcases char_cases c with hc | rfl | ⟨d, rfl⟩ | rfl | rfl | rfl | ⟨hc, hmark⟩
  · rw [scanItem, current_cons h, if_pos hc, passWhile_eq isBlank hmarked, firstItem_blank hc,
      List.takeWhile_cons_of_pos hc]
    rfl
  · rw [scanItem, current_cons h]
    exact scanComment_eq hat hmarked
  · rw [scanItem_delimiter h, step_cons hmarked, firstItem_delimiter]
    rfl
  · rw [scanItem, current_cons h]
    exact scanString_eq hat hmarked
  · rw [scanItem, current_cons h, step_cons hmarked, firstItem_quote]
    rfl
  · rw [scanItem, current_cons h]
    exact scanAnnot_eq hat hmarked
  · rw [scanItem_word h hc hmark]
    exact scanWord_eq hat hmarked hc hmark

/-! ## All items -/

/-- A lexer that the outcome leaves has fewer characters in front than the number says. -/
def EndsBelow (n : Nat) (outcome : Except ScanStop Lexer) : Prop :=
  ∀ next, outcome = .ok next → next.rest.length < n

section

variable {n : Nat}

theorem endsBelow_ok (h : lexer.rest.length < n) : EndsBelow n (.ok lexer) := by
  intro next heq
  cases heq
  exact h

theorem endsBelow_error (stop : ScanStop) : EndsBelow n (.error stop) :=
  fun _ heq => nomatch heq

theorem EndsBelow.bind {outcome : Except ScanStop Lexer} {goOn : Lexer → Except ScanStop Lexer}
    (h : EndsBelow n outcome) (hgo : ∀ next, next.rest.length < n → EndsBelow n (goOn next)) :
    EndsBelow n (outcome >>= goOn) := by
  cases outcome with
  | error stop => exact endsBelow_error stop
  | ok next => exact hgo next (h next rfl)

theorem endsBelow_step (h : lexer.rest.length ≤ n) : EndsBelow n lexer.step :=
  fun _ hstep => Nat.lt_of_lt_of_le (length_rest_of_step hstep) h

theorem endsBelow_stepThen
    {goOn : ∀ next : Lexer, next.rest.length < lexer.rest.length → Except ScanStop Lexer}
    (h : ∀ next hnext, EndsBelow n (goOn next hnext)) : EndsBelow n (lexer.stepThen goOn) := by
  unfold stepThen
  split
  · exact h _ _
  · exact endsBelow_error _

theorem length_rest_behind_le (lexer : Lexer) (s : Text) :
    (lexer.behind s).rest.length ≤ lexer.rest.length := by
  rw [behind, List.length_drop]
  exact Nat.sub_le _ _

theorem endsBelow_behind (h : lexer.rest.length < n) (s : Text) :
    EndsBelow n (.ok (lexer.behind s)) :=
  endsBelow_ok (Nat.lt_of_le_of_lt (lexer.length_rest_behind_le s) h)

theorem endsBelow_passWhile (p : Char → Bool) (h : lexer.rest.length < n) :
    EndsBelow n (lexer.passWhile p) := by
  rw [passWhile_eq p rfl]
  exact endsBelow_behind h _

theorem endsBelow_passString (h : lexer.rest.length < n) : EndsBelow n lexer.passString := by
  rw [passString_eq rfl]
  exact endsBelow_behind h _

theorem endsBelow_passGroup (depth : Int) (h : lexer.rest.length < n) :
    EndsBelow n (lexer.passGroup depth) := by
  fun_induction passGroup depth lexer with
  | case1 => exact endsBelow_step (Nat.le_of_lt h)
  | case2 depth lexer hmore inner hinner ih =>
      exact endsBelow_stepThen fun next hnext => ih next hnext (Nat.lt_trans hnext h)
  | case3 => exact endsBelow_error _

theorem endsBelow_passWhile_of_cons {p : Char → Bool} (h : lexer.rest = c :: s)
    (hc : p c = true) : EndsBelow lexer.rest.length (lexer.passWhile p) := by
  rw [passWhile, hasMore_cons h, current_cons h, if_pos ⟨rfl, hc⟩]
  exact endsBelow_stepThen fun next hnext => endsBelow_passWhile p hnext

theorem endsBelow_scanString : EndsBelow lexer.rest.length lexer.scanString := by
  refine (endsBelow_step (Nat.le_refl _)).bind fun next hnext => ?_
  refine (endsBelow_passString hnext).bind fun next hnext => ?_
  split
  · exact (endsBelow_step (Nat.le_of_lt hnext)).bind fun next hnext => endsBelow_ok hnext
  · exact endsBelow_error _

theorem endsBelow_passAnnot (h : lexer.rest.length < n) :
    EndsBelow n lexer.passAnnot := by
  unfold passAnnot
  split
  · exact endsBelow_passGroup 0 h
  · exact endsBelow_passWhile isSymbolChar h

theorem endsBelow_scanAnnot : EndsBelow lexer.rest.length lexer.scanAnnot := by
  refine (endsBelow_step (Nat.le_refl _)).bind fun next hnext => ?_
  refine (endsBelow_passAnnot hnext).bind fun next hnext => ?_
  dsimp only
  split
  · exact endsBelow_error _
  · exact endsBelow_ok hnext

theorem endsBelow_addWord (h : lexer.rest.length < n) : EndsBelow n lexer.addWord := by
  unfold addWord
  dsimp only
  split
  · split
    · exact endsBelow_ok h
    · exact endsBelow_error _
    · exact endsBelow_error _
  · exact endsBelow_ok h

/-- The scan of an item takes at least one character. -/
theorem endsBelow_scanItem (hmore : lexer.hasMore = true) :
    EndsBelow lexer.rest.length lexer.scanItem := by
  obtain ⟨c, s, h⟩ := exists_rest_of_hasMore hmore
  have hmarked : lexer.markHere.rest = c :: s := h
  have hstep : EndsBelow lexer.rest.length lexer.markHere.step := endsBelow_step (Nat.le_refl _)
  rcases char_cases c with hc | rfl | ⟨d, rfl⟩ | rfl | rfl | rfl | ⟨hc, hmark⟩
  · rw [scanItem, current_cons h, if_pos hc]
    exact endsBelow_passWhile_of_cons hmarked hc
  · rw [scanItem, current_cons h]
    have hpassed := endsBelow_passWhile_of_cons (p := (· ≠ '\n')) hmarked (by decide)
    exact hpassed.bind fun next hnext => endsBelow_ok hnext
  · rw [scanItem_delimiter h]
    exact hstep.bind fun next hnext => endsBelow_ok hnext
  · rw [scanItem, current_cons h]
    exact endsBelow_scanString
  · rw [scanItem, current_cons h]
    exact hstep.bind fun next hnext => endsBelow_ok hnext
  · rw [scanItem, current_cons h]
    exact endsBelow_scanAnnot
  · rw [scanItem_word h hc hmark]
    exact (endsBelow_passWhile_of_cons hmarked hc).bind fun next => endsBelow_addWord

end

def scan (lexer : Lexer) : Except ScanStop Lexer :=
  if _ : lexer.hasMore then
    match _ : lexer.scanItem with
    | .ok next => next.scan
    | .error stop => .error stop
  else .ok lexer
termination_by lexer.rest.length
decreasing_by exact endsBelow_scanItem ‹_› _ ‹_›

theorem scan_eq_bind (hmore : lexer.hasMore = true) : lexer.scan = lexer.scanItem.bind scan := by
  rw [scan, dif_pos hmore]
  split <;> next heq => rw [heq]; rfl

theorem scanItem_of_firstItem {input lexeme : Text} {here : Position} {reading : Reading}
    (hhere : here.InFrontOf (c :: s) input) (hitem : firstItem c s = ⟨lexeme, reading, t⟩)
    (mark : Position) (tokens : List Token) :
    scanItem ⟨input, c :: s, here, mark, tokens⟩ =
      settle ⟨input, t, here.after lexeme, here, tokens⟩ reading := by
  have hscan : (⟨input, c :: s, here, mark, tokens⟩ : Lexer).scanItem = _ :=
    scanItem_eq hhere rfl
  have htext := firstItem_append c s
  rw [hitem] at hscan htext
  rw [hscan]
  simp only [afterItem, markHere, behind, ← htext, List.drop_left]

/-- What a run of the lexer comes to, as an outcome of a scan. -/
def afterScan (lexer : Lexer) (run : LexRun) : Except ScanStop Lexer :=
  match run.error? with
  | none => .ok (lexer.afterRun run)
  | some e => .error ⟨.lexical e, lexer.afterRun run⟩

theorem scan_eq_run (hhere : lexer.here.InFrontOf lexer.rest lexer.input) :
    lexer.scan = lexer.afterScan lexer.run := by
  obtain ⟨input, rest, here, mark, tokens⟩ := lexer
  unfold run
  dsimp only at hhere ⊢
  induction mark, here, rest using lexFrom_induction generalizing tokens with
  | nil mark here =>
      rw [lexFrom_nil, scan, dif_neg (by simp [hasMore])]
      simp [afterScan, afterRun]
  | blank mark here c s lexeme rest hitem ih =>
      have hscan := scanItem_of_firstItem hhere hitem mark tokens
      rw [scan_eq_bind rfl, hscan, lexFrom_of_blank mark here hitem]
      exact ih _ (hhere.next hitem).1
  | token mark here c s lexeme kind value rest hitem ih =>
      have hscan := scanItem_of_firstItem hhere hitem mark tokens
      rw [scan_eq_bind rfl, hscan, lexFrom_of_token mark here hitem]
      refine (ih _ (hhere.next hitem).1).trans ?_
      simp [afterScan, afterRun]
  | fault mark here c s lexeme f rest hitem =>
      have hscan := scanItem_of_firstItem hhere hitem mark tokens
      rw [scan_eq_bind rfl, hscan, lexFrom_of_fault mark here hitem]
      simp [afterScan, afterRun, settle, fail, Except.bind]

/-- From a place of its input on, a lexer that scans with a cursor ends as the one that cuts off
items: with the same tokens, at the same place and with the same error. -/
theorem scan_eq_tokenize (hhere : lexer.here.InFrontOf lexer.rest lexer.input) :
    lexer.scan =
      match lexer.tokenize with
      | (.ok _, next) => .ok next
      | (.error e, next) => .error ⟨.lexical e, next⟩ := by
  rw [scan_eq_run hhere, tokenize, afterScan]
  cases lexer.run.error? <;> rfl

end Lexer

end TanSource
