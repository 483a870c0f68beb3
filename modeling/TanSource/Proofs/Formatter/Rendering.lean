import TanSource.Proofs.Formatter.Sweep

/-!
# The output, token by token

What a pass writes is written from left to right: each token gives a piece of text that depends on
the brackets that are open in front of it alone. One step of a sweep is `exists_advances`; from it a
pass comes to its end exactly on the rows of tokens that `Admits` describes, and then its text is
that of `render` (`sweep_of_admits`, `sweep_of_not_admits`). For a fresh formatter this is
`format_eq_ok_iff_pieces`.
-/

namespace TanSource

/-! ## Brackets that are open -/

namespace Token

/-- The open brackets behind the token, the innermost first. A closing one that does not fit is
ignored. -/
def shift (t : Token) (brackets : List Bracket) : List Bracket :=
  match t.kind with
  | .opening family => family :: brackets
  | .closing family => if brackets.head? = some family then brackets.tail else brackets
  | _ => brackets

def isStray (t : Token) (brackets : List Bracket) : Bool :=
  match t.kind with
  | .closing family => brackets.head? ≠ some family
  | _ => false

variable {t : Token} {family : Bracket}

theorem shift_opening (ht : t.kind = .opening family) (brackets : List Bracket) :
    t.shift brackets = family :: brackets := by
  simp only [shift, ht]

theorem shift_closing (ht : t.kind = .closing family) (brackets : List Bracket) :
    t.shift (family :: brackets) = brackets := by
  simp only [shift, ht, List.head?_cons, if_true, List.tail_cons]

theorem shift_stray (ht : t.kind = .closing family) {brackets : List Bracket}
    (hfamily : brackets.head? ≠ some family) : t.shift brackets = brackets := by
  simp only [shift, ht, if_neg hfamily]

theorem shift_leaf (ht : t.IsLeaf) (brackets : List Bracket) : t.shift brackets = brackets := by
  unfold shift
  split
  · next h => exact absurd h (ht _)
  · next h => exact absurd h (ht _)
  · rfl

theorem isStray_closing (ht : t.kind = .closing family) (brackets : List Bracket) :
    t.isStray brackets = decide (brackets.head? ≠ some family) := by
  simp only [isStray, ht]

theorem isStray_of_not_closing (ht : ∀ family, t.kind ≠ .closing family)
    (brackets : List Bracket) : t.isStray brackets = false := by
  unfold isStray
  split
  · next h => exact absurd h (ht _)
  · rfl

end Token

def openBehind (brackets : List Bracket) (ts : List Token) : List Bracket :=
  ts.foldl (fun brackets t => t.shift brackets) brackets

/-- The closing delimiters of a row of tokens that close nothing. -/
def strays (brackets : List Bracket) : List Token → List Token
  | [] => []
  | t :: ts =>
      if t.isStray brackets then t :: strays (t.shift brackets) ts
      else strays (t.shift brackets) ts

/-- The value of the token can be written, and the token has a text. Only an integer of too many
digits cannot be written, and only a floating point token whose value is no such number has no text.
-/
def Token.IsPrintable (t : Token) : Prop :=
  t.value.IsWritable ∧ ∃ content, t.text = .ok content

theorem Token.isPrintable_delimiter {t : Token} {d : Delimiter} (ht : t.kind = .delimiter d) :
    t.IsPrintable ↔ t.value.IsWritable := by
  simp [IsPrintable, text, ht]

/-! ## Pieces of the output -/

namespace FormatSettings

variable (settings : FormatSettings)

/-- The blank in front of a piece. There is none outside all lists. -/
def lead (depth : Nat) : Text :=
  if depth = 0 then [] else settings.margin depth

/-- The end of the line of a piece. There is none outside all lists. -/
def lineEnd (depth : Nat) : Text :=
  if depth = 0 then [] else ['\n']

def piece (brackets : List Bracket) (t : Token) : Text :=
  match t.kind with
  | .opening family => settings.lead brackets.length ++ settings.openText family
  | .closing family =>
      if brackets.head? = some family then
        settings.closeText (brackets.length - 1 : Nat) family ++ lineEnd (brackets.length - 1)
      else settings.lead brackets.length ++ lineEnd brackets.length
  | _ =>
      settings.lead brackets.length ++ (t.text.toOption.getD [] ++ lineEnd brackets.length)

def render (brackets : List Bracket) : List Token → Text
  | [] => []
  | t :: ts => settings.piece brackets t ++ render (t.shift brackets) ts

/-- The token does not end a pass that has `before` lists open in front of it and `behind` lists
behind it: it can be printed, does not open a list too deep, and what it writes can be indented. -/
def AdmitsToken (before behind : Nat) (t : Token) : Prop :=
  t.IsPrintable ∧
    match t.kind with
    | .opening _ => settings.limitAt? before = none
    | _ => settings.IndentFits behind

/-- No token ends the pass, and all lists are closed behind the last one. -/
def Admits (brackets : List Bracket) : List Token → Prop
  | [] => brackets = []
  | t :: ts =>
      settings.AdmitsToken brackets.length (t.shift brackets).length t ∧
        Admits (t.shift brackets) ts

theorem flatten_zipWith_piece (brackets : List Bracket) (ts : List Token) :
    (List.zipWith settings.piece
        (ts.scanl (fun brackets t => t.shift brackets) brackets) ts).flatten =
      settings.render brackets ts := by
  induction ts generalizing brackets with
  | nil => rfl
  | cons t ts ih => rw [List.scanl_cons, List.zipWith_cons_cons, List.flatten_cons, ih, render]

def written : List Scope → Text
  | [] => []
  | scope :: below =>
      written below ++
        (settings.lead below.length ++ (settings.openText scope.family ++ scope.body))

variable {settings} {t : Token} {family : Bracket}

theorem piece_opening (ht : t.kind = .opening family) (brackets : List Bracket) :
    settings.piece brackets t = settings.lead brackets.length ++ settings.openText family := by
  simp only [piece, ht]

theorem piece_closing (ht : t.kind = .closing family) (brackets : List Bracket) :
    settings.piece (family :: brackets) t =
      settings.closeText brackets.length family ++ lineEnd brackets.length := by
  simp only [piece, ht, List.head?_cons, if_true, List.length_cons, Nat.add_sub_cancel]

theorem piece_stray (ht : t.kind = .closing family) {brackets : List Bracket}
    (hfamily : brackets.head? ≠ some family) :
    settings.piece brackets t = settings.lead brackets.length ++ lineEnd brackets.length := by
  simp only [piece, ht, if_neg hfamily]

theorem piece_leaf (ht : t.IsLeaf) {content : Text} (htext : t.text = .ok content)
    (brackets : List Bracket) :
    settings.piece brackets t =
      settings.lead brackets.length ++ (content ++ lineEnd brackets.length) := by
  unfold piece
  split
  · next h => exact absurd h (ht _)
  · next h => exact absurd h (ht _)
  · rw [htext]
    rfl

theorem admitsToken_opening (ht : t.kind = .opening family) {before behind : Nat} :
    settings.AdmitsToken before behind t ↔
      t.value.IsWritable ∧ settings.limitAt? before = none := by
  simp only [AdmitsToken, Token.isPrintable_delimiter ht, ht]

theorem admitsToken_of_not_opening (ht : ∀ family, t.kind ≠ .opening family)
    {before behind : Nat} :
    settings.AdmitsToken before behind t ↔ t.IsPrintable ∧ settings.IndentFits behind := by
  unfold AdmitsToken
  split
  · next h => exact absurd h (ht _)
  · rfl

theorem body_push (scope : Scope) (line : Text) : (scope.push line).body = scope.body ++ line := by
  simp [Scope.push, Scope.body]

theorem written_push (scope : Scope) (line : Text) (below : List Scope) :
    settings.written (scope.push line :: below) = settings.written (scope :: below) ++ line := by
  simp only [written, body_push, List.append_assoc]
  rfl

end FormatSettings

/-! ## One token -/

@[simp] theorem Outcome.prepend_nil (outcome : Outcome) : outcome.prepend [] = outcome := by
  obtain ⟨result, pass, rest⟩ := outcome
  cases result <;> rfl

namespace FormatSettings

variable {settings : FormatSettings}

/-- What a token does to a sweep that goes on: some text is written for good, the rest of its piece
goes into the open lists, and a stray is reported. -/
structure Advances (settings : FormatSettings) (scopes : List Scope) (pass : Pass) (t : Token)
    (inside : List Scope) (after : Pass) (fragment : Text) : Prop where
  nesting : after.nesting = (inside.length : Int)
  families : inside.map Scope.family = t.shift (scopes.map Scope.family)
  pending : after.pending = pass.pending ++
    if t.isStray (scopes.map Scope.family) then [.unexpectedToken t] else []
  written : fragment ++ settings.written inside =
    settings.written scopes ++ settings.piece (scopes.map Scope.family) t
  sweep : ∀ ts, settings.sweep scopes pass (t :: ts) =
    (settings.sweep inside after ts).prepend fragment

/-- What a token is to a sweep that goes on behind it. -/
inductive Role (settings : FormatSettings) (t : Token) : List Scope → Prop
  | opening {family : Bracket} {scopes : List Scope} (ht : t.kind = .opening family)
      (hlimit : settings.limitAt? scopes.length = none) : Role settings t scopes
  | closing {scope : Scope} {below : List Scope} (ht : t.kind = .closing scope.family)
      (hfits : settings.IndentFits below.length) : Role settings t (scope :: below)
  | stray {family : Bracket} {scopes : List Scope} (ht : t.kind = .closing family)
      (hfamily : (scopes.map Scope.family).head? ≠ some family)
      (hfits : settings.IndentFits scopes.length) : Role settings t scopes
  | leaf {content : Text} {scopes : List Scope} (ht : t.IsLeaf) (htext : t.text = .ok content)
      (hfits : settings.IndentFits scopes.length) : Role settings t scopes

theorem role_of_admitsToken {scopes : List Scope} {t : Token}
    (htoken : settings.AdmitsToken scopes.length
      (t.shift (scopes.map Scope.family)).length t) :
    settings.Role t scopes := by
  rcases t.kind_cases with ⟨family, ht⟩ | ⟨family, ht⟩ | ht
  · exact .opening ht ((admitsToken_opening ht).mp htoken).2
  · obtain ⟨-, hfits⟩ := (admitsToken_of_not_opening (by simp [ht])).mp htoken
    by_cases hfamily : (scopes.map Scope.family).head? = some family
    · cases scopes with
      | nil => cases hfamily
      | cons scope below =>
          obtain rfl : scope.family = family := Option.some.inj hfamily
          rw [List.map_cons, Token.shift_closing ht, List.length_map] at hfits
          exact .closing ht hfits
    · rw [Token.shift_stray ht hfamily, List.length_map] at hfits
      exact .stray ht hfamily hfits
  · obtain ⟨⟨-, content, htext⟩, hfits⟩ := (admitsToken_of_not_opening fun _ => ht _).mp htoken
    rw [Token.shift_leaf ht, List.length_map] at hfits
    exact .leaf ht htext hfits

theorem exists_emit_eq {scopes : List Scope} {pass : Pass}
    (hnesting : pass.nesting = (scopes.length : Int)) (hfits : settings.IndentFits scopes.length)
    (content : Text) :
    ∃ inside fragment, inside.map Scope.family = scopes.map Scope.family ∧
      fragment ++ settings.written inside =
        settings.written scopes ++
          (settings.lead scopes.length ++ (content ++ lineEnd scopes.length)) ∧
      ∀ ts, settings.emit (.ok content) scopes pass ts =
        (settings.sweep inside pass ts).prepend fragment := by
  cases scopes with
  | nil => exact ⟨[], content, rfl, by simp [written, lead, lineEnd], fun _ => rfl⟩
  | cons scope below =>
      refine ⟨scope.push (settings.margin pass.nesting ++ (content ++ ['\n'])) :: below, [], rfl,
        ?_, fun ts => ?_⟩
      · rw [List.nil_append, written_push, hnesting]
        simp [lead, lineEnd]
      · rw [← hnesting] at hfits
        rw [emit_of_fits hfits, Outcome.prepend_nil]

theorem nesting_of_families {inside scopes : List Scope} {pass : Pass}
    (hnesting : pass.nesting = (scopes.length : Int))
    (h : inside.map Scope.family = scopes.map Scope.family) :
    pass.nesting = (inside.length : Int) := by
  have hlength := congrArg List.length h
  rw [List.length_map, List.length_map] at hlength
  rw [hnesting, hlength]

/-- A list that is closed is a piece for the list around it if that can be indented. -/
theorem sweep_closing_of_fits {scope : Scope} {below : List Scope} {pass : Pass} {t : Token}
    (hvalue : t.value.IsWritable) (ht : t.kind = .closing scope.family)
    (hleft : pass.leave.nesting = (below.length : Int)) (hfits : settings.IndentFits below.length)
    (ts : List Token) :
    settings.sweep (scope :: below) pass (t :: ts) =
      settings.emit (.ok (settings.openText scope.family ++
        (scope.body ++ settings.closeText below.length scope.family))) below
        (pass.note (.consumed t)).leave ts := by
  rw [sweep_closing hvalue ht, hleft, wrap_of_fits hfits.wrapFits]

/-- A token that writes a line into the lists that are open behind it advances the sweep. -/
theorem exists_advances_of_emit {scopes left : List Scope} {pass after : Pass} {t : Token}
    (hnesting : after.nesting = (left.length : Int)) (hfits : settings.IndentFits left.length)
    (content : Text)
    (hfamilies : left.map Scope.family = t.shift (scopes.map Scope.family))
    (hpending : after.pending = pass.pending ++
      if t.isStray (scopes.map Scope.family) then [.unexpectedToken t] else [])
    (hwritten : settings.written left ++
        (settings.lead left.length ++ (content ++ lineEnd left.length)) =
      settings.written scopes ++ settings.piece (scopes.map Scope.family) t)
    (hsweep : ∀ ts, settings.sweep scopes pass (t :: ts) =
      settings.emit (.ok content) left after ts) :
    ∃ inside after fragment, settings.Advances scopes pass t inside after fragment := by
  obtain ⟨inside, fragment, hinside, hgiven, hemit⟩ := exists_emit_eq hnesting hfits content
  exact ⟨inside, after, fragment, nesting_of_families hnesting hinside, hinside.trans hfamilies,
    hpending, hgiven.trans hwritten, fun ts => (hsweep ts).trans (hemit ts)⟩

/-- A sweep goes on behind every token that it admits. -/
theorem exists_advances {scopes : List Scope} {pass : Pass} {t : Token}
    (hnesting : pass.nesting = (scopes.length : Int))
    (htoken : settings.AdmitsToken scopes.length
      (t.shift (scopes.map Scope.family)).length t) :
    ∃ inside after fragment, settings.Advances scopes pass t inside after fragment := by
  have hvalue : t.value.IsWritable := htoken.1.1
  have hnoted : (pass.note (.consumed t)).nesting = (scopes.length : Int) := hnesting
  cases role_of_admitsToken htoken with
  | @opening family _ ht hlimit =>
      have hstray : t.isStray (scopes.map Scope.family) = false :=
        Token.isStray_of_not_closing (by simp [ht]) _
      refine ⟨⟨family, some t, []⟩ :: scopes, (pass.note (.consumed t)).enter, [],
        ?_, ?_, ?_, ?_, ?_⟩
      · simp [hnesting]
      · rw [Token.shift_opening ht, List.map_cons]
      · simp [hstray]
      · simp [written, Scope.body, piece_opening ht]
      · intro ts
        rw [← hnesting] at hlimit
        rw [Outcome.prepend_nil, sweep_opening hvalue ht hlimit]
  | @closing scope below ht hfits =>
      have hleft : (pass.note (.consumed t)).leave.nesting = (below.length : Int) := by
        simp [hnesting]
      refine exists_advances_of_emit hleft hfits _ ?_ ?_ ?_
        (sweep_closing_of_fits hvalue ht hleft hfits)
      · rw [List.map_cons, Token.shift_closing ht]
      · simp [Token.isStray_closing ht]
      · rw [List.map_cons, piece_closing ht]
        simp [written]
  | stray ht hfamily hfits =>
      have hstray : t.isStray (scopes.map Scope.family) = true := by
        rw [Token.isStray_closing ht]
        exact decide_eq_true hfamily
      have hreported : ((pass.note (.consumed t)).report (.unexpectedToken t)).nesting =
          (scopes.length : Int) := hnesting
      refine exists_advances_of_emit hreported hfits [] ?_ ?_ ?_
        (sweep_stray hvalue ht hfamily pass)
      · rw [Token.shift_stray ht hfamily]
      · simp [hstray]
      · rw [piece_stray ht hfamily, List.nil_append, List.length_map]
  | @leaf content _ ht htext hfits =>
      have hstray : t.isStray (scopes.map Scope.family) = false :=
        Token.isStray_of_not_closing (fun _ => ht _) _
      refine exists_advances_of_emit hnoted hfits content ?_ ?_ ?_ fun ts => ?_
      · rw [Token.shift_leaf ht]
      · simp [hstray]
      · rw [piece_leaf ht htext, List.length_map]
      · rw [sweep_leaf hvalue ht, htext]

/-! Any other token ends the sweep. -/

/-- A line that cannot be indented stands in a list: outside all lists nothing is indented. -/
theorem emit_of_unfit {scopes : List Scope} {pass : Pass}
    (hnesting : pass.nesting = (scopes.length : Int))
    (hfits : ¬settings.IndentFits scopes.length) (content : Text) (ts : List Token) :
    settings.emit (.ok content) scopes pass ts = ⟨.error (.unprintable .tooWide), pass, ts⟩ := by
  cases scopes with
  | nil => exact absurd indentFits_zero hfits
  | cons scope below =>
      rw [← hnesting] at hfits
      exact emit_of_not_fits hfits content scope below ts

/-- What a token that can be printed writes may be too wide. -/
theorem sweep_of_unfit {scopes : List Scope} {pass : Pass} {t : Token}
    (hnesting : pass.nesting = (scopes.length : Int)) (hprintable : t.IsPrintable)
    (hkind : ∀ family, t.kind ≠ .opening family)
    (hfits : ¬settings.IndentFits (t.shift (scopes.map Scope.family)).length) (ts : List Token) :
    ∃ after, settings.sweep scopes pass (t :: ts) =
      ⟨.error (.unprintable .tooWide), after, ts⟩ := by
  obtain ⟨hvalue, content, htext⟩ := hprintable
  rcases t.kind_cases with ⟨family, ht⟩ | ⟨family, ht⟩ | ht
  · exact absurd ht (hkind family)
  · by_cases hfamily : (scopes.map Scope.family).head? = some family
    · cases scopes with
      | nil => cases hfamily
      | cons scope below =>
          obtain rfl : scope.family = family := Option.some.inj hfamily
          rw [List.map_cons, Token.shift_closing ht, List.length_map] at hfits
          have hleft : (pass.note (.consumed t)).leave.nesting = (below.length : Int) := by
            simp [hnesting]
          rw [sweep_closing hvalue ht]
          cases hwrap : settings.wrap pass.leave.nesting scope.family scope.body with
          | error reason =>
              obtain rfl := tooWide_of_wrap hwrap
              exact ⟨_, emit_error _ below _ ts⟩
          | ok content => exact ⟨_, emit_of_unfit hleft hfits content ts⟩
    · rw [Token.shift_stray ht hfamily, List.length_map] at hfits
      have hreported : ((pass.note (.consumed t)).report (.unexpectedToken t)).nesting =
          (scopes.length : Int) := hnesting
      rw [sweep_stray hvalue ht hfamily]
      exact ⟨_, emit_of_unfit hreported hfits [] ts⟩
  · rw [Token.shift_leaf ht, List.length_map] at hfits
    have hnoted : (pass.note (.consumed t)).nesting = (scopes.length : Int) := hnesting
    rw [sweep_leaf hvalue ht, htext]
    exact ⟨_, emit_of_unfit hnoted hfits content ts⟩

/-- A token that can be written and is none to be printed is a leaf without a text. -/
theorem sweep_of_not_isPrintable {t : Token} (hvalue : t.value.IsWritable)
    (hprintable : ¬t.IsPrintable) (scopes : List Scope) (pass : Pass) (ts : List Token) :
    ∃ reason after, settings.sweep scopes pass (t :: ts) =
      ⟨.error (.unprintable reason), after, ts⟩ := by
  have hleaf : t.IsLeaf := fun d ht =>
    hprintable ((Token.isPrintable_delimiter ht).mpr hvalue)
  rw [sweep_leaf hvalue hleaf]
  cases htext : t.text with
  | ok content => exact absurd ⟨hvalue, content, htext⟩ hprintable
  | error reason => exact ⟨reason, _, emit_error reason scopes _ ts⟩

theorem sweep_error_of_not_admitsToken {scopes : List Scope} {pass : Pass} {t : Token}
    (hnesting : pass.nesting = (scopes.length : Int))
    (htoken : ¬settings.AdmitsToken scopes.length
      (t.shift (scopes.map Scope.family)).length t) (ts : List Token) :
    ∃ reason after, settings.sweep scopes pass (t :: ts) = ⟨.error reason, after, ts⟩ := by
  by_cases hvalue : t.value.IsWritable
  · rcases t.kind_cases with ⟨family, ht⟩ | hkind
    · rw [admitsToken_opening ht, not_and, ← hnesting] at htoken
      obtain ⟨limit, hlimit⟩ := Option.ne_none_iff_exists'.mp (htoken hvalue)
      have hnoted : settings.limitAt? (pass.note (.consumed t)).nesting = some limit := hlimit
      by_cases hdigits : FewDigits limit
      · exact ⟨_, _, sweep_refused hvalue ht (openScope_of_some hnoted hdigits family _) scopes ts⟩
      · exact ⟨_, _,
          sweep_refused hvalue ht (openScope_of_unwritable hnoted hdigits family _) scopes ts⟩
    · have hnot : ∀ family, t.kind ≠ .opening family := by
        rcases hkind with ⟨family, ht⟩ | ht
        · simp [ht]
        · exact fun _ => ht _
      by_cases hprintable : t.IsPrintable
      · rw [admitsToken_of_not_opening hnot, not_and] at htoken
        obtain ⟨after, hsweep⟩ := sweep_of_unfit hnesting hprintable hnot (htoken hprintable) ts
        exact ⟨_, after, hsweep⟩
      · obtain ⟨reason, after, hsweep⟩ :=
          sweep_of_not_isPrintable hvalue hprintable scopes pass ts
        exact ⟨_, after, hsweep⟩
  · exact ⟨_, _, sweep_of_not_isWritable hvalue scopes pass ts⟩

end FormatSettings

/-! ## Whole passes -/

/-- The pass read all tokens, closed all lists, and gave this text with these diagnostics. -/
structure Outcome.Completes (outcome : Outcome) (text : Text) (pending : List Diagnostic) :
    Prop where
  result : outcome.result = .ok text
  pending : outcome.pass.pending = pending
  nesting : outcome.pass.nesting = 0
  rest : outcome.rest = []

theorem Outcome.Completes.prepend {outcome : Outcome} {text : Text} {pending : List Diagnostic}
    (h : outcome.Completes text pending) (fragment : Text) :
    (outcome.prepend fragment).Completes (fragment ++ text) pending := by
  refine ⟨?_, h.pending, h.nesting, h.rest⟩
  rw [Outcome.prepend, h.result]
  rfl

namespace FormatSettings

variable {settings : FormatSettings}

theorem sweep_of_admits {scopes : List Scope} {pass : Pass} {ts : List Token}
    (hnesting : pass.nesting = (scopes.length : Int))
    (hadmits : settings.Admits (scopes.map Scope.family) ts) :
    (settings.sweep scopes pass ts).Completes
      (settings.written scopes ++ settings.render (scopes.map Scope.family) ts)
      (pass.pending ++ (strays (scopes.map Scope.family) ts).map .unexpectedToken) := by
  induction ts generalizing scopes pass with
  | nil =>
      obtain rfl := List.map_eq_nil_iff.mp hadmits
      rw [sweep_nil]
      exact ⟨rfl, (List.append_nil _).symm, hnesting, rfl⟩
  | cons t ts ih =>
      obtain ⟨htoken, hrest⟩ := hadmits
      rw [List.length_map] at htoken
      obtain ⟨inside, after, fragment, h⟩ := exists_advances hnesting htoken
      rw [← h.families] at hrest
      have hcompletes := (ih h.nesting hrest).prepend fragment
      rw [h.pending, h.families, ← List.append_assoc, h.written, List.append_assoc] at hcompletes
      rw [h.sweep, render, strays]
      cases hstray : t.isStray (scopes.map Scope.family) <;> simpa [hstray] using hcompletes

theorem sweep_of_not_admits {scopes : List Scope} {pass : Pass} {ts : List Token}
    (hnesting : pass.nesting = (scopes.length : Int))
    (hadmits : ¬settings.Admits (scopes.map Scope.family) ts) :
    ∃ reason, (settings.sweep scopes pass ts).result = .error reason := by
  induction ts generalizing scopes pass with
  | nil =>
      cases scopes with
      | nil => exact absurd rfl hadmits
      | cons scope below => exact ⟨.aborted, by rw [sweep_unterminated]⟩
  | cons t ts ih =>
      by_cases htoken : settings.AdmitsToken scopes.length
          (t.shift (scopes.map Scope.family)).length t
      · obtain ⟨inside, after, fragment, h⟩ := exists_advances hnesting htoken
        rw [Admits, List.length_map, not_and, ← h.families] at hadmits
        rw [← h.families] at htoken
        obtain ⟨reason, hreason⟩ := ih h.nesting (hadmits htoken)
        refine ⟨reason, ?_⟩
        rw [h.sweep, Outcome.prepend, hreason]
        rfl
      · obtain ⟨reason, after, hsweep⟩ := sweep_error_of_not_admitsToken hnesting htoken ts
        exact ⟨reason, congrArg Outcome.result hsweep⟩

end FormatSettings

namespace Formatter

variable {settings : FormatSettings} {ts : List Token}

theorem pending_finish (f : Formatter) : f.finish.pass.pending = f.pass.pending := by
  unfold finish
  split <;> rfl

/-- A fresh formatter gives the pieces of the tokens that its pass admits, and reports the strays.
-/
theorem format_of_admits (h : settings.Admits [] ts) :
    (ofTokens settings ts).format.1 = .ok (settings.render [] ts) ∧
      (ofTokens settings ts).format.2.pass.pending = (strays [] ts).map .unexpectedToken := by
  have hsweep : (settings.sweep [] {} ts).Completes _ _ := FormatSettings.sweep_of_admits rfl h
  have hresult : (settings.formatFrom {} ts).result = .ok (settings.render [] ts) := hsweep.result
  have hpending : (settings.formatFrom {} ts).pass.pending = (strays [] ts).map .unexpectedToken :=
    hsweep.pending
  simp only [format, resume, ofTokens, hresult, pending_finish, hpending, and_self]

theorem admits_of_format {out : Text} (h : (ofTokens settings ts).format.1 = .ok out) :
    settings.Admits [] ts := by
  apply Classical.byContradiction
  intro hadmits
  obtain ⟨reason, hreason⟩ : ∃ reason, (settings.sweep [] {} ts).result = .error reason :=
    FormatSettings.sweep_of_not_admits rfl hadmits
  have hresult : (settings.formatFrom {} ts).result = .error reason := hreason
  simp only [format, resume, ofTokens, hresult] at h
  cases reason <;> cases h

/-- A fresh formatter succeeds exactly on the tokens that its pass admits. Its text is then the
pieces of the tokens from left to right, each with the brackets that are open in front of its token.
-/
theorem format_eq_ok_iff_pieces (settings : FormatSettings) (ts : List Token) (out : Text) :
    (ofTokens settings ts).format.1 = .ok out ↔
      settings.Admits [] ts ∧
        out = (List.zipWith settings.piece
          (ts.scanl (fun brackets t => t.shift brackets) []) ts).flatten := by
  rw [FormatSettings.flatten_zipWith_piece]
  constructor
  · intro hformat
    have hadmits := admits_of_format hformat
    rw [(format_of_admits hadmits).1] at hformat
    exact ⟨hadmits, (Except.ok.inj hformat).symm⟩
  · rintro ⟨hadmits, rfl⟩
    exact (format_of_admits hadmits).1

end Formatter

end TanSource
