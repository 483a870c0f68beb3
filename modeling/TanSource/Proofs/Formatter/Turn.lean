import TanSource.Formatter

/-!
# What one token does to a pass

A token is an opening delimiter, a closing one or a leaf. The rules say what each does inside a list
and outside all lists. A token whose value cannot be written is taken and does nothing else, and no
line is written whose blank is too wide.
-/

namespace TanSource

def Token.IsLeaf (t : Token) : Prop :=
  ∀ d, t.kind ≠ .delimiter d

theorem Token.kind_cases (t : Token) : (∃ family, t.kind = .opening family) ∨
    (∃ family, t.kind = .closing family) ∨ t.IsLeaf := by
  cases hkind : t.kind with
  | delimiter d =>
      cases d with
      | opening family => exact Or.inl ⟨family, rfl⟩
      | closing family => exact Or.inr (Or.inl ⟨family, rfl⟩)
  | _ => exact Or.inr (Or.inr (fun d => by simp [hkind]))

/-! ## States of a pass -/

namespace Pass

variable (pass : Pass)

@[simp] theorem nesting_note (event : FormatEvent) : (pass.note event).nesting = pass.nesting := rfl

@[simp] theorem nesting_report (d : Diagnostic) : (pass.report d).nesting = pass.nesting := rfl

@[simp] theorem nesting_enter : pass.enter.nesting = pass.nesting + 1 := rfl

@[simp] theorem nesting_leave : pass.leave.nesting = pass.nesting - 1 := rfl

@[simp] theorem pending_note (event : FormatEvent) : (pass.note event).pending = pass.pending := rfl

@[simp] theorem pending_report (d : Diagnostic) :
    (pass.report d).pending = pass.pending ++ [d] := rfl

@[simp] theorem pending_enter : pass.enter.pending = pass.pending := rfl

@[simp] theorem pending_leave : pass.leave.pending = pass.pending := rfl

variable {pass} {t : Token}

theorem consume_of_isWritable (h : t.value.IsWritable) :
    pass.consume t = .ok (pass.note (.consumed t)) := by
  rw [consume, Message.written_of_isWritable (t.isWritable_fields.mpr h)]
  rfl

theorem consume_of_not_isWritable (h : ¬t.value.IsWritable) :
    pass.consume t = .error .tooManyDigits := by
  rw [consume, Message.written_of_not_isWritable (mt t.isWritable_fields.mp h)]
  rfl

end Pass

def Outcome.prepend (fragment : Text) (outcome : Outcome) : Outcome :=
  { outcome with result := outcome.result.map (fragment ++ ·) }

namespace FormatSettings

/-! ## Lines and delimiters -/

section

variable (settings : FormatSettings)

def IndentFits (depth : Int) : Prop :=
  FitsIndex (depth * settings.indentSize)

/-- A list at the depth can be closed. Only the canonical layout indents the closing delimiter. -/
def WrapFits (depth : Int) : Prop :=
  settings.layout = .canonical → settings.IndentFits depth

instance (depth : Int) : Decidable (settings.IndentFits depth) :=
  inferInstanceAs (Decidable (FitsIndex _))

instance (depth : Int) : Decidable (settings.WrapFits depth) :=
  inferInstanceAs (Decidable (_ → _))

def margin (depth : Int) : Text :=
  blanks (depth * settings.indentSize)

def openText (family : Bracket) : Text :=
  match settings.layout, family with
  | .compat, .paren => ['(']
  | _, family => [family.openChar, '\n']

/-- What closes a list that stands at the given depth. -/
def closeText (nesting : Int) (family : Bracket) : Text :=
  match settings.layout, family with
  | .canonical, family => settings.margin nesting ++ [family.closeChar]
  | .compat, .brace => ['}', ')']
  | .compat, family => [family.closeChar]

variable {settings} {depth : Int}

theorem indentFits_zero : settings.IndentFits 0 := by
  rw [IndentFits, Int.zero_mul]
  exact fitsIndex_zero

theorem IndentFits.wrapFits (h : settings.IndentFits depth) : settings.WrapFits depth :=
  fun _ => h

theorem indent_of_fits (h : settings.IndentFits depth) :
    settings.indent depth = .ok (settings.margin depth) :=
  spaces_of_fitsIndex h

theorem indent_of_not_fits (h : ¬settings.IndentFits depth) :
    settings.indent depth = .error .tooWide :=
  spaces_of_not_fitsIndex h

theorem line_of_fits (h : settings.IndentFits depth) (content : Text) :
    settings.line depth content = .ok (settings.margin depth ++ (content ++ ['\n'])) := by
  rw [line, indent_of_fits h]
  rfl

theorem line_of_not_fits (h : ¬settings.IndentFits depth) (content : Text) :
    settings.line depth content = .error .tooWide := by
  rw [line, indent_of_not_fits h]
  rfl

theorem wrap_of_fits (h : settings.WrapFits depth) (family : Bracket) (body : Text) :
    settings.wrap depth family body =
      .ok (settings.openText family ++ (body ++ settings.closeText depth family)) := by
  unfold wrap openText closeText
  cases hlayout : settings.layout with
  | canonical =>
      rw [indent_of_fits (h hlayout)]
      rfl
  | compat => cases family <;> rfl

theorem wrap_of_not_fits (h : ¬settings.WrapFits depth) (family : Bracket) (body : Text) :
    settings.wrap depth family body = .error .tooWide := by
  obtain ⟨hlayout, hindent⟩ := Classical.not_imp.mp h
  simp only [wrap, hlayout, indent_of_not_fits hindent]
  rfl

theorem tooWide_of_wrap {family : Bracket} {body : Text} {reason : Unprintable}
    (h : settings.wrap depth family body = .error reason) : reason = .tooWide := by
  by_cases hwrap : settings.WrapFits depth
  · rw [wrap_of_fits hwrap] at h
    cases h
  · rw [wrap_of_not_fits hwrap] at h
    exact (Except.error.inj h).symm

variable {pass : Pass} {scope : Scope}

theorem addChild_of_fits (h : settings.IndentFits pass.nesting) (content : Text) :
    settings.addChild pass scope content =
      .ok (scope.push (settings.margin pass.nesting ++ (content ++ ['\n']))) := by
  rw [addChild, line_of_fits h]
  rfl

theorem addChild_of_not_fits (h : ¬settings.IndentFits pass.nesting) (content : Text) :
    settings.addChild pass scope content = .error .tooWide := by
  rw [addChild, line_of_not_fits h]
  rfl

theorem family_of_addChild {inner : Scope} {content : Text}
    (h : settings.addChild pass scope content = .ok inner) : inner.family = scope.family := by
  by_cases hfits : settings.IndentFits pass.nesting
  · rw [addChild_of_fits hfits] at h
    cases h
    rfl
  · rw [addChild_of_not_fits hfits] at h
    cases h

end

variable {settings : FormatSettings} {t : Token} {family : Bracket}

/-! ## Inside a list -/

theorem turn_closing_outermost {scope : Scope} (ht : t.kind = .closing scope.family) (pass : Pass) :
    settings.turn scope [] pass t = .closed scope.body pass.leave := by
  simp only [turn, ht, if_true]

theorem turn_closing {scope : Scope} (ht : t.kind = .closing scope.family) (outer : Scope)
    (below : List Scope) (pass : Pass) :
    settings.turn scope (outer :: below) pass t =
      .ofChild ((settings.wrap pass.leave.nesting scope.family scope.body).bind
        (settings.addChild pass.leave outer)) below pass.leave := by
  simp only [turn, ht, if_true]

theorem turn_unexpected {scope : Scope} (ht : t.kind = .closing family)
    (hfamily : family ≠ scope.family) (below : List Scope) (pass : Pass) :
    settings.turn scope below pass t =
      .ofChild (settings.addChild (pass.report (.unexpectedToken t)) scope []) below
        (pass.report (.unexpectedToken t)) := by
  simp only [turn, ht, if_neg hfamily]

theorem openScope_of_none {pass : Pass} (h : settings.limitAt? pass.nesting = none)
    (family : Bracket) (opener? : Option Token) :
    settings.openScope pass family opener? = (.ok ⟨family, opener?, []⟩, pass.enter) := by
  simp only [openScope, h]

theorem openScope_of_some {pass : Pass} {limit : Int}
    (h : settings.limitAt? pass.nesting = some limit) (hlimit : FewDigits limit)
    (family : Bracket) (opener? : Option Token) :
    settings.openScope pass family opener? =
      (.error .aborted, pass.report (.nestingTooDeep limit opener?)) := by
  have hwritten := Message.written_of_isWritable
    ((Diagnostic.isWritable_nestingTooDeep opener?).mpr hlimit)
  simp only [openScope, h, hwritten]

/-- A limit of too many digits cannot be reported. -/
theorem openScope_of_unwritable {pass : Pass} {limit : Int}
    (h : settings.limitAt? pass.nesting = some limit) (hlimit : ¬FewDigits limit)
    (family : Bracket) (opener? : Option Token) :
    settings.openScope pass family opener? =
      (.error (.unprintable .tooManyDigits), pass) := by
  have hwritten := Message.written_of_not_isWritable
    (mt (Diagnostic.isWritable_nestingTooDeep opener?).mp hlimit)
  simp only [openScope, h, hwritten]

theorem turn_opened {pass after : Pass} {inner : Scope} (ht : t.kind = .opening family)
    (h : settings.openScope pass family (some t) = (.ok inner, after)) (scope : Scope)
    (below : List Scope) :
    settings.turn scope below pass t = .inside inner (scope :: below) after := by
  simp only [turn, ht, h]

theorem turn_opening {pass : Pass} (ht : t.kind = .opening family)
    (hlimit : settings.limitAt? pass.nesting = none) (scope : Scope) (below : List Scope) :
    settings.turn scope below pass t =
      .inside ⟨family, some t, []⟩ (scope :: below) pass.enter :=
  turn_opened ht (openScope_of_none hlimit family (some t)) scope below

/-- A list that cannot be opened halts the pass in the same way wherever it stands. -/
theorem turn_refused {pass after : Pass} {reason : Halt} (ht : t.kind = .opening family)
    (h : settings.openScope pass family (some t) = (.error reason, after)) (scope : Scope)
    (below : List Scope) : settings.turn scope below pass t = .halted reason after := by
  simp only [turn, ht, h]

theorem turn_leaf (ht : t.IsLeaf) (scope : Scope) (below : List Scope) (pass : Pass) :
    settings.turn scope below pass t =
      .ofChild (t.text.bind (settings.addChild pass scope)) below pass := by
  unfold turn
  split
  · next h => exact absurd h (ht _)
  · next h => exact absurd h (ht _)
  · rfl

section

variable {scope : Scope} {below : List Scope} {pass after : Pass} (ht : t.value.IsWritable)

include ht

theorem fillScopes_of_inside {inner : Scope} {inside : List Scope}
    (h : settings.turn scope below (pass.note (.consumed t)) t = .inside inner inside after)
    (ts : List Token) :
    settings.fillScopes scope below pass (t :: ts) = settings.fillScopes inner inside after ts := by
  simp only [fillScopes, Pass.consume_of_isWritable ht, h]

theorem fillScopes_of_closed {body : Text}
    (h : settings.turn scope below (pass.note (.consumed t)) t = .closed body after)
    (ts : List Token) :
    settings.fillScopes scope below pass (t :: ts) = ⟨.ok body, after, ts⟩ := by
  simp only [fillScopes, Pass.consume_of_isWritable ht, h]

theorem fillScopes_of_halted {reason : Halt}
    (h : settings.turn scope below (pass.note (.consumed t)) t = .halted reason after)
    (ts : List Token) :
    settings.fillScopes scope below pass (t :: ts) = ⟨.error reason, after, ts⟩ := by
  simp only [fillScopes, Pass.consume_of_isWritable ht, h]

end

theorem fillScopes_of_not_isWritable (h : ¬t.value.IsWritable) (scope : Scope)
    (below : List Scope) (pass : Pass) (ts : List Token) :
    settings.fillScopes scope below pass (t :: ts) =
      ⟨.error (.unprintable .tooManyDigits), pass, ts⟩ := by
  simp only [fillScopes, Pass.consume_of_not_isWritable h]

/-! ## Outside all lists -/

theorem formatToken_opening (ht : t.kind = .opening family) (pass : Pass) (ts : List Token) :
    settings.formatToken pass t ts =
      settings.wrapped family (settings.formatBody pass family (some t) ts) := by
  simp only [formatToken, ht]

theorem formatToken_closing (ht : t.kind = .closing family) (pass : Pass) (ts : List Token) :
    settings.formatToken pass t ts = ⟨.ok [], pass.report (.unexpectedToken t), ts⟩ := by
  simp only [formatToken, ht]

theorem formatToken_leaf (ht : t.IsLeaf) (pass : Pass) (ts : List Token) :
    settings.formatToken pass t ts = ⟨t.text.mapError .unprintable, pass, ts⟩ := by
  unfold formatToken
  split
  · next h => exact absurd h (ht _)
  · next h => exact absurd h (ht _)
  · rfl

/-! ## Whole passes -/

theorem formatFrom_nil (pass : Pass) : settings.formatFrom pass [] = ⟨.ok [], pass, []⟩ := by
  rw [formatFrom]

theorem formatFrom_of_ok {pass after : Pass} {t : Token} {ts rest : List Token} {fragment : Text}
    (ht : t.value.IsWritable)
    (h : settings.formatToken (pass.note (.consumed t)) t ts = ⟨.ok fragment, after, rest⟩) :
    settings.formatFrom pass (t :: ts) = (settings.formatFrom after rest).prepend fragment := by
  rw [formatFrom, Pass.consume_of_isWritable ht]
  dsimp only
  rw [h]
  rfl

theorem formatFrom_of_error {pass after : Pass} {t : Token} {ts rest : List Token} {reason : Halt}
    (ht : t.value.IsWritable)
    (h : settings.formatToken (pass.note (.consumed t)) t ts = ⟨.error reason, after, rest⟩) :
    settings.formatFrom pass (t :: ts) = ⟨.error reason, after, rest⟩ := by
  rw [formatFrom, Pass.consume_of_isWritable ht]
  dsimp only
  rw [h]

theorem formatFrom_of_not_isWritable {t : Token} (ht : ¬t.value.IsWritable) (pass : Pass)
    (ts : List Token) :
    settings.formatFrom pass (t :: ts) = ⟨.error (.unprintable .tooManyDigits), pass, ts⟩ := by
  rw [formatFrom, Pass.consume_of_not_isWritable ht]

/-- A pass formats one expression after the other. -/
@[elab_as_elim]
theorem formatFrom_induction (settings : FormatSettings) {motive : Pass → List Token → Prop}
    (nil : ∀ pass, motive pass [])
    (unwritable : ∀ pass t ts, ¬t.value.IsWritable → motive pass (t :: ts))
    (error : ∀ pass t ts reason after rest, t.value.IsWritable →
      settings.formatToken (pass.note (.consumed t)) t ts = ⟨.error reason, after, rest⟩ →
      motive pass (t :: ts))
    (ok : ∀ pass t ts fragment after rest, t.value.IsWritable →
      settings.formatToken (pass.note (.consumed t)) t ts = ⟨.ok fragment, after, rest⟩ →
      motive after rest → motive pass (t :: ts))
    (pass : Pass) (ts : List Token) : motive pass ts := by
  -- An expression leaves fewer tokens, which need not be the tail: the induction is on the length.
  induction hn : ts.length using Nat.strongRecOn generalizing pass ts with
  | _ n ih =>
      subst hn
      cases ts with
      | nil => exact nil pass
      | cons t ts =>
          by_cases ht : t.value.IsWritable
          · have hshort := settings.length_formatToken_rest (pass.note (.consumed t)) t ts
            rcases hfirst : settings.formatToken (pass.note (.consumed t)) t ts with
              ⟨result, after, rest⟩
            rw [hfirst] at hshort
            cases result with
            | error reason => exact error pass t ts reason after rest ht hfirst
            | ok fragment =>
                exact ok pass t ts fragment after rest ht hfirst
                  (ih _ (Nat.lt_succ_of_le hshort) after rest rfl)
          · exact unwritable pass t ts ht

end FormatSettings

end TanSource
