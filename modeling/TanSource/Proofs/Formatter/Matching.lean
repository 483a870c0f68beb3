import Mathlib.Data.List.Forall2
import Mathlib.Data.List.Induction
import TanSource.Proofs.Formatter.Rendering

/-!
# Delimiter matching

How a pass without a depth limit ends is decided by its delimiters alone, as long as every line can
be indented. Matching keeps a stack of the opening delimiters that are not closed yet, and the
closing ones that close nothing. One step of it describes what one token does to a sweep
(`exists_describes_past`), and a pass ends as matching does (`format_eq_matching`).
-/

namespace TanSource

/-! ## The stack of opening delimiters -/

/-- Where matching stands: the opening delimiters that are not closed yet, the innermost first, and
the closing ones that were ignored. -/
structure Matching where
  openers : List Token := []
  ignored : List Token := []

namespace Matching

/-- Where matching stands behind one more token. A closing delimiter pops the innermost opening one
if it is of its family, and is ignored otherwise. -/
def past (m : Matching) (t : Token) : Matching :=
  match t.kind with
  | .opening _ => { m with openers := t :: m.openers }
  | .closing family =>
      if m.openers.head?.map Token.kind = some (.opening family) then
        { m with openers := m.openers.tail }
      else { m with ignored := m.ignored ++ [t] }
  | _ => m

def after (m : Matching) (ts : List Token) : Matching :=
  ts.foldl past m

def ofTokens (ts : List Token) : Matching :=
  after {} ts

def unexpected (m : Matching) : List Diagnostic :=
  m.ignored.map .unexpectedToken

@[simp] theorem after_nil (m : Matching) : m.after [] = m := rfl

@[simp] theorem after_cons (m : Matching) (t : Token) (ts : List Token) :
    m.after (t :: ts) = (m.past t).after ts := rfl

theorem ofTokens_snoc (ts : List Token) (t : Token) :
    ofTokens (ts ++ [t]) = (ofTokens ts).past t := by
  simp [ofTokens, after]

variable {t : Token} {family : Bracket}

theorem recoverable_of_mem_unexpected {m : Matching} {d : Diagnostic} (hd : d ∈ m.unexpected) :
    d.recoverable = true := by
  obtain ⟨t, -, rfl⟩ := List.mem_map.mp hd
  rfl

theorem past_opening (ht : t.kind = .opening family) (m : Matching) :
    m.past t = { m with openers := t :: m.openers } := by
  simp only [past, ht]

theorem past_closing (ht : t.kind = .closing family) {opener : Token}
    (hopener : opener.kind = .opening family) (openers ignored : List Token) :
    past ⟨opener :: openers, ignored⟩ t = ⟨openers, ignored⟩ := by
  simp only [past, ht, List.head?_cons, Option.map_some, hopener, if_true, List.tail_cons]

theorem past_ignored (ht : t.kind = .closing family) {m : Matching}
    (hm : m.openers.head?.map Token.kind ≠ some (.opening family)) :
    m.past t = { m with ignored := m.ignored ++ [t] } := by
  simp only [past, ht, if_neg hm]

theorem past_leaf (ht : t.IsLeaf) (m : Matching) : m.past t = m := by
  unfold past
  split
  · next h => exact absurd h (ht _)
  · next h => exact absurd h (ht _)
  · rfl

theorem length_openers_past (m : Matching) (t : Token) :
    (m.past t).openers.length ≤ m.openers.length + 1 := by
  rcases t.kind_cases with ⟨family, ht⟩ | ⟨family, ht⟩ | ht
  · rw [past_opening ht]
    exact Nat.le_refl _
  · unfold past
    rw [ht]
    dsimp only
    split
    · rw [List.length_tail]
      omega
    · exact Nat.le_succ _
  · rw [past_leaf ht]
    exact Nat.le_succ _

/-- No more lists are open than there are tokens. -/
theorem length_openers_le (ts : List Token) : (ofTokens ts).openers.length ≤ ts.length := by
  induction ts using List.reverseRecOn with
  | nil => exact Nat.le_refl 0
  | append_singleton ts t ih =>
      rw [ofTokens_snoc, List.length_append]
      exact Nat.le_trans (length_openers_past _ t) (Nat.succ_le_succ ih)

end Matching

/-! ## What holds of each token and those in front of it -/

/-- The property holds of each of these tokens with those in front of it. -/
def HoldsAlong (P : List Token → Token → Prop) (ts : List Token) : Prop :=
  ∀ before t behind, ts = before ++ t :: behind → P before t

section

variable {P : List Token → Token → Prop} {ts : List Token} {t : Token}

theorem holdsAlong_nil : HoldsAlong P [] := by
  simp [HoldsAlong]

theorem holdsAlong_snoc : HoldsAlong P (ts ++ [t]) ↔ HoldsAlong P ts ∧ P ts t := by
  constructor
  · intro h
    refine ⟨fun before u behind hsplit => ?_, h ts t [] rfl⟩
    exact h before u (behind ++ [t]) (by simp [hsplit])
  · rintro ⟨hfront, hlast⟩ before u behind hsplit
    -- the token is the last one, or stands among the others
    rcases List.eq_nil_or_concat behind with rfl | ⟨behind, v, rfl⟩
    · obtain ⟨rfl, hu⟩ := List.append_inj' hsplit rfl
      cases hu
      exact hlast
    · rw [List.concat_eq_append, ← List.cons_append, ← List.append_assoc] at hsplit
      exact hfront before u behind (List.append_inj' hsplit rfl).1

theorem HoldsAlong.front {before behind : List Token} (h : HoldsAlong P (before ++ behind)) :
    HoldsAlong P before :=
  fun front t more hsplit => h front t (more ++ behind) (by simp [hsplit])

/-- The property holds along the tokens, or there is a first one of which it does not hold. -/
theorem holdsAlong_or_first (P : List Token → Token → Prop) (ts : List Token) :
    HoldsAlong P ts ∨
      ∃ before t behind, ts = before ++ t :: behind ∧ HoldsAlong P before ∧ ¬P before t := by
  induction ts using List.reverseRecOn with
  | nil => exact Or.inl holdsAlong_nil
  | append_singleton ts u ih =>
      rcases ih with hfront | ⟨before, t, behind, rfl, hfirst⟩
      · by_cases hlast : P ts u
        · exact Or.inl (holdsAlong_snoc.mpr ⟨hfront, hlast⟩)
        · exact Or.inr ⟨ts, u, [], rfl, hfront, hlast⟩
      · exact Or.inr ⟨before, t, behind ++ [u], by simp, hfirst⟩

end

namespace FormatSettings

/-- Behind these tokens, this one writes nothing or what it writes can be indented. An opening
delimiter is written only when its list is closed. -/
def IndentFitsBehind (settings : FormatSettings) (before : List Token) (t : Token) : Prop :=
  (∀ family, t.kind ≠ .opening family) →
    settings.IndentFits (Matching.ofTokens (before ++ [t])).openers.length

/-- All that a pass writes can be indented. -/
def IndentsFit (settings : FormatSettings) (ts : List Token) : Prop :=
  HoldsAlong settings.IndentFitsBehind ts

/-- Behind these tokens, this one does not end a pass. -/
def AdmitsBehind (settings : FormatSettings) (before : List Token) (t : Token) : Prop :=
  settings.AdmitsToken (Matching.ofTokens before).openers.length
    (Matching.ofTokens (before ++ [t])).openers.length t

variable {settings : FormatSettings}

/-- Indents fit unless there are very many tokens or the indent is very large. -/
theorem indentsFit_of_natAbs {ts : List Token}
    (h : ts.length * settings.indentSize.natAbs < 9223372036854775808) :
    settings.IndentsFit ts := by
  rintro before t behind rfl -
  have hdepth : (Matching.ofTokens (before ++ [t])).openers.length ≤
      (before ++ t :: behind).length := by
    refine Nat.le_trans (Matching.length_openers_le _) ?_
    simp
  have hproduct := Nat.lt_of_le_of_lt
    (Nat.mul_le_mul_right settings.indentSize.natAbs hdepth) h
  have hnatAbs := Int.natAbs_mul (Matching.ofTokens (before ++ [t])).openers.length
    settings.indentSize
  rw [Int.natAbs_natCast] at hnatAbs
  rw [← hnatAbs] at hproduct
  unfold IndentFits FitsIndex
  omega

end FormatSettings

/-! ## Matching and the state of a sweep -/

structure Scope.OpenedBy (scope : Scope) (t : Token) : Prop where
  opener : scope.opener? = some t
  kind : t.kind = .opening scope.family

/-- The open lists and the state of a pass are those of matching. -/
structure Matching.Describes (m : Matching) (scopes : List Scope) (pass : Pass) : Prop where
  scopes : List.Forall₂ Scope.OpenedBy scopes m.openers
  nesting : pass.nesting = (m.openers.length : Int)
  pending : pass.pending = m.unexpected

theorem Matching.Describes.nesting_eq_length {m : Matching} {scopes : List Scope} {pass : Pass}
    (h : m.Describes scopes pass) : pass.nesting = (scopes.length : Int) := by
  rw [h.nesting, h.scopes.length_eq]

theorem Outcome.prepend_prepend (outcome : Outcome) (first second : Text) :
    (outcome.prepend second).prepend first = outcome.prepend (first ++ second) := by
  obtain ⟨result, pass, rest⟩ := outcome
  cases result with
  | error reason => rfl
  | ok text => simp [prepend, Except.map]

namespace FormatSettings

variable {settings : FormatSettings} {scopes : List Scope} {pass : Pass} {m : Matching}

/-- The families of the open lists are those of the opening delimiters. -/
theorem head?_openers_kind (h : List.Forall₂ Scope.OpenedBy scopes m.openers) :
    m.openers.head?.map Token.kind = (scopes.map Scope.family).head?.map .opening := by
  cases h' : m.openers with
  | nil =>
      rw [h'] at h
      cases h
      rfl
  | cons opener openers =>
      rw [h'] at h
      cases h with
      | cons hscope _ => simp [hscope.kind]

/-- The open lists behind a token are as many as the opening delimiters. -/
theorem length_shift (h : List.Forall₂ Scope.OpenedBy scopes m.openers) (t : Token) :
    (t.shift (scopes.map Scope.family)).length = (m.past t).openers.length := by
  have hlength : scopes.length = m.openers.length := h.length_eq
  rcases t.kind_cases with ⟨family, ht⟩ | ⟨family, ht⟩ | ht
  · rw [Token.shift_opening ht, Matching.past_opening ht]
    simp [hlength]
  · have hhead : m.openers.head?.map Token.kind = some (.opening family) ↔
        (scopes.map Scope.family).head? = some family := by
      rw [head?_openers_kind h]
      simp
    unfold Token.shift Matching.past
    rw [ht]
    dsimp only
    simp only [hhead]
    split <;> simp [hlength]
  · rw [Token.shift_leaf ht, Matching.past_leaf ht]
    simp [hlength]

theorem describes_push {scope : Scope} {below : List Scope}
    (h : m.Describes (scope :: below) pass) (line : Text) :
    m.Describes (scope.push line :: below) pass := by
  obtain ⟨openers, ignored⟩ := m
  obtain ⟨hscopes, hnesting, hpending⟩ := h
  cases hscopes with
  | cons hscope hbelow =>
      exact ⟨.cons ⟨hscope.opener, hscope.kind⟩ hbelow, hnesting, hpending⟩

/-- Text that is emitted changes at most the lines of the innermost list, which matching does not
look at. -/
theorem exists_describes_of_emit {m : Matching} {inside : List Scope} {after : Pass} {t : Token}
    {content : Text} (h : m.Describes inside after) (hfits : settings.IndentFits inside.length)
    (hemit : ∀ ts, settings.sweep scopes pass (t :: ts) =
      settings.emit (.ok content) inside after ts) :
    ∃ inside after fragment, m.Describes inside after ∧
      ∀ ts, settings.sweep scopes pass (t :: ts) =
        (settings.sweep inside after ts).prepend fragment := by
  cases inside with
  | nil => exact ⟨[], after, content, h, hemit⟩
  | cons scope below =>
      rw [← h.nesting_eq_length] at hfits
      refine ⟨scope.push (settings.margin after.nesting ++ (content ++ ['\n'])) :: below, after, [],
        describes_push h _, fun ts => ?_⟩
      rw [hemit, emit_of_fits hfits, Outcome.prepend_nil]

/-! What one token makes of both is said for each of its roles. A sweep decides by the families of
the open lists, matching by their opening delimiters. -/

section

variable {t : Token} {family : Bracket}

theorem describes_opening (h : m.Describes scopes pass) (ht : t.kind = .opening family) :
    (m.past t).Describes (⟨family, some t, []⟩ :: scopes) (pass.note (.consumed t)).enter := by
  rw [Matching.past_opening ht]
  exact ⟨.cons ⟨rfl, ht⟩ h.scopes, by simp [h.nesting], h.pending⟩

theorem describes_closing {scope : Scope} {below : List Scope}
    (h : m.Describes (scope :: below) pass) (ht : t.kind = .closing scope.family) :
    (m.past t).Describes below (pass.note (.consumed t)).leave := by
  obtain ⟨openers, ignored⟩ := m
  obtain ⟨hscopes, hnesting, hpending⟩ := h
  cases hscopes with
  | cons hscope hbelow =>
      rw [Matching.past_closing ht hscope.kind]
      exact ⟨hbelow, by simp [hnesting], hpending⟩

theorem describes_stray (h : m.Describes scopes pass) (ht : t.kind = .closing family)
    (hfamily : (scopes.map Scope.family).head? ≠ some family) :
    (m.past t).Describes scopes ((pass.note (.consumed t)).report (.unexpectedToken t)) := by
  have hopeners : m.openers.head?.map Token.kind ≠ some (.opening family) := by
    rw [head?_openers_kind h.scopes]
    simpa using hfamily
  rw [Matching.past_ignored ht hopeners]
  exact ⟨h.scopes, h.nesting, by simp [h.pending, Matching.unexpected]⟩

theorem describes_leaf (h : m.Describes scopes pass) (ht : t.IsLeaf) :
    (m.past t).Describes scopes (pass.note (.consumed t)) := by
  rw [Matching.past_leaf ht]
  exact ⟨h.scopes, h.nesting, h.pending⟩

end

/-- One token that the pass admits takes both one step on. -/
theorem exists_describes_past {t : Token} (h : m.Describes scopes pass)
    (ht : settings.AdmitsToken m.openers.length (m.past t).openers.length t) :
    ∃ inside after fragment, (m.past t).Describes inside after ∧
      ∀ ts, settings.sweep scopes pass (t :: ts) =
        (settings.sweep inside after ts).prepend fragment := by
  rw [← h.scopes.length_eq, ← length_shift h.scopes] at ht
  have hvalue : t.value.IsWritable := ht.1.1
  cases role_of_admitsToken ht with
  | opening hkind hlimit =>
      rw [← h.nesting_eq_length] at hlimit
      refine ⟨_, _, [], describes_opening h hkind, fun ts => ?_⟩
      rw [Outcome.prepend_nil, sweep_opening hvalue hkind hlimit]
  | @closing scope below hkind hfits =>
      have hclosed := describes_closing h hkind
      exact exists_describes_of_emit hclosed hfits
        (sweep_closing_of_fits hvalue hkind hclosed.nesting_eq_length hfits)
  | stray hkind hfamily hfits =>
      exact exists_describes_of_emit (describes_stray h hkind hfamily) hfits
        (sweep_stray hvalue hkind hfamily pass)
  | @leaf content _ hleaf htext hfits =>
      have hemit (ts : List Token) : settings.sweep scopes pass (t :: ts) =
          settings.emit (.ok content) scopes (pass.note (.consumed t)) ts := by
        rw [sweep_leaf hvalue hleaf, htext]
      exact exists_describes_of_emit (describes_leaf h hleaf) hfits hemit

/-- Tokens that the pass admits take both on to behind the last of them. -/
theorem exists_describes_after {ts : List Token} (h : m.Describes scopes pass)
    (hts : ∀ before t after, ts = before ++ t :: after →
      settings.AdmitsToken (m.after before).openers.length
        (m.after (before ++ [t])).openers.length t) :
    ∃ inside after fragment, (m.after ts).Describes inside after ∧
      ∀ rest, settings.sweep scopes pass (ts ++ rest) =
        (settings.sweep inside after rest).prepend fragment := by
  induction ts generalizing scopes pass m with
  | nil => exact ⟨scopes, pass, [], h, fun rest => by rw [List.nil_append, Outcome.prepend_nil]⟩
  | cons t ts ih =>
      obtain ⟨inside, after, fragment, hinside, hsweep⟩ := exists_describes_past h (hts [] t ts rfl)
      have hrest (before : List Token) (u : Token) (behind : List Token)
          (heq : ts = before ++ u :: behind) :
          settings.AdmitsToken ((m.past t).after before).openers.length
            ((m.past t).after (before ++ [u])).openers.length u :=
        hts (t :: before) u behind (by rw [heq, List.cons_append])
      obtain ⟨last, final, more, hlast, hsweeps⟩ := ih hinside hrest
      refine ⟨last, final, fragment ++ more, hlast, ?_⟩
      intro rest
      rw [List.cons_append, hsweep, hsweeps, Outcome.prepend_prepend]

end FormatSettings

/-! ## How a pass ends -/

namespace FormatSettings

variable {settings : FormatSettings} {ts : List Token}

/-- Without a depth limit a pass goes on behind every token that can be printed and indented. -/
theorem admitsBehind_of_isPrintable (hdepth : settings.maxDepth? = none) {before : List Token}
    {t : Token} (ht : t.IsPrintable) (hfits : settings.IndentFitsBehind before t) :
    settings.AdmitsBehind before t := by
  by_cases hkind : ∃ family, t.kind = .opening family
  · obtain ⟨family, hkind⟩ := hkind
    refine (admitsToken_opening hkind).mpr ⟨ht.1, ?_⟩
    rw [limitAt?, hdepth]
    rfl
  · rw [not_exists] at hkind
    exact (admitsToken_of_not_opening hkind).mpr ⟨ht, hfits hkind⟩

theorem admits_of_indentsFit (hdepth : settings.maxDepth? = none) (hts : ∀ t ∈ ts, t.IsPrintable)
    (hfits : settings.IndentsFit ts) : HoldsAlong settings.AdmitsBehind ts :=
  fun before t behind hsplit =>
    admitsBehind_of_isPrintable hdepth (hts t (by simp [hsplit])) (hfits before t behind hsplit)

/-- Tokens that a pass admits take it from its beginning to behind the last of them. -/
theorem exists_describes_front (hts : HoldsAlong settings.AdmitsBehind ts) :
    ∃ scopes after fragment, (Matching.ofTokens ts).Describes scopes after ∧
      ∀ rest, settings.formatFrom {} (ts ++ rest) =
        (settings.sweep scopes after rest).prepend fragment := by
  have hfresh : Matching.Describes {} [] {} := ⟨.nil, rfl, rfl⟩
  exact exists_describes_after hfresh hts

/-- Without a depth limit nothing but the end of the tokens can end a pass over printable ones whose
indents fit. -/
theorem exists_describes_ofTokens (hdepth : settings.maxDepth? = none)
    (hts : ∀ t ∈ ts, t.IsPrintable) (hfits : settings.IndentsFit ts) :
    ∃ scopes after fragment, (Matching.ofTokens ts).Describes scopes after ∧
      settings.formatFrom {} ts = (settings.sweep scopes after []).prepend fragment := by
  obtain ⟨scopes, after, fragment, hdescribes, hfront⟩ :=
    exists_describes_front (admits_of_indentsFit hdepth hts hfits)
  refine ⟨scopes, after, fragment, hdescribes, ?_⟩
  rw [← hfront [], List.append_nil]

/-- A token whose value cannot be written ends a pass. -/
theorem formatFrom_of_not_isWritable_behind {before : List Token} {t : Token}
    (hbefore : HoldsAlong settings.AdmitsBehind before) (ht : ¬t.value.IsWritable)
    (behind : List Token) :
    ∃ after, settings.formatFrom {} (before ++ t :: behind) =
      ⟨.error (.unprintable .tooManyDigits), after, behind⟩ := by
  obtain ⟨scopes, pass, fragment, -, hfront⟩ := exists_describes_front hbefore
  exact ⟨pass, by rw [hfront, sweep_of_not_isWritable ht]; rfl⟩

/-- The first token whose line cannot be indented ends a pass. -/
theorem formatFrom_of_unfit {before : List Token} {t : Token}
    (hbefore : HoldsAlong settings.AdmitsBehind before) (ht : t.IsPrintable)
    (hunfit : ¬settings.IndentFitsBehind before t) (behind : List Token) :
    ∃ after, settings.formatFrom {} (before ++ t :: behind) =
      ⟨.error (.unprintable .tooWide), after, behind⟩ := by
  obtain ⟨scopes, pass, fragment, hdescribes, hfront⟩ := exists_describes_front hbefore
  obtain ⟨hkind, hfits⟩ := Classical.not_imp.mp hunfit
  rw [Matching.ofTokens_snoc, ← length_shift hdescribes.scopes] at hfits
  obtain ⟨after, hsweep⟩ := sweep_of_unfit hdescribes.nesting_eq_length ht hkind hfits behind
  refine ⟨after, ?_⟩
  rw [hfront, hsweep]
  rfl

theorem formatFrom_of_not_indentsFit (hdepth : settings.maxDepth? = none)
    (hts : ∀ t ∈ ts, t.IsPrintable) (hfits : ¬settings.IndentsFit ts) :
    ∃ after rest, settings.formatFrom {} ts = ⟨.error (.unprintable .tooWide), after, rest⟩ := by
  obtain ⟨before, t, behind, rfl, hfront, hunfit⟩ :=
    (holdsAlong_or_first _ ts).resolve_left hfits
  have hbefore : ∀ u ∈ before, u.IsPrintable := fun u hu => hts u (List.mem_append_left _ hu)
  obtain ⟨after, hrun⟩ := formatFrom_of_unfit (admits_of_indentsFit hdepth hbefore hfront)
    (hts t (by simp)) hunfit behind
  exact ⟨after, behind, hrun⟩

end FormatSettings

namespace Formatter

variable {settings : FormatSettings} {ts : List Token}

theorem nesting_finish (f : Formatter) : f.finish.pass.nesting = f.pass.nesting := by
  unfold finish
  split <;> rfl

theorem format_of_ok {f : Formatter} {text : Text} {after : Pass} {rest : List Token}
    (h : f.settings.formatFrom f.pass f.rest = ⟨.ok text, after, rest⟩) :
    f.format = (.ok text, finish ⟨f.settings, after, rest⟩) := by
  simp only [format, resume, h]

theorem format_of_aborted {f : Formatter} {after : Pass} {rest : List Token}
    (h : f.settings.formatFrom f.pass f.rest = ⟨.error .aborted, after, rest⟩) :
    f.format =
      (.error (.diagnosed after.pending), ⟨f.settings, { after with pending := [] }, rest⟩) := by
  simp only [format, resume, h, takeErrors]

theorem format_of_unprintable {f : Formatter} {reason : Unprintable} {after : Pass}
    {rest : List Token}
    (h : f.settings.formatFrom f.pass f.rest = ⟨.error (.unprintable reason), after, rest⟩) :
    f.format = (.error (.unprintable reason), ⟨f.settings, after, rest⟩) := by
  simp only [format, resume, h]

theorem format_of_matched (hdepth : settings.maxDepth? = none) (hts : ∀ t ∈ ts, t.IsPrintable)
    (hfits : settings.IndentsFit ts) (hopeners : (Matching.ofTokens ts).openers = []) :
    ∃ text f, (ofTokens settings ts).format = (.ok text, f) ∧ f.pass.nesting = 0 ∧
      f.pass.pending = (Matching.ofTokens ts).unexpected := by
  obtain ⟨scopes, after, fragment, ⟨hscopes, hnesting, hpending⟩, hformat⟩ :=
    FormatSettings.exists_describes_ofTokens hdepth hts hfits
  rw [hopeners] at hscopes hnesting
  cases hscopes
  rw [FormatSettings.sweep_nil] at hformat
  refine ⟨_, _, format_of_ok hformat, ?_, ?_⟩
  · rw [nesting_finish]
    exact hnesting
  · rw [pending_finish]
    exact hpending

theorem format_of_unclosed (hdepth : settings.maxDepth? = none) (hts : ∀ t ∈ ts, t.IsPrintable)
    (hfits : settings.IndentsFit ts) {opener : Token} {openers : List Token}
    (hopeners : (Matching.ofTokens ts).openers = opener :: openers) :
    ∃ family f, opener.kind = .opening family ∧
      (ofTokens settings ts).format =
        (.error (.diagnosed ((Matching.ofTokens ts).unexpected ++
          [.unterminatedList (.closing family) (some opener)])), f) ∧
      f.pass.nesting = ((opener :: openers).length : Int) ∧ f.pass.pending = [] := by
  obtain ⟨scopes, after, fragment, ⟨hscopes, hnesting, hpending⟩, hformat⟩ :=
    FormatSettings.exists_describes_ofTokens hdepth hts hfits
  rw [hopeners] at hscopes hnesting
  cases hscopes with
  | @cons scope _ below _ hscope hbelow =>
      rw [FormatSettings.sweep_unterminated, hscope.opener] at hformat
      have herror := format_of_aborted (f := ofTokens settings ts) hformat
      rw [Pass.pending_report, hpending] at herror
      exact ⟨scope.family, _, hscope.kind, herror, hnesting, rfl⟩

theorem format_of_not_indentsFit (hdepth : settings.maxDepth? = none)
    (hts : ∀ t ∈ ts, t.IsPrintable) (hfits : ¬settings.IndentsFit ts) :
    ∃ f, (ofTokens settings ts).format = (.error (.unprintable .tooWide), f) := by
  obtain ⟨after, rest, hrun⟩ := FormatSettings.formatFrom_of_not_indentsFit hdepth hts hfits
  exact ⟨_, format_of_unprintable (f := ofTokens settings ts) hrun⟩

end Formatter

theorem formatTokens_of_ok {settings : FormatSettings} {ts : List Token} {text : Text}
    {f : Formatter} (h : (Formatter.ofTokens settings ts).format = (.ok text, f)) :
    formatTokens settings ts = .ok ⟨some text, f.pass.pending⟩ := by
  rw [formatTokens, h]

theorem formatTokens_of_diagnosed {settings : FormatSettings} {ts : List Token}
    {diagnostics : List Diagnostic} {f : Formatter}
    (h : (Formatter.ofTokens settings ts).format = (.error (.diagnosed diagnostics), f)) :
    formatTokens settings ts = .ok ⟨none, diagnostics⟩ := by
  rw [formatTokens, h]

theorem formatTokens_of_unprintable {settings : FormatSettings} {ts : List Token}
    {reason : Unprintable} {f : Formatter}
    (h : (Formatter.ofTokens settings ts).format = (.error (.unprintable reason), f)) :
    formatTokens settings ts = .error reason := by
  rw [formatTokens, h]

namespace Formatter

def symbolInParens : List Token :=
  [⟨.opening .paren, .absent, {}⟩, ⟨.symbol, .text ['a'], {}⟩, ⟨.closing .paren, .absent, {}⟩]

/-- An indent that is too wide by one space to the left. -/
def tooFarLeft : FormatSettings :=
  { indentSize := -9223372036854775809 }

theorem isPrintable_symbolInParens : ∀ t ∈ symbolInParens, t.IsPrintable := by
  simp [symbolInParens, Token.IsPrintable, Token.text, Value.printed]

/-- The symbol itself cannot be indented. -/
theorem not_indentsFit_take : ¬tooFarLeft.IndentsFit (symbolInParens.take 2) := by
  intro h
  have hleaf : ∀ family, TokenKind.symbol ≠ .opening family := by simp
  exact absurd (h [⟨.opening .paren, .absent, {}⟩] ⟨.symbol, .text ['a'], {}⟩ [] rfl hleaf)
    (by decide)

theorem not_indentsFit_symbolInParens : ¬tooFarLeft.IndentsFit symbolInParens :=
  fun h => not_indentsFit_take (HoldsAlong.front h)

/-- That the opening delimiters are all closed is not enough for a pass to succeed: an indent can be
too wide. -/
theorem openers_eq_nil_of_not_format :
    (∀ t ∈ symbolInParens, t.IsPrintable) ∧ (Matching.ofTokens symbolInParens).openers = [] ∧
      ¬∃ text, (ofTokens tooFarLeft symbolInParens).format.1 = .ok text := by
  refine ⟨isPrintable_symbolInParens, rfl, ?_⟩
  have hdepth : tooFarLeft.maxDepth? = none := rfl
  obtain ⟨f, hformat⟩ := format_of_not_indentsFit hdepth isPrintable_symbolInParens
    not_indentsFit_symbolInParens
  rw [hformat]
  rintro ⟨text, htext⟩
  cases htext

/-- A pass over printable tokens without a depth limit ends as matching does if its indents fit. It
succeeds if no opening delimiter is left, with one recoverable diagnostic for each ignored closing
one; otherwise the innermost one that is left is reported behind these. If an indent does not fit,
nothing but that is reported. -/
theorem format_eq_matching {settings : FormatSettings} (hdepth : settings.maxDepth? = none)
    {ts : List Token} (hts : ∀ t ∈ ts, t.IsPrintable) :
    (settings.IndentsFit ts →
      ((∃ text, (ofTokens settings ts).format.1 = .ok text) ↔
        (Matching.ofTokens ts).openers = []) ∧
      (∀ d ∈ (Matching.ofTokens ts).unexpected, d.recoverable = true) ∧
      ((Matching.ofTokens ts).openers = [] → ∃ text f,
        (ofTokens settings ts).format = (.ok text, f) ∧
        f.pass.nesting = 0 ∧ f.pass.pending = (Matching.ofTokens ts).unexpected ∧
        formatTokens settings ts = .ok ⟨some text, (Matching.ofTokens ts).unexpected⟩) ∧
      ∀ opener openers, (Matching.ofTokens ts).openers = opener :: openers → ∃ family f,
        opener.kind = .opening family ∧
        let unterminated := Diagnostic.unterminatedList (.closing family) (some opener)
        let diagnostics := (Matching.ofTokens ts).unexpected ++ [unterminated]
        unterminated.recoverable = false ∧
        (ofTokens settings ts).format = (.error (.diagnosed diagnostics), f) ∧
        f.pass.nesting = ((Matching.ofTokens ts).openers.length : Int) ∧ f.pass.pending = [] ∧
        formatTokens settings ts = .ok ⟨none, diagnostics⟩) ∧
    (¬settings.IndentsFit ts →
      (ofTokens settings ts).format.1 = .error (.unprintable .tooWide) ∧
      formatTokens settings ts = .error .tooWide) := by
  refine ⟨fun hfits => ⟨⟨?_, ?_⟩, fun _ => Matching.recoverable_of_mem_unexpected, ?_, ?_⟩,
    fun hfits => ?_⟩
  · rintro ⟨text, htext⟩
    cases hopeners : (Matching.ofTokens ts).openers with
    | nil => rfl
    | cons opener openers =>
        obtain ⟨family, f, -, hformat, -⟩ := format_of_unclosed hdepth hts hfits hopeners
        rw [hformat] at htext
        cases htext
  · intro hopeners
    obtain ⟨text, f, hformat, -⟩ := format_of_matched hdepth hts hfits hopeners
    exact ⟨text, by rw [hformat]⟩
  · intro hopeners
    obtain ⟨text, f, hformat, hnesting, hpending⟩ := format_of_matched hdepth hts hfits hopeners
    have htokens := formatTokens_of_ok hformat
    rw [hpending] at htokens
    exact ⟨text, f, hformat, hnesting, hpending, htokens⟩
  · intro opener openers hopeners
    obtain ⟨family, f, hkind, hformat, hnesting, hpending⟩ :=
      format_of_unclosed hdepth hts hfits hopeners
    rw [← hopeners] at hnesting
    exact ⟨family, f, hkind, rfl, hformat, hnesting, hpending, formatTokens_of_diagnosed hformat⟩
  · obtain ⟨f, hformat⟩ := format_of_not_indentsFit hdepth hts hfits
    exact ⟨congrArg Prod.fst hformat, formatTokens_of_unprintable hformat⟩

/-- A list in braces that is left open inside a parenthesis, with two closing delimiters that do not
fit. -/
def crossedDelimiters : List Token :=
  [⟨.closing .square, .absent, {}⟩, ⟨.opening .paren, .absent, {}⟩, ⟨.symbol, .text ['a'], {}⟩,
    ⟨.opening .brace, .absent, {}⟩, ⟨.closing .paren, .absent, {}⟩]

theorem format_eq_matching_crossedDelimiters :
    (∀ t ∈ crossedDelimiters, t.IsPrintable) ∧ FormatSettings.IndentsFit {} crossedDelimiters ∧
      (ofTokens {} crossedDelimiters).format.1 = .error (.diagnosed
        [.unexpectedToken ⟨.closing .square, .absent, {}⟩,
          .unexpectedToken ⟨.closing .paren, .absent, {}⟩,
          .unterminatedList (.closing .brace) (some ⟨.opening .brace, .absent, {}⟩)]) := by
  have hts : ∀ t ∈ crossedDelimiters, t.IsPrintable := by
    simp [crossedDelimiters, Token.IsPrintable, Token.text, Value.printed]
  have hfits : FormatSettings.IndentsFit {} crossedDelimiters :=
    FormatSettings.indentsFit_of_natAbs (by decide)
  obtain ⟨family, f, hkind, -, hformat, -⟩ :=
    ((@format_eq_matching {} rfl crossedDelimiters hts).1 hfits).2.2.2 _ _ rfl
  cases hkind
  exact ⟨hts, hfits, congrArg Prod.fst hformat⟩

end Formatter

end TanSource
