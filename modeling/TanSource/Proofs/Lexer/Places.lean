import Mathlib.Data.List.DropRight
import TanSource.Proofs.Lexer.Splitting

/-!
# Places of a lexer

A lexer may be told to read on, to step over characters and to mark its place, in any order and
also behind a fault. Its places are counted up character by character. At every time they are the
ones that counting from the start of the input gives, and the stretches of its tokens lie one behind
the other (`places_counted`).
-/

namespace TanSource

namespace Position

/-- The place at which a row of characters stands that ends a text. -/
def InFrontOf (p : Position) (rest input : Text) : Prop :=
  ∃ passed, passed ++ rest = input ∧ p = ({} : Position).after passed

/-- A place between two characters of a text, at its start or at its end. -/
def Within (p : Position) (input : Text) : Prop :=
  ∃ rest, p.InFrontOf rest input

/-- Line and column are counted from the start of the text: the line feeds in front of the place,
and the characters between the last of them and the place. -/
structure CountedIn (p : Position) (input : Text) : Prop where
  line : p.line = 1 + (input.take p.index).count '\n'
  column : p.column = 1 + ((input.take p.index).rtakeWhile (· ≠ '\n')).length

theorem after_start (s : Text) :
    ({} : Position).after s =
      ⟨s.length, 1 + s.count '\n', 1 + (s.rtakeWhile (· ≠ '\n')).length⟩ := by
  -- The last character decides about the column, so the induction runs from the end.
  induction s using List.reverseRecOn with
  | nil => rfl
  | append_singleton s c ih =>
      rw [after_append, ih, after_cons, after_nil, past]
      by_cases hc : c = '\n'
      · subst hc
        simp [Nat.add_assoc]
      · simp [hc, Nat.add_assoc]

variable {p : Position} {rest input : Text}

theorem InFrontOf.after {lexeme : Text} (h : p.InFrontOf (lexeme ++ rest) input) :
    (p.after lexeme).InFrontOf rest input := by
  obtain ⟨passed, hinput, rfl⟩ := h
  exact ⟨passed ++ lexeme, by rw [List.append_assoc, hinput], (after_append _ _ _).symm⟩

/-- Behind the first item stands a place further on. -/
theorem InFrontOf.next {c : Char} {s lexeme : Text} {reading : Reading}
    (h : p.InFrontOf (c :: s) input) (hitem : firstItem c s = ⟨lexeme, reading, rest⟩) :
    (p.after lexeme).InFrontOf rest input ∧ p.index < (p.after lexeme).index := by
  have hne := List.length_pos_iff.mpr (firstItem_lexeme_ne_nil c s)
  rw [← firstItem_append c s, hitem] at h
  rw [hitem] at hne
  refine ⟨h.after, ?_⟩
  rw [index_after]
  exact Nat.lt_add_of_pos_right hne

theorem InFrontOf.within (h : p.InFrontOf rest input) : p.Within input :=
  ⟨rest, h⟩

theorem InFrontOf.rest_eq (h : p.InFrontOf rest input) : rest = input.drop p.index := by
  obtain ⟨passed, rfl, rfl⟩ := h
  simp

theorem Within.index_le (h : p.Within input) : p.index ≤ input.length := by
  obtain ⟨rest, passed, rfl, rfl⟩ := h
  simp

theorem Within.countedIn (h : p.Within input) : p.CountedIn input := by
  obtain ⟨rest, passed, rfl, rfl⟩ := h
  rw [after_start]
  exact ⟨by simp, by simp⟩

end Position

/-! ## Stretches of tokens -/

/-- The stretches of the tokens are not empty, lie one behind the other between the two indexes, and
begin and end at places of the text. -/
structure SpansBetween (input : Text) (first last : Nat) (ts : List Token) : Prop where
  within : ∀ t ∈ ts, t.span.start.Within input ∧ t.span.stop.Within input
  lower : ∀ t ∈ ts, first ≤ t.span.start.index
  proper : ∀ t ∈ ts, t.span.start.index < t.span.stop.index
  upper : ∀ t ∈ ts, t.span.stop.index ≤ last
  ordered : ts.Pairwise fun t u => t.span.stop.index ≤ u.span.start.index

namespace SpansBetween

variable {input : Text} {first middle last : Nat} {ts us : List Token}

theorem nil : SpansBetween input first last [] := by
  constructor <;> simp

theorem singleton {t : Token} (hstart : t.span.start.Within input)
    (hstop : t.span.stop.Within input) (hproper : t.span.start.index < t.span.stop.index) :
    SpansBetween input t.span.start.index t.span.stop.index [t] := by
  constructor <;> simp [hstart, hstop, hproper]

theorem widen {first' last' : Nat} (h : SpansBetween input first last ts) (hfirst : first' ≤ first)
    (hlast : last ≤ last') : SpansBetween input first' last' ts :=
  { h with
    lower := fun t ht => Nat.le_trans hfirst (h.lower t ht)
    upper := fun t ht => Nat.le_trans (h.upper t ht) hlast }

theorem append (hts : SpansBetween input first middle ts) (hus : SpansBetween input middle last us)
    (hfirst : first ≤ middle) (hlast : middle ≤ last) :
    SpansBetween input first last (ts ++ us) where
  within := List.forall_mem_append.mpr ⟨hts.within, hus.within⟩
  lower := List.forall_mem_append.mpr
    ⟨hts.lower, fun u hu => Nat.le_trans hfirst (hus.lower u hu)⟩
  proper := List.forall_mem_append.mpr ⟨hts.proper, hus.proper⟩
  upper := List.forall_mem_append.mpr
    ⟨fun t ht => Nat.le_trans (hts.upper t ht) hlast, hus.upper⟩
  ordered := List.pairwise_append.mpr ⟨hts.ordered, hus.ordered,
    fun t ht u hu => Nat.le_trans (hts.upper t ht) (hus.lower u hu)⟩

end SpansBetween

/-! ## One run -/

/-- What a run that starts at a place comes to: it ends at a place of the text, which is not in
front of the one where it started, and its tokens lie between the two. -/
structure LexRun.Covers (run : LexRun) (input : Text) (start : Position) : Prop where
  stop : run.here.InFrontOf run.rest input
  start_le : start.index ≤ run.here.index
  mark : run.mark.Within input
  mark_le : run.mark.index ≤ run.here.index
  tokens : SpansBetween input start.index run.here.index run.tokens

theorem lexFrom_covers {input : Text} {mark here : Position} {s : Text}
    (hhere : here.InFrontOf s input) (hmark : mark.Within input)
    (hle : mark.index ≤ here.index) : (lexFrom mark here s).Covers input here := by
  induction mark, here, s using lexFrom_induction with
  | nil mark here =>
      rw [lexFrom_nil]
      exact ⟨hhere, Nat.le_refl _, hmark, hle, .nil⟩
  | blank mark here c s lexeme rest hitem ih =>
      obtain ⟨hnext, hlt⟩ := hhere.next hitem
      have hrest := ih hnext hhere.within (Nat.le_of_lt hlt)
      rw [lexFrom_of_blank mark here hitem]
      exact { hrest with
        start_le := Nat.le_trans (Nat.le_of_lt hlt) hrest.start_le
        tokens := hrest.tokens.widen (Nat.le_of_lt hlt) (Nat.le_refl _) }
  | token mark here c s lexeme kind value rest hitem ih =>
      obtain ⟨hnext, hlt⟩ := hhere.next hitem
      have hrest := ih hnext hhere.within (Nat.le_of_lt hlt)
      have hfirst := SpansBetween.singleton (t := ⟨kind, value, ⟨here, here.after lexeme⟩⟩)
        hhere.within hnext.within hlt
      rw [lexFrom_of_token mark here hitem]
      exact { hrest with
        start_le := Nat.le_trans (Nat.le_of_lt hlt) hrest.start_le
        tokens := hfirst.append hrest.tokens (Nat.le_of_lt hlt) hrest.start_le }
  | fault mark here c s lexeme f rest hitem =>
      obtain ⟨hnext, hlt⟩ := hhere.next hitem
      rw [lexFrom_of_fault mark here hitem]
      exact ⟨hnext, Nat.le_of_lt hlt, hhere.within, Nat.le_of_lt hlt, .nil⟩

/-! ## Calls -/

namespace Lexer

inductive Call
  | tokenize
  | advance (count : Int)
  | mark

def afterCall (lexer : Lexer) : Call → Lexer
  | .tokenize => lexer.tokenize.2
  | .advance count => (lexer.advance count).2
  | .mark => lexer.markHere

def afterCalls (lexer : Lexer) (calls : List Call) : Lexer :=
  calls.foldl afterCall lexer

/-- The places of a lexer of the input are places of the input, in their order. -/
structure InPlace (lexer : Lexer) (input : Text) : Prop where
  input_eq : lexer.input = input
  here : lexer.here.InFrontOf lexer.rest input
  mark : lexer.mark.Within input
  mark_le : lexer.mark.index ≤ lexer.here.index
  tokens : SpansBetween input 0 lexer.here.index lexer.tokens

variable {lexer : Lexer} {input : Text}

theorem inPlace_ofText (input : Text) : (ofText input).InPlace input := by
  have hhere : ({} : Position).InFrontOf input input := ⟨[], rfl, rfl⟩
  exact ⟨rfl, hhere, hhere.within, Nat.le_refl _, .nil⟩

theorem tokenize_snd (lexer : Lexer) : lexer.tokenize.2 = lexer.afterRun lexer.run := by
  unfold tokenize
  dsimp only
  split <;> rfl

theorem InPlace.tokenize (h : lexer.InPlace input) : lexer.tokenize.2.InPlace input := by
  have hrun : lexer.run.Covers input lexer.here := lexFrom_covers h.here h.mark h.mark_le
  rw [tokenize_snd]
  exact ⟨h.input_eq, hrun.stop, hrun.mark, hrun.mark_le,
    h.tokens.append hrun.tokens (Nat.zero_le _) hrun.start_le⟩

theorem advance_snd (lexer : Lexer) (count : Int) :
    (lexer.advance count).2 = { lexer with
      rest := lexer.rest.drop count.toNat
      here := lexer.here.after (lexer.rest.take count.toNat) } := by
  unfold advance
  dsimp only
  split <;> rfl

theorem InPlace.advance (h : lexer.InPlace input) (count : Int) :
    (lexer.advance count).2.InPlace input := by
  have hhere := h.here
  rw [← List.take_append_drop count.toNat lexer.rest] at hhere
  have hle : lexer.here.index ≤ (lexer.here.after (lexer.rest.take count.toNat)).index := by
    rw [Position.index_after]
    exact Nat.le_add_right _ _
  rw [advance_snd]
  exact ⟨h.input_eq, hhere.after, h.mark, Nat.le_trans h.mark_le hle,
    h.tokens.widen (Nat.le_refl _) hle⟩

theorem InPlace.markHere (h : lexer.InPlace input) : lexer.markHere.InPlace input :=
  { h with mark := h.here.within, mark_le := Nat.le_refl _ }

theorem InPlace.afterCall (h : lexer.InPlace input) (call : Call) :
    (lexer.afterCall call).InPlace input := by
  cases call with
  | tokenize => exact h.tokenize
  | advance count => exact h.advance count
  | mark => exact h.markHere

theorem InPlace.afterCalls (h : lexer.InPlace input) (calls : List Call) :
    (lexer.afterCalls calls).InPlace input := by
  induction calls generalizing lexer with
  | nil => exact h
  | cons call calls ih => exact ih (h.afterCall call)

theorem tokens_prefix_afterCall (lexer : Lexer) (call : Call) :
    lexer.tokens <+: (lexer.afterCall call).tokens := by
  cases call with
  | tokenize =>
      rw [afterCall, tokenize_snd]
      exact List.prefix_append _ _
  | advance count =>
      have htokens : (lexer.afterCall (.advance count)).tokens = lexer.tokens := by
        rw [afterCall, advance_snd]
      simp only [htokens, List.prefix_rfl]
  | mark => exact List.prefix_rfl

theorem tokens_prefix_afterCalls (lexer : Lexer) (calls : List Call) :
    lexer.tokens <+: (lexer.afterCalls calls).tokens := by
  induction calls generalizing lexer with
  | nil => exact List.prefix_rfl
  | cons call calls ih => exact (lexer.tokens_prefix_afterCall call).trans (ih _)

/-- After any calls the places of a lexer are those that counting from the start of its input gives,
the mark is not behind the place of the lexer, and the stretches of the tokens lie one behind the
other in front of it. Further calls only add tokens. -/
theorem places_counted (input : Text) (calls : List Call) :
    let lexer := (ofText input).afterCalls calls
    lexer.input = input ∧ lexer.rest = input.drop lexer.here.index ∧
    lexer.mark.index ≤ lexer.here.index ∧ lexer.here.index ≤ input.length ∧
    lexer.here.CountedIn input ∧ lexer.mark.CountedIn input ∧
    (∀ t ∈ lexer.tokens, t.span.start.CountedIn input ∧ t.span.stop.CountedIn input ∧
      t.span.start.index < t.span.stop.index ∧ t.span.stop.index ≤ lexer.here.index) ∧
    lexer.tokens.Pairwise (fun t u => t.span.stop.index ≤ u.span.start.index) ∧
    ∀ more, lexer.tokens <+: (lexer.afterCalls more).tokens := by
  intro lexer
  have h : lexer.InPlace input := (inPlace_ofText input).afterCalls calls
  refine ⟨h.input_eq, h.here.rest_eq, h.mark_le, h.here.within.index_le, h.here.within.countedIn,
    h.mark.countedIn, ?_, h.tokens.ordered, lexer.tokens_prefix_afterCalls⟩
  intro t ht
  obtain ⟨hstart, hstop⟩ := h.tokens.within t ht
  exact ⟨hstart.countedIn, hstop.countedIn, h.tokens.proper t ht, h.tokens.upper t ht⟩

end Lexer

end TanSource
