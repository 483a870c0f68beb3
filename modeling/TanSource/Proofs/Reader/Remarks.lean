import TanSource.Proofs.Reader.Descent

/-!
# Comments and annotations

A comment or an annotation takes the reader on by one token and does nothing else. So tokens are
read as they are without these: with the same expressions or the same failure, the same reports, and
in front of the same tokens (`readFrom_stripRemarks_eq`). It makes no difference where any are put
in or left out, nor whether a reader drops them before it starts (`create_ignores_remarks`).
-/

namespace TanSource

/-- The second row is the first one with comments and annotations put in. -/
inductive WithRemarks : List Token → List Token → Prop
  | nil : WithRemarks [] []
  | same {ts us : List Token} (t : Token) (h : WithRemarks ts us) : WithRemarks (t :: ts) (t :: us)
  | remark {ts us : List Token} {t : Token} (ht : t.isRemark = true) (h : WithRemarks ts us) :
      WithRemarks ts (t :: us)

theorem withRemarks_stripRemarks (ts : List Token) : WithRemarks (stripRemarks ts) ts := by
  induction ts with
  | nil => exact .nil
  | cons t ts ih =>
      cases ht : t.isRemark with
      | true =>
          rw [stripRemarks_of_remark ht]
          exact .remark ht ih
      | false =>
          rw [stripRemarks_of_not_remark ht]
          exact .same t ih

theorem WithRemarks.stripRemarks_eq {ts us : List Token} (h : WithRemarks ts us) :
    stripRemarks us = stripRemarks ts := by
  induction h with
  | nil => rfl
  | same t _ ih =>
      cases ht : t.isRemark with
      | true => rw [stripRemarks_of_remark ht, stripRemarks_of_remark ht, ih]
      | false => rw [stripRemarks_of_not_remark ht, stripRemarks_of_not_remark ht, ih]
  | remark ht _ ih => rw [stripRemarks_of_remark ht, ih]

/-! ## Reading without them -/

def DescentOutcome.stripped {α : Type} (outcome : DescentOutcome α) : DescentOutcome α :=
  { outcome with rest := stripRemarks outcome.rest }

theorem ReadOutcome.asDescent_stripped {α : Type} (outcome : ReadOutcome α) :
    outcome.stripped.asDescent = outcome.asDescent.stripped :=
  rfl

section

variable [Coercion]

/-- The descent, whose parts each pass over remarks in a place of their own, ends as it does without
them. -/
theorem descendFrom_stripRemarks (ts : List Token) :
    descendFrom (stripRemarks ts) = (descendFrom ts).stripped := by
  rw [← readFrom_eq_descendFrom, ← readFrom_eq_descendFrom, readFrom_stripRemarks_eq,
    ReadOutcome.asDescent_stripped]

/-! ## Readers -/

theorem read_withRemarks {ts us : List Token} (h : WithRemarks ts us) : read us = read ts := by
  rw [read, read, ← readFrom_stripRemarks [] us, h.stripRemarks_eq, readFrom_stripRemarks]

/-- Tokens are read as they are without their comments and annotations: with the same expressions,
the same token rejected for the same reason, or the same value that does not fit. It is all one
whether the reader drops them, and any may be put in or left out anywhere. By recursive descent,
which passes over them in several places, the row is read to the same end. -/
theorem create_ignores_remarks (ts : List Token) (log : LogSettings) :
    (∀ stripComments, (Reader.create ⟨true, false, log⟩ ts).1.map Reader.exprs =
      (Reader.create ⟨true, stripComments, log⟩ (stripRemarks ts)).1.map Reader.exprs) ∧
    (Reader.create ⟨true, true, log⟩ ts).1.map Reader.exprs =
      (Reader.create ⟨true, false, log⟩ ts).1.map Reader.exprs ∧
    (∀ us, WithRemarks ts us → ∀ stripComments stripComments',
      (Reader.create ⟨true, stripComments, log⟩ us).1.map Reader.exprs =
        (Reader.create ⟨true, stripComments', log⟩ ts).1.map Reader.exprs) ∧
    descendFrom (stripRemarks ts) =
      { descendFrom ts with rest := stripRemarks (descendFrom ts).rest } := by
  simp only [create_result]
  refine ⟨fun _ => read_withRemarks (withRemarks_stripRemarks ts), trivial, ?_,
    descendFrom_stripRemarks ts⟩
  intro us hus _ _
  exact read_withRemarks hus

end

/-- A bracket that is closed by one of another family, behind a quote mark. -/
def mismatchedBrackets : List Token :=
  [⟨.quote, .absent, {}⟩, ⟨.opening .paren, .absent, {}⟩,
    ⟨.closing .square, .absent, ⟨⟨6, 2, 1⟩, ⟨7, 2, 2⟩⟩⟩]

/-- The same with a remark at every place. -/
def remarkedBrackets : List Token :=
  [⟨.comment, .text ";".toList, {}⟩, ⟨.quote, .absent, {}⟩, ⟨.annot, .text "a".toList, {}⟩,
    ⟨.opening .paren, .absent, {}⟩, ⟨.comment, .absent, {}⟩,
    ⟨.closing .square, .absent, ⟨⟨6, 2, 1⟩, ⟨7, 2, 2⟩⟩⟩, ⟨.annot, .absent, {}⟩]

attribute [local instance] Coercion.lax

theorem create_ignores_remarks_mismatchedBrackets :
    WithRemarks mismatchedBrackets remarkedBrackets ∧
      (Reader.create ⟨true, false, {}⟩ remarkedBrackets).1.map Reader.exprs =
        .error (.rejected (.mismatched .paren .square)
          ⟨.closing .square, .absent, ⟨⟨6, 2, 1⟩, ⟨7, 2, 2⟩⟩⟩) := by
  have hremarks : WithRemarks mismatchedBrackets remarkedBrackets :=
    .remark rfl (.same _ (.remark rfl (.same _ (.remark rfl (.same _ (.remark rfl .nil))))))
  refine ⟨hremarks, ?_⟩
  rw [(create_ignores_remarks mismatchedBrackets {}).2.2.1 remarkedBrackets hremarks false true]
  rfl

end TanSource
