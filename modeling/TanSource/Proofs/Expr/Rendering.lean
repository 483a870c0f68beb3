import TanSource.Proofs.Numeral.Literal
import TanSource.Source

/-!
# Rendering by structure

The stack of pieces is written from the top, so what stands above on it is written first. The text
of a list is therefore that of its terms, with single spaces between them. Said turn by turn, the
loop over the stack comes to its end with the text that recursion over the expression gives, or
stops at an integer of too many digits (`ends_with_structuralText`).
-/

namespace TanSource

/-! ## The text by recursion -/

def functionWord : Text := "#<func>".toList

mutual

def Expr.structuralText : Expr → Text
  | .unit => ['(', ')']
  | .bool b => if b then trueWord else falseWord
  | .int n => decimalText n
  | .float x => x.text
  | .symbol s => s
  | .string s => s
  | .list terms => '(' :: (Expr.structuralTerms terms ++ [')'])
  | .function => functionWord

def Expr.structuralTerms : List Expr → Text
  | [] => []
  | [e] => e.structuralText
  | e :: f :: fs => e.structuralText ++ ' ' :: Expr.structuralTerms (f :: fs)

end

mutual

/-- No integer in the expression has too many digits. -/
def Expr.IsWritable : Expr → Prop
  | .int n => FewDigits n
  | .list terms => Expr.AreWritable terms
  | _ => True

def Expr.AreWritable : List Expr → Prop
  | [] => True
  | e :: es => e.IsWritable ∧ Expr.AreWritable es

end

theorem Expr.areWritable_iff {terms : List Expr} :
    Expr.AreWritable terms ↔ ∀ e ∈ terms, e.IsWritable := by
  induction terms with
  | nil => simp [Expr.AreWritable]
  | cons e es ih => rw [Expr.AreWritable, ih, List.forall_mem_cons]

theorem Expr.isWritable_list {terms : List Expr} :
    (Expr.list terms).IsWritable ↔ ∀ e ∈ terms, e.IsWritable := by
  rw [Expr.IsWritable, Expr.areWritable_iff]

namespace Expr

theorem structuralTerms_cons (e : Expr) (es : List Expr) :
    structuralTerms (e :: es) =
      e.structuralText ++ es.flatMap fun f => ' ' :: f.structuralText := by
  induction es generalizing e with
  | nil => simp [structuralTerms]
  | cons f fs ih => rw [structuralTerms, ih, List.flatMap_cons, List.cons_append]

/-! ## Atoms -/

theorem atomText_of_isWritable {e : Expr} (he : ∀ terms, e ≠ .list terms) (h : e.IsWritable) :
    e.atomText = .ok e.structuralText := by
  cases e with
  | list terms => exact absurd rfl (he terms)
  | int n => exact intText_of_fewDigits h
  | bool b => cases b <;> rfl
  | _ => rfl

theorem atomText_of_not_isWritable {e : Expr} (he : ∀ terms, e ≠ .list terms)
    (h : ¬e.IsWritable) : e.atomText = .error .tooManyDigits := by
  cases e with
  | list terms => exact absurd rfl (he terms)
  | int n => exact if_neg h
  | _ => exact absurd trivial h

end Expr

/-! ## Pieces -/

namespace Piece

def chars : Piece → Text
  | expr e => e.structuralText
  | char c => [c]

def IsWritable : Piece → Prop
  | expr e => e.IsWritable
  | char _ => True

/-- Behind the first term each one comes with its space. -/
theorem intersperse_cons (e : Expr) (es : List Expr) :
    ((e :: es).map expr).intersperse (.char ' ') =
      .expr e :: es.flatMap (fun f => [.char ' ', .expr f]) := by
  induction es generalizing e with
  | nil => rfl
  | cons f fs ih =>
      rw [List.map_cons, List.map_cons, List.intersperse_cons_cons, ← List.map_cons, ih]
      rfl

/-- The pieces of a list are written as the list. -/
theorem chars_ofTerms (terms : List Expr) :
    (ofTerms terms).flatMap chars = (Expr.list terms).structuralText := by
  cases terms with
  | nil => rfl
  | cons e es =>
      rw [ofTerms, intersperse_cons, Expr.structuralText, Expr.structuralTerms_cons]
      simp [List.flatMap_assoc, chars]

theorem isWritable_ofTerms {terms : List Expr} :
    (∀ p ∈ ofTerms terms, p.IsWritable) ↔ (Expr.list terms).IsWritable := by
  rw [Expr.isWritable_list]
  cases terms with
  | nil => simp [ofTerms, IsWritable]
  | cons e es =>
      have hspaced : (∀ p ∈ es.flatMap fun f => [char ' ', expr f], p.IsWritable) ↔
          ∀ f ∈ es, f.IsWritable := by
        rw [List.forall_mem_flatMap]
        simp [IsWritable]
      rw [ofTerms, intersperse_cons, List.forall_mem_cons, List.cons_append, List.forall_mem_cons,
        List.forall_mem_append, hspaced]
      simp [IsWritable]

theorem render_of_isWritable {pieces : List Piece} (h : ∀ p ∈ pieces, p.IsWritable) :
    render pieces = .ok (pieces.flatMap chars) := by
  fun_induction render pieces with
  | case1 => rfl
  | case2 c rest ih =>
      rw [ih (List.forall_mem_cons.mp h).2]
      rfl
  | case3 terms rest ih =>
      obtain ⟨hlist, hrest⟩ := List.forall_mem_cons.mp h
      rw [ih (List.forall_mem_append.mpr ⟨isWritable_ofTerms.mpr hlist, hrest⟩),
        List.flatMap_append, chars_ofTerms]
      rfl
  | case4 atom rest hatom ih =>
      obtain ⟨hexpr, hrest⟩ := List.forall_mem_cons.mp h
      rw [Expr.atomText_of_isWritable hatom hexpr, ih hrest]
      rfl

theorem render_of_not_isWritable {pieces : List Piece} (h : ¬∀ p ∈ pieces, p.IsWritable) :
    render pieces = .error .tooManyDigits := by
  fun_induction render pieces with
  | case1 => exact absurd (by simp) h
  | case2 c rest ih =>
      rw [ih fun hrest => h (List.forall_mem_cons.mpr ⟨trivial, hrest⟩)]
      rfl
  | case3 terms rest ih =>
      refine ih fun hpieces => h ?_
      obtain ⟨hlist, hrest⟩ := List.forall_mem_append.mp hpieces
      exact List.forall_mem_cons.mpr ⟨isWritable_ofTerms.mp hlist, hrest⟩
  | case4 atom rest hatom ih =>
      by_cases hexpr : atom.IsWritable
      · rw [Expr.atomText_of_isWritable hatom hexpr,
          ih fun hrest => h (List.forall_mem_cons.mpr ⟨hexpr, hrest⟩)]
        rfl
      · rw [Expr.atomText_of_not_isWritable hatom hexpr]
        rfl

end Piece

namespace Expr

theorem render_of_isWritable {e : Expr} (h : e.IsWritable) : e.render = .ok e.structuralText := by
  have hpieces : ∀ p ∈ [Piece.expr e], p.IsWritable := by simpa [Piece.IsWritable] using h
  rw [render, Piece.render_of_isWritable hpieces]
  simp [Piece.chars]

theorem render_of_not_isWritable {e : Expr} (h : ¬e.IsWritable) :
    e.render = .error .tooManyDigits := by
  have hpieces : ¬∀ p ∈ [Piece.expr e], p.IsWritable := by simpa [Piece.IsWritable] using h
  rw [render, Piece.render_of_not_isWritable hpieces]

end Expr

/-! ## Lines -/

/-- The texts of expressions, with a line feed behind each. -/
def structuralLines (es : List Expr) : Text :=
  es.flatMap fun e => e.structuralText ++ ['\n']

theorem structuralLines_cons (e : Expr) (es : List Expr) :
    structuralLines (e :: es) = e.structuralText ++ '\n' :: structuralLines es := by
  simp [structuralLines]

theorem renderLines_of_isWritable {es : List Expr} (h : ∀ e ∈ es, e.IsWritable) :
    renderLines es = .ok (structuralLines es) := by
  induction es with
  | nil => rfl
  | cons e es ih =>
      obtain ⟨he, hes⟩ := List.forall_mem_cons.mp h
      rw [renderLines, Expr.render_of_isWritable he, ih hes, structuralLines_cons]
      rfl

theorem renderLines_of_not_isWritable {es : List Expr} (h : ¬∀ e ∈ es, e.IsWritable) :
    renderLines es = .error .tooManyDigits := by
  induction es with
  | nil => exact absurd (by simp) h
  | cons e es ih =>
      by_cases he : e.IsWritable
      · rw [renderLines, Expr.render_of_isWritable he,
          ih fun hes => h (List.forall_mem_cons.mpr ⟨he, hes⟩)]
        rfl
      · rw [renderLines, Expr.render_of_not_isWritable he]
        rfl

theorem renderLines_eq_ok_iff {es : List Expr} {out : Text} :
    renderLines es = .ok out ↔ (∀ e ∈ es, e.IsWritable) ∧ out = structuralLines es := by
  by_cases h : ∀ e ∈ es, e.IsWritable
  · rw [renderLines_of_isWritable h]
    exact ⟨fun hout => ⟨h, (Except.ok.inj hout).symm⟩, fun hout => congrArg _ hout.2.symm⟩
  · rw [renderLines_of_not_isWritable h]
    exact ⟨nofun, fun hout => absurd hout.1 h⟩

/-- Lines are rendered alike behind other ones. -/
theorem renderLines_append {es : List Expr} {out : Text} (h : renderLines es = .ok out)
    (fs : List Expr) : renderLines (es ++ fs) = (renderLines fs).map (out ++ ·) := by
  obtain ⟨hes, rfl⟩ := renderLines_eq_ok_iff.mp h
  by_cases hfs : ∀ e ∈ fs, e.IsWritable
  · rw [renderLines_of_isWritable (List.forall_mem_append.mpr ⟨hes, hfs⟩),
      renderLines_of_isWritable hfs, structuralLines, List.flatMap_append]
    rfl
  · have hjoined : ¬∀ e ∈ es ++ fs, e.IsWritable :=
      fun h => hfs (List.forall_mem_append.mp h).2
    rw [renderLines_of_not_isWritable hjoined, renderLines_of_not_isWritable hfs]
    rfl

/-! ## The loop -/

/-- The loop between two turns: what is written, and the pieces that are left, the top first. -/
structure Writer where
  written : Text
  pending : List Piece

namespace Writer

/-- Pushes terms, the last one first, and a space on top of each but the first one. -/
def pushTerms (terms : List Expr) (pending : List Piece) : List Piece :=
  terms.zipIdx.foldr (fun (e, index) stack =>
    if index = 0 then .expr e :: stack else .char ' ' :: .expr e :: stack) pending

/-- One turn, unless nothing is left. The top of the stack is written, or it is a list and gives way
to its pieces. -/
def turn? (w : Writer) : Option (Except Unprintable Writer) :=
  match w.pending with
  | [] => none
  | .char c :: rest => some (.ok ⟨w.written ++ [c], rest⟩)
  | .expr (.list terms) :: rest =>
      some (.ok ⟨w.written, .char '(' :: pushTerms terms (.char ')' :: rest)⟩)
  | .expr atom :: rest => some (atom.atomText.map fun s => ⟨w.written ++ s, rest⟩)

/-- So many turns lead from one state of the loop to the other. -/
inductive Runs : Nat → Writer → Writer → Prop
  | refl (w : Writer) : Runs 0 w w
  | turn {count : Nat} {w next last : Writer} (hturn : w.turn? = some (.ok next))
      (hrest : Runs count next last) : Runs (count + 1) w last

theorem foldr_zipIdx_succ (terms : List Expr) (index : Nat) (pending : List Piece) :
    (terms.zipIdx (index + 1)).foldr (fun (e, index) stack =>
      if index = 0 then .expr e :: stack else .char ' ' :: .expr e :: stack) pending =
      terms.flatMap (fun e => [.char ' ', .expr e]) ++ pending := by
  induction terms generalizing index with
  | nil => rfl
  | cons e es ih => simp [List.zipIdx_cons, ih]

theorem pushTerms_eq (terms : List Expr) (rest : List Piece) :
    .char '(' :: pushTerms terms (.char ')' :: rest) = Piece.ofTerms terms ++ rest := by
  cases terms with
  | nil => rfl
  | cons e es =>
      rw [pushTerms, List.zipIdx_cons, List.foldr_cons, foldr_zipIdx_succ, Piece.ofTerms,
        Piece.intersperse_cons]
      simp

theorem turn?_list (written : Text) (terms : List Expr) (rest : List Piece) :
    turn? ⟨written, .expr (.list terms) :: rest⟩ =
      some (.ok ⟨written, Piece.ofTerms terms ++ rest⟩) := by
  rw [← pushTerms_eq]
  rfl

theorem turn?_atom {atom : Expr} (hatom : ∀ terms, atom ≠ .list terms) (written : Text)
    (rest : List Piece) :
    turn? ⟨written, .expr atom :: rest⟩ =
      some (atom.atomText.map fun s => ⟨written ++ s, rest⟩) := by
  cases atom with
  | list terms => exact absurd rfl (hatom terms)
  | _ => rfl

/-- The pieces of a list weigh less than the list, which pays for the turn. -/
theorem succ_weights_ofTerms (terms : List Expr) (rest : List Piece) :
    Piece.weights (Piece.ofTerms terms ++ rest) + 1 ≤
      Piece.weights (.expr (.list terms) :: rest) := by
  have hpieces := Piece.weights_ofTerms terms
  rw [Piece.weights_append, Piece.weights, Piece.weight]
  omega

/-- From every state without overlong integers the loop comes to its end, with what is left written
behind what was. -/
theorem exists_runs (written : Text) {pending : List Piece} (h : ∀ p ∈ pending, p.IsWritable) :
    ∃ turns ≤ Piece.weights pending,
      Runs turns ⟨written, pending⟩ ⟨written ++ pending.flatMap Piece.chars, []⟩ := by
  fun_induction Piece.render pending generalizing written with
  | case1 => exact ⟨0, Nat.le_refl 0, by rw [List.flatMap_nil, List.append_nil]; exact .refl _⟩
  | case2 c rest ih =>
      obtain ⟨turns, hle, hruns⟩ := ih (written ++ [c]) (List.forall_mem_cons.mp h).2
      rw [List.append_assoc] at hruns
      refine ⟨turns + 1, ?_, .turn rfl hruns⟩
      rw [Piece.weights, Piece.weight]
      omega
  | case3 terms rest ih =>
      obtain ⟨hlist, hrest⟩ := List.forall_mem_cons.mp h
      obtain ⟨turns, hle, hruns⟩ :=
        ih written (List.forall_mem_append.mpr ⟨Piece.isWritable_ofTerms.mpr hlist, hrest⟩)
      rw [List.flatMap_append, Piece.chars_ofTerms] at hruns
      refine ⟨turns + 1, ?_, .turn (turn?_list written terms rest) hruns⟩
      exact Nat.le_trans (Nat.succ_le_succ hle) (succ_weights_ofTerms terms rest)
  | case4 atom rest hatom ih =>
      obtain ⟨hexpr, hrest⟩ := List.forall_mem_cons.mp h
      obtain ⟨turns, hle, hruns⟩ := ih (written ++ atom.structuralText) hrest
      rw [List.append_assoc] at hruns
      refine ⟨turns + 1, ?_, .turn ?_ hruns⟩
      · have hpos := atom.weight_pos
        rw [Piece.weights, Piece.weight]
        omega
      · rw [turn?_atom hatom, Expr.atomText_of_isWritable hatom hexpr]
        rfl

/-- From every other state it comes to the first overlong integer and fails there. -/
theorem exists_runs_overlong (written : Text) {pending : List Piece}
    (h : ¬∀ p ∈ pending, p.IsWritable) :
    ∃ turns ≤ Piece.weights pending, ∃ last, Runs turns ⟨written, pending⟩ last ∧
      last.turn? = some (.error .tooManyDigits) := by
  fun_induction Piece.render pending generalizing written with
  | case1 => exact absurd (by simp) h
  | case2 c rest ih =>
      obtain ⟨turns, hle, last, hruns, hlast⟩ :=
        ih (written ++ [c]) fun hrest => h (List.forall_mem_cons.mpr ⟨trivial, hrest⟩)
      refine ⟨turns + 1, ?_, last, .turn rfl hruns, hlast⟩
      rw [Piece.weights, Piece.weight]
      omega
  | case3 terms rest ih =>
      have hpieces : ¬∀ p ∈ Piece.ofTerms terms ++ rest, p.IsWritable := by
        intro hpieces
        obtain ⟨hlist, hrest⟩ := List.forall_mem_append.mp hpieces
        exact h (List.forall_mem_cons.mpr ⟨Piece.isWritable_ofTerms.mp hlist, hrest⟩)
      obtain ⟨turns, hle, last, hruns, hlast⟩ := ih written hpieces
      refine ⟨turns + 1, ?_, last, .turn (turn?_list written terms rest) hruns, hlast⟩
      exact Nat.le_trans (Nat.succ_le_succ hle) (succ_weights_ofTerms terms rest)
  | case4 atom rest hatom ih =>
      have hturn := turn?_atom hatom written rest
      by_cases hexpr : atom.IsWritable
      · rw [Expr.atomText_of_isWritable hatom hexpr] at hturn
        obtain ⟨turns, hle, last, hruns, hlast⟩ := ih (written ++ atom.structuralText)
          fun hrest => h (List.forall_mem_cons.mpr ⟨hexpr, hrest⟩)
        refine ⟨turns + 1, ?_, last, .turn hturn hruns, hlast⟩
        have hpos := atom.weight_pos
        rw [Piece.weights, Piece.weight]
        omega
      · rw [Expr.atomText_of_not_isWritable hatom hexpr] at hturn
        exact ⟨0, Nat.zero_le _, _, .refl _, hturn⟩

/-- An integer with one digit too many has a text by recursion, but is not rendered. -/
theorem not_render_eq_structuralText :
    (Expr.int (10 ^ integerDigitLimit)).render ≠
      .ok (Expr.int (10 ^ integerDigitLimit)).structuralText := by
  have hoverlong : ¬(Expr.int (10 ^ integerDigitLimit)).IsWritable := not_fewDigits_pow
  rw [Expr.render_of_not_isWritable hoverlong]
  simp

/-- Whatever the expression, the loop that writes it comes to an end, and this is how rendering
ends. Without an integer of too many digits in the expression, it ends with the text by recursion.
With one, it fails there and nothing is rendered. It takes no more turns than the expression
weighs. -/
theorem ends_with_structuralText (e : Expr) :
    (e.IsWritable → e.render = .ok e.structuralText ∧
      ∃ turns ≤ e.weight, Runs turns ⟨[], [.expr e]⟩ ⟨e.structuralText, []⟩) ∧
    (¬e.IsWritable → e.render = .error .tooManyDigits ∧
      ∃ turns ≤ e.weight, ∃ last, Runs turns ⟨[], [.expr e]⟩ last ∧
        last.turn? = some (.error .tooManyDigits)) := by
  have hweight : Piece.weights [.expr e] = e.weight := by simp [Piece.weights, Piece.weight]
  have hpieces : (∀ p ∈ [Piece.expr e], p.IsWritable) ↔ e.IsWritable := by simp [Piece.IsWritable]
  have htext : [Piece.expr e].flatMap Piece.chars = e.structuralText := by simp [Piece.chars]
  rw [← hweight, ← hpieces]
  refine ⟨fun h => ⟨Expr.render_of_isWritable (hpieces.mp h), ?_⟩,
    fun h => ⟨Expr.render_of_not_isWritable fun he => h (hpieces.mpr he),
      exists_runs_overlong [] h⟩⟩
  have hruns := exists_runs [] h
  rwa [List.nil_append, htext] at hruns

def mixedList : Expr :=
  .list [.int (-7), .list [], .bool true, .function]

theorem ends_with_structuralText_mixedList :
    mixedList.IsWritable ∧ mixedList.render = .ok "(-7 () true #<func>)".toList := by
  have hdigits : FewDigits (-7) := by decide
  have hwritable : mixedList.IsWritable := ⟨hdigits, trivial, trivial, trivial, trivial⟩
  exact ⟨hwritable, ((ends_with_structuralText mixedList).1 hwritable).1⟩

end Writer

end TanSource
