import TanSource.Coercion.Lax
import TanSource.Proofs.Formatter.Matching
import TanSource.Proofs.Numeral.Literal
import TanSource.Proofs.Reader.Derivations

/-!
# Well-formed rows of tokens

The formatter matches delimiters on a stack of its own and forgives those that do not fit; the
reader builds expressions and rejects the first token that cannot stand where it is. Both accept
without complaint the same rows of tokens, but for quote marks without an expression behind them,
which the formatter does not look at, and for what the formatter cannot write, of which the reader
writes nothing (`create_ok_iff_format_clean`).
-/

namespace TanSource

/-! ## Balanced delimiters -/

/-- Every delimiter of the tokens has its counterpart, with these opening ones in front of them. -/
def Balances (openers ts : List Token) : Prop :=
  Matching.after ⟨openers, []⟩ ts = ⟨[], []⟩

theorem Matching.ignored_prefix_past (m : Matching) (t : Token) :
    m.ignored <+: (m.past t).ignored := by
  unfold past
  split
  · exact List.prefix_rfl
  · split
    · exact List.prefix_rfl
    · exact List.prefix_append _ _
  · exact List.prefix_rfl

theorem Matching.ignored_prefix_after (m : Matching) (ts : List Token) :
    m.ignored <+: (m.after ts).ignored := by
  induction ts generalizing m with
  | nil => exact List.prefix_rfl
  | cons t ts ih => exact (m.ignored_prefix_past t).trans (ih (m.past t))

section

variable {t : Token} {family : Bracket} {openers ts : List Token}

theorem balances_nil : Balances openers [] ↔ openers = [] := by
  simp [Balances]

theorem balances_opening (ht : t.kind = .opening family) :
    Balances openers (t :: ts) ↔ Balances (t :: openers) ts := by
  rw [Balances, Matching.after_cons, Matching.past_opening ht, Balances]

theorem balances_closing (ht : t.kind = .closing family) {opener : Token}
    (hopener : opener.kind = .opening family) :
    Balances (opener :: openers) (t :: ts) ↔ Balances openers ts := by
  rw [Balances, Matching.after_cons, Matching.past_closing ht hopener, Balances]

theorem balances_leaf (ht : t.IsLeaf) : Balances openers (t :: ts) ↔ Balances openers ts := by
  rw [Balances, Matching.after_cons, Matching.past_leaf ht, Balances]

/-- What was ignored once stays so. -/
theorem not_balances_of_ignored (ht : t.kind = .closing family)
    (hopeners : openers.head?.map Token.kind ≠ some (.opening family)) :
    ¬Balances openers (t :: ts) := by
  intro h
  rw [Balances, Matching.after_cons, Matching.past_ignored ht hopeners] at h
  have hprefix := Matching.ignored_prefix_after ⟨openers, [] ++ [t]⟩ ts
  rw [h] at hprefix
  cases List.prefix_nil.mp hprefix

end

/-! ## Targets of quote marks -/

/-- Behind comments and annotations there is a token, and it is no closing delimiter. -/
def HasTarget (ts : List Token) : Prop :=
  ∃ t ∈ (ts.dropWhile Token.isRemark).head?, ∀ family, t.kind ≠ .closing family

def QuotesHaveTargets (ts : List Token) : Prop :=
  ∀ before mark after, ts = before ++ mark :: after → mark.kind = .quote → HasTarget after

theorem not_hasTarget_nil : ¬HasTarget [] := by
  simp [HasTarget]

theorem hasTarget_remark {t : Token} (ht : t.isRemark = true) (ts : List Token) :
    HasTarget (t :: ts) ↔ HasTarget ts := by
  rw [HasTarget, List.dropWhile_cons_of_pos ht, HasTarget]

theorem hasTarget_cons {t : Token} (ht : t.isRemark = false) (ts : List Token) :
    HasTarget (t :: ts) ↔ ∀ family, t.kind ≠ .closing family := by
  simp [HasTarget, ht]

theorem quotesHaveTargets_nil : QuotesHaveTargets [] := by
  simp [QuotesHaveTargets]

theorem quotesHaveTargets_cons {t : Token} {ts : List Token} :
    QuotesHaveTargets (t :: ts) ↔ (t.kind = .quote → HasTarget ts) ∧ QuotesHaveTargets ts := by
  constructor
  · intro h
    refine ⟨h [] t ts rfl, ?_⟩
    intro before mark after hts
    exact h (t :: before) mark after (by rw [hts, List.cons_append])
  · rintro ⟨hhead, htail⟩ before mark after hts
    cases before with
    | nil =>
        obtain ⟨rfl, rfl⟩ := List.cons.inj hts
        exact hhead
    | cons u before => exact htail before mark after (List.cons.inj hts).2

/-! ## What the reader accepts -/

/-- The delimiter that opened the construct, unless it is a quote mark. -/
def Frame.opener? : Frame → Option Token
  | quote _ => none
  | list opener _ _ => some opener

/-- An open list was opened by a delimiter of its family. -/
def Frame.IsOpened : Frame → Prop
  | quote _ => True
  | list opener family _ => opener.kind = .opening family

/-- The innermost construct is a quote mark. -/
def AwaitsTarget : List Frame → Prop
  | .quote _ :: _ => True
  | _ => False

/-- The delimiters are balanced behind the frames, and no quote mark lacks its target. -/
def Completes (frames : List Frame) (ts : List Token) : Prop :=
  (AwaitsTarget frames → HasTarget ts) ∧ Balances (frames.filterMap Frame.opener?) ts ∧
    QuotesHaveTargets ts

section

variable {t : Token} {family : Bracket} {frames : List Frame} {ts : List Token}

theorem completes_nil : Completes frames [] ↔ frames = [] := by
  cases frames with
  | nil => simp [Completes, AwaitsTarget, balances_nil, quotesHaveTargets_nil]
  | cons frame below =>
      cases frame with
      | quote mark => simp [Completes, AwaitsTarget, not_hasTarget_nil]
      | list opener family terms => simp [Completes, Frame.opener?, balances_nil]

theorem isLeaf_of_isRemark (ht : t.isRemark = true) : t.IsLeaf := by
  simp only [Token.isRemark, Bool.or_eq_true, decide_eq_true_eq] at ht
  rcases ht with ht | ht <;> simp [Token.IsLeaf, ht]

theorem completes_remark (ht : t.isRemark = true) :
    Completes frames (t :: ts) ↔ Completes frames ts := by
  have hquote : t.kind ≠ .quote := by
    intro hquote
    simp [Token.isRemark, hquote] at ht
  simp [Completes, hasTarget_remark ht, balances_leaf (isLeaf_of_isRemark ht),
    quotesHaveTargets_cons, hquote]

theorem completes_quote (ht : t.kind = .quote) :
    Completes frames (t :: ts) ↔ Completes (.quote t :: frames) ts := by
  have hremark : t.isRemark = false := by simp [Token.isRemark, ht]
  have hleaf : t.IsLeaf := by simp [Token.IsLeaf, ht]
  simp only [Completes, hasTarget_cons hremark, balances_leaf hleaf, quotesHaveTargets_cons, ht,
    AwaitsTarget, List.filterMap_cons, Frame.opener?]
  grind

theorem completes_opening (ht : t.kind = .opening family) :
    Completes frames (t :: ts) ↔ Completes (.list t family [] :: frames) ts := by
  have hremark : t.isRemark = false := by simp [Token.isRemark, ht]
  simp [Completes, hasTarget_cons hremark, balances_opening ht, quotesHaveTargets_cons, ht,
    AwaitsTarget, Frame.opener?]

theorem completes_closing (ht : t.kind = .closing family) {opener : Token}
    (hopener : opener.kind = .opening family) (terms : List Expr) :
    Completes (.list opener family terms :: frames) (t :: ts) ↔
      Balances (frames.filterMap Frame.opener?) ts ∧ QuotesHaveTargets ts := by
  simp [Completes, balances_closing ht hopener, quotesHaveTargets_cons, ht, AwaitsTarget,
    Frame.opener?]

theorem not_completes_closing (ht : t.kind = .closing family)
    (hframes : ∀ frame ∈ frames, frame.IsOpened)
    (hne : ¬∃ opener terms below, frames = .list opener family terms :: below) :
    ¬Completes frames (t :: ts) := by
  rintro ⟨htarget, hbalanced, -⟩
  cases frames with
  | nil => exact not_balances_of_ignored ht (by simp) hbalanced
  | cons frame below =>
      cases frame with
      | quote mark =>
          have hremark : t.isRemark = false := by simp [Token.isRemark, ht]
          exact (hasTarget_cons hremark ts).mp (htarget trivial) family ht
      | list opener expected terms =>
          have hopener : opener.kind = .opening expected := (List.forall_mem_cons.mp hframes).1
          refine not_balances_of_ignored ht ?_ hbalanced
          intro hsame
          have hsame : expected = family := by simpa [Frame.opener?, hopener] using hsame
          exact hne ⟨opener, terms, below, by rw [hsame]⟩

theorem completes_atom {e : Expr} (ht : AtomMeans t e) :
    Completes frames (t :: ts) ↔
      Balances (frames.filterMap Frame.opener?) ts ∧ QuotesHaveTargets ts := by
  obtain ⟨hquote, hdelimiter⟩ := ht.kind_ne
  simp [Completes, hasTarget_cons ht.isRemark, balances_leaf hdelimiter, quotesHaveTargets_cons,
    hquote, hdelimiter]

end

theorem exists_map_eq_ok {ε α β : Type} {f : α → β} {x : Except ε α} :
    (∃ b, x.map f = .ok b) ↔ ∃ a, x = .ok a := by
  cases x with
  | error e => simp [Except.map]
  | ok a => simp [Except.map]

section

variable [Coercion]

/-- Behind a complete expression no quote mark waits any more. -/
theorem deliver_ok_iff {ts : List Token}
    (hts : ∀ frames : List Frame, (∀ frame ∈ frames, frame.IsOpened) →
      ((∃ es, (readFrom frames ts).result = .ok es) ↔ Completes frames ts))
    {frames : List Frame} (hframes : ∀ frame ∈ frames, frame.IsOpened) (e : Expr) :
    (∃ es, deliver e frames ts = .ok es) ↔
      Balances (frames.filterMap Frame.opener?) ts ∧ QuotesHaveTargets ts := by
  -- quote marks pass the expression on, until a list or the row of expressions takes it
  induction frames generalizing e with
  | nil =>
      rw [deliver, exists_map_eq_ok, read, hts [] hframes]
      simp [Completes, AwaitsTarget]
  | cons frame below ih =>
      obtain ⟨hframe, hbelow⟩ := List.forall_mem_cons.mp hframes
      cases frame with
      | quote mark => exact ih hbelow e.quotation
      | list opener family terms =>
          have hframes : ∀ frame ∈ Frame.list opener family (e :: terms) :: below, frame.IsOpened :=
            List.forall_mem_cons.mpr ⟨hframe, hbelow⟩
          rw [deliver, hts _ hframes]
          simp [Completes, AwaitsTarget, Frame.opener?]

/-- The reader comes to the end of the tokens exactly if they complete the frames. -/
theorem readFrom_ok_iff {ts : List Token} (hts : ∀ t ∈ ts, t.WellTyped) {frames : List Frame}
    (hframes : ∀ frame ∈ frames, frame.IsOpened) :
    (∃ es, (readFrom frames ts).result = .ok es) ↔ Completes frames ts := by
  induction ts generalizing frames with
  | nil =>
      rw [completes_nil]
      cases frames with
      | nil => exact ⟨fun _ => rfl, fun _ => ⟨[], rfl⟩⟩
      | cons frame below =>
          constructor
          · rintro ⟨es, hes⟩
            cases hes
          · intro h
            cases h
  | cons t ts ih =>
      obtain ⟨ht, hts⟩ := List.forall_mem_cons.mp hts
      have hrest (frames : List Frame) (hframes : ∀ frame ∈ frames, frame.IsOpened) :
          (∃ es, (readFrom frames ts).result = .ok es) ↔ Completes frames ts := ih hts hframes
      rcases token_cases ht with hkind | hkind | ⟨family, hkind⟩ | ⟨family, hkind⟩ | ⟨e, hatom⟩
      · rw [readFrom_remark hkind, completes_remark hkind]
        exact hrest frames hframes
      · rw [readFrom_quote hkind, completes_quote hkind]
        exact hrest _ (List.forall_mem_cons.mpr ⟨trivial, hframes⟩)
      · rw [readFrom_opening hkind, completes_opening hkind]
        exact hrest _ (List.forall_mem_cons.mpr ⟨hkind, hframes⟩)
      · by_cases hclosed : ∃ opener terms below, frames = .list opener family terms :: below
        · obtain ⟨opener, terms, below, rfl⟩ := hclosed
          obtain ⟨hopener, hbelow⟩ := List.forall_mem_cons.mp hframes
          rw [readFrom_closing hkind, completes_closing hkind hopener]
          exact deliver_ok_iff hrest hbelow _
        · obtain ⟨problem, herror⟩ := (readFrom_closing_cases hkind frames ts).resolve_left hclosed
          rw [herror]
          constructor
          · rintro ⟨es, hes⟩
            cases hes
          · intro h
            exact absurd h (not_completes_closing hkind hframes hclosed)
      · rw [readFrom_atom hatom, completes_atom hatom]
        exact deliver_ok_iff hrest hframes e

end

/-! ## What the formatter accepts without complaint -/

theorem Token.WellTyped.isPrintable {t : Token} (ht : t.WellTyped) (hvalue : t.value.IsWritable) :
    t.IsPrintable := by
  obtain ⟨kind, value, span⟩ := t
  refine ⟨hvalue, ?_⟩
  have hprinted : value.printed.written = .ok value.printed.text :=
    Message.written_of_isWritable hvalue
  cases kind with
  | float =>
      obtain ⟨x, rfl⟩ := ht
      exact ⟨x.text, rfl⟩
  | quote => exact ⟨_, rfl⟩
  | delimiter d => exact ⟨_, rfl⟩
  | _ => simp [Token.text, hprinted, Except.map]

/-- A pass ends with a text and without diagnostics exactly if the delimiters are balanced. -/
theorem formatTokens_clean_iff {settings : FormatSettings} (hdepth : settings.maxDepth? = none)
    {ts : List Token} (hts : ∀ t ∈ ts, t.IsPrintable) (hfits : settings.IndentsFit ts) :
    (∃ text, formatTokens settings ts = .ok ⟨some text, []⟩) ↔ Balances [] ts := by
  have hmatching : Matching.ofTokens ts =
      ⟨(Matching.ofTokens ts).openers, (Matching.ofTokens ts).ignored⟩ := rfl
  show _ ↔ Matching.ofTokens ts = ⟨[], []⟩
  cases hopeners : (Matching.ofTokens ts).openers with
  | nil =>
      obtain ⟨text, f, hformat, -, hpending⟩ :=
        Formatter.format_of_matched hdepth hts hfits hopeners
      rw [formatTokens_of_ok hformat, hpending, hmatching, hopeners]
      simp [Matching.unexpected]
  | cons opener openers =>
      obtain ⟨family, f, -, hformat, -⟩ := Formatter.format_of_unclosed hdepth hts hfits hopeners
      rw [formatTokens_of_diagnosed hformat, hmatching, hopeners]
      simp

/-- Behind these tokens, this one has a value that can be written, on a line that can be
indented. -/
def FormatSettings.WritesBehind (settings : FormatSettings) (before : List Token) (t : Token) :
    Prop :=
  t.value.IsWritable ∧ settings.IndentFitsBehind before t

/-- A pass over tokens whose values fit fails for the first of them that it cannot write. -/
theorem formatTokens_of_not_writes {settings : FormatSettings} (hdepth : settings.maxDepth? = none)
    {ts : List Token} (hts : ∀ t ∈ ts, t.WellTyped)
    (hwrites : ¬HoldsAlong settings.WritesBehind ts) :
    ∃ reason, (reason = .tooManyDigits ∨ reason = .tooWide) ∧
      formatTokens settings ts = .error reason := by
  obtain ⟨before, t, behind, rfl, hbefore, hlast⟩ :=
    (holdsAlong_or_first _ ts).resolve_left hwrites
  have hfront : HoldsAlong settings.AdmitsBehind before := by
    rintro front u more rfl
    obtain ⟨hvalue, hfits⟩ := hbefore front u more rfl
    have hu : u.WellTyped := hts u (by simp)
    exact FormatSettings.admitsBehind_of_isPrintable hdepth (hu.isPrintable hvalue) hfits
  have ht : t.WellTyped := hts t (by simp)
  by_cases hvalue : t.value.IsWritable
  · have hunfit : ¬settings.IndentFitsBehind before t := fun hfits => hlast ⟨hvalue, hfits⟩
    obtain ⟨after, hrun⟩ :=
      FormatSettings.formatFrom_of_unfit hfront (ht.isPrintable hvalue) hunfit behind
    exact ⟨_, Or.inr rfl, formatTokens_of_unprintable (Formatter.format_of_unprintable
      (f := Formatter.ofTokens settings (before ++ t :: behind)) hrun)⟩
  · obtain ⟨after, hrun⟩ := FormatSettings.formatFrom_of_not_isWritable_behind hfront hvalue behind
    exact ⟨_, Or.inl rfl, formatTokens_of_unprintable (Formatter.format_of_unprintable
      (f := Formatter.ofTokens settings (before ++ t :: behind)) hrun)⟩

section

variable [Coercion]

theorem create_ok_iff_completes {ts : List Token} (hts : ∀ t ∈ ts, t.WellTyped)
    (stripComments : Bool) (log : LogSettings) :
    (∃ es, (Reader.create ⟨true, stripComments, log⟩ ts).1.map Reader.exprs = .ok es) ↔
      Balances [] ts ∧ QuotesHaveTargets ts := by
  rw [create_result, read, readFrom_ok_iff hts (by simp)]
  simp [Completes, AwaitsTarget]

/-- A reader of tokens whose values fit comes to their end exactly if the formatter, without a depth
limit, gives a text without diagnostics and every quote mark has a target behind it. This is so if
no integer has too many digits and all indents fit; otherwise the formatter fails with that, and
gives neither a text nor diagnostics. -/
theorem create_ok_iff_format_clean {settings : FormatSettings}
    (hdepth : settings.maxDepth? = none) {ts : List Token} (hts : ∀ t ∈ ts, t.WellTyped)
    (stripComments : Bool) (log : LogSettings) :
    ((∀ t ∈ ts, t.value.IsWritable) → settings.IndentsFit ts →
      ((∃ es, (Reader.create ⟨true, stripComments, log⟩ ts).1.map Reader.exprs = .ok es) ↔
        (∃ text, formatTokens settings ts = .ok ⟨some text, []⟩) ∧ QuotesHaveTargets ts)) ∧
    (¬((∀ t ∈ ts, t.value.IsWritable) ∧ settings.IndentsFit ts) →
      ∃ reason, (reason = .tooManyDigits ∨ reason = .tooWide) ∧
        formatTokens settings ts = .error reason) := by
  refine ⟨fun hvalues hfits => ?_, fun hnot => ?_⟩
  · have hprintable : ∀ t ∈ ts, t.IsPrintable := fun t ht => (hts t ht).isPrintable (hvalues t ht)
    rw [create_ok_iff_completes hts, formatTokens_clean_iff hdepth hprintable hfits]
  · refine formatTokens_of_not_writes hdepth hts fun hwrites => hnot ⟨fun t ht => ?_, ?_⟩
    · obtain ⟨before, behind, rfl⟩ := List.append_of_mem ht
      exact (hwrites before t behind rfl).1
    · exact fun before t behind hsplit => (hwrites before t behind hsplit).2

end

attribute [local instance] Coercion.lax

def overlongInteger : List Token :=
  [⟨.int, .int (10 ^ integerDigitLimit), {}⟩]

/-- A reader takes an integer that the formatter cannot write, and a list whose symbol the formatter
cannot indent. -/
theorem not_format_clean_of_create_ok :
    ((∀ t ∈ overlongInteger, t.WellTyped) ∧
      (∃ es, (Reader.create {} overlongInteger).1.map Reader.exprs = .ok es) ∧
      ¬∃ text, formatTokens {} overlongInteger = .ok ⟨some text, []⟩) ∧
    (∀ t ∈ Formatter.symbolInParens, t.WellTyped) ∧
      (∃ es, (Reader.create {} Formatter.symbolInParens).1.map Reader.exprs = .ok es) ∧
      ¬∃ text, formatTokens Formatter.tooFarLeft Formatter.symbolInParens =
        .ok ⟨some text, []⟩ := by
  refine ⟨⟨by simp [overlongInteger, Token.WellTyped], ⟨_, rfl⟩, ?_⟩,
    by simp [Formatter.symbolInParens, Token.WellTyped], ⟨_, rfl⟩, ?_⟩
  · have hwrites : ¬HoldsAlong (FormatSettings.WritesBehind {}) overlongInteger := fun h =>
      not_fewDigits_pow (Value.isWritable_int.mp (h [] _ [] rfl).1)
    obtain ⟨reason, -, herror⟩ := formatTokens_of_not_writes rfl
      (by simp [overlongInteger, Token.WellTyped]) hwrites
    rw [herror]
    rintro ⟨text, htext⟩
    cases htext
  · obtain ⟨f, hformat⟩ := Formatter.format_of_not_indentsFit
      (show Formatter.tooFarLeft.maxDepth? = none from rfl) Formatter.isPrintable_symbolInParens
      Formatter.not_indentsFit_symbolInParens
    rw [formatTokens_of_unprintable hformat]
    rintro ⟨text, htext⟩
    cases htext

/-- A quoted list with a comment behind the quote mark, and a quote mark inside the list that has
nothing behind it but the end of the list. -/
def danglingQuote : List Token :=
  [⟨.quote, .absent, {}⟩, ⟨.comment, .text ";".toList, {}⟩, ⟨.opening .paren, .absent, {}⟩,
    ⟨.quote, .absent, {}⟩, ⟨.closing .paren, .absent, {}⟩]

theorem create_ok_iff_format_clean_danglingQuote :
    (∀ t ∈ danglingQuote, t.WellTyped) ∧ (∀ t ∈ danglingQuote, t.value.IsWritable) ∧
      FormatSettings.IndentsFit {} danglingQuote ∧
      (∃ text, formatTokens {} danglingQuote = .ok ⟨some text, []⟩) ∧
      ¬∃ es, (Reader.create ⟨true, true, {}⟩ danglingQuote).1.map Reader.exprs = .ok es := by
  have hts : ∀ t ∈ danglingQuote, t.WellTyped := by simp [danglingQuote, Token.WellTyped]
  have hvalues : ∀ t ∈ danglingQuote, t.value.IsWritable := by simp [danglingQuote]
  have hfits : FormatSettings.IndentsFit {} danglingQuote :=
    FormatSettings.indentsFit_of_natAbs (by decide)
  have hclean := formatTokens_clean_iff rfl
    (fun t ht => (hts t ht).isPrintable (hvalues t ht)) hfits
  refine ⟨hts, hvalues, hfits, hclean.mpr rfl, ?_⟩
  rw [(@create_ok_iff_format_clean _ {} rfl danglingQuote hts true {}).1 hvalues hfits]
  rintro ⟨-, hquotes⟩
  have htarget : HasTarget [⟨.closing .paren, .absent, {}⟩] :=
    hquotes [⟨.quote, .absent, {}⟩, ⟨.comment, .text ";".toList, {}⟩,
      ⟨.opening .paren, .absent, {}⟩] ⟨.quote, .absent, {}⟩ _ rfl rfl
  simp [HasTarget, Token.isRemark] at htarget

end TanSource
