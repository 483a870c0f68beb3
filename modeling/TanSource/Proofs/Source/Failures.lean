import TanSource.Proofs.Formatter.DepthLimit
import TanSource.Proofs.Formatter.Ledger
import TanSource.Proofs.Lexer.Contents
import TanSource.Proofs.Lexer.Cursor
import TanSource.Proofs.Lexer.Prefixes
import TanSource.Proofs.Reader.Descent
import TanSource.Proofs.Lexer.Printed
import TanSource.Proofs.Source.Composition
import TanSource.Proofs.Source.WellFormed

/-!
# How source texts fail

A source text is laid out or written expression by expression, or it fails for one of a few reasons,
which are faults of the text but for an indent that is too wide and a limit of too many digits
(`sources_fail_as_declared`). Nothing that the parts of the program rely on fails: a cursor never
runs past the end, a number is always converted unless it is too long, and the value of a token that
was lexed always fits and can be written again.
-/

namespace TanSource

open ParseTree

inductive LexFault.OfText : LexFault → Prop
  | unterminatedString : OfText .unterminatedString
  | unterminatedAnnot : OfText .unterminatedAnnot
  | emptyAnnot : OfText .emptyAnnot
  | tooManyDigits {count : Nat} (hcount : integerDigitLimit < count) :
      OfText (.tooManyDigits count)

/-- Why a text cannot be laid out: the lexer meets a fault, the pass is aborted and hands out the
closing delimiters that it left out and the one reason of the abort, or the settings ask of it what
it cannot write. -/
inductive SourceError.OfFormat (s : Text) (settings : FormatSettings) : SourceError → Prop
  | lexical {e : LexError} (he : e.fault.OfText) : OfFormat s settings (.lexical e)
  | aborted {strays : List Token} {d : Diagnostic} (hd : d.recoverable = false) :
      OfFormat s settings (.formatting (.diagnosed (strays.map .unexpectedToken ++ [d])))
  | unprintable {ts : List Token} {reason : Unprintable} (hts : tokenize s = .ok ts)
      (h : settings.CannotWrite ts reason) :
      OfFormat s settings (.formatting (.unprintable reason))

/-- Why the expressions of a text cannot be written: the lexer meets a fault, or the reader rejects
a token. -/
inductive SourceError.OfCompact : SourceError → Prop
  | lexical {e : LexError} (he : e.fault.OfText) : OfCompact (.lexical e)
  | rejected {problem : ReadProblem} {t : Token} : OfCompact (.reading (.rejected problem t))

/-! ## Lexing -/

theorem LexFault.Begins.ofText {f : LexFault} {s : Text} (h : f.Begins s) : f.OfText := by
  cases h with
  | unterminatedString => exact .unterminatedString
  | unterminatedAnnot => exact .unterminatedAnnot
  | emptyAnnot => exact .emptyAnnot

theorem ofText_of_tokenize {s : Text} {e : LexError} (h : tokenize s = .error e) :
    e.fault.OfText := by
  obtain ⟨c, back, lexeme, rest, -, hitem⟩ := readsTo_of_error (tokenize_eq_error_iff.mp h)
  rcases begins_of_firstItem hitem with hbegins | ⟨count, hfault, hcount⟩
  · exact hbegins.ofText
  · rw [hfault]
    exact .tooManyDigits hcount

theorem LexFault.OfText.message {e : LexError} (h : e.fault.OfText)
    (hlocated : e.isLocated = true) :
    ∃ text ∈ ["Unterminated string", "Unterminated annotation", "Empty annotation"],
      e.message = LexError.report text e.place.line e.place.column := by
  obtain ⟨fault, place⟩ := e
  cases h with
  | unterminatedString => exact ⟨_, List.mem_cons_self, rfl⟩
  | unterminatedAnnot => exact ⟨_, List.mem_cons_of_mem _ List.mem_cons_self, rfl⟩
  | emptyAnnot =>
      exact ⟨_, List.mem_cons_of_mem _ (List.mem_cons_of_mem _ List.mem_cons_self), rfl⟩
  | tooManyDigits => cases hlocated

/-- The scan of a text gives the tokens of the lexer, or fails as it does. -/
theorem scan_ofText (s : Text) :
    ((Lexer.ofText s).scan.map Lexer.tokens).mapError ScanStop.failure =
      (tokenize s).mapError .lexical := by
  rw [Lexer.scan_eq_run ⟨[], rfl, rfl⟩, tokenize, Lexer.tokenize]
  simp only [Lexer.afterScan]
  cases (Lexer.ofText s).run.error? <;> rfl

theorem convertNumber_error {word : Text} {n : Numeral} (h : Numeral.ofWord? word = some n)
    {fault : ConversionFault} (herror : convertNumber (Numeral.partDigits word) = .error fault) :
    ∃ count, fault = .tooManyDigits count ∧ integerDigitLimit < count := by
  rw [convertNumber_of_numeral h] at herror
  split at herror
  · split at herror
    · next hcount =>
        cases herror
        exact ⟨_, rfl, hcount⟩
    · cases herror
  · cases herror

theorem Lexeme.Denotes.wellTyped {x : Lexeme} {t : Token} (h : x.Denotes t.kind t.value) :
    t.WellTyped := by
  obtain ⟨kind, value, span⟩ := t
  cases h with
  | string | symbol | int | float => exact ⟨_, rfl⟩
  | _ => trivial

theorem wellTyped_of_tokenize {s : Text} {ts : List Token} (h : tokenize s = .ok ts) :
    ∀ t ∈ ts, t.WellTyped := by
  intro t ht
  obtain ⟨x, -, hdenotes, -⟩ := exists_lexeme_of_tokenize h t ht
  exact hdenotes.wellTyped

theorem fewDigits_of_tokenize {s : Text} {ts : List Token} (h : tokenize s = .ok ts)
    {t : Token} (ht : t ∈ ts) {n : Int} (hn : t.value = .int n) : FewDigits n := by
  obtain ⟨x, -, hdenotes, hlimit⟩ := exists_lexeme_of_tokenize h t ht
  rw [hn] at hdenotes
  generalize t.kind = kind at hdenotes
  cases hdenotes with
  | int l hfraction hexponent =>
      exact Nat.le_trans l.length_toDigits_toInt_le (hlimit l rfl hfraction hexponent)

theorem isPrintable_of_tokenize {s : Text} {ts : List Token} (h : tokenize s = .ok ts) :
    ∀ t ∈ ts, t.IsPrintable := by
  intro t ht
  refine (wellTyped_of_tokenize h t ht).isPrintable ?_
  cases hvalue : t.value with
  | int n => exact Value.isWritable_int.mpr (fewDigits_of_tokenize h ht hvalue)
  | _ => simp

/-! ## Formatting -/

theorem Formatter.AbortedBy.recoverable {f : Formatter} {call : Formatter.Call} {d : Diagnostic}
    (h : f.AbortedBy call d) : d.recoverable = false := by
  cases h with
  | refused => rfl
  | stopped _ h => cases h <;> rfl

/-- A pass over tokens that can be printed returns, or is aborted and hands out what it recorded, or
comes to what it cannot write. -/
theorem Formatter.format_failure {settings : FormatSettings} {ts : List Token}
    (hts : ∀ t ∈ ts, t.IsPrintable) {failure : FormatFailure}
    (h : (ofTokens settings ts).format.1 = .error failure) :
    (∃ (strays : List Token) (d : Diagnostic), d.recoverable = false ∧
      failure = .diagnosed (strays.map .unexpectedToken ++ [d])) ∨
    ∃ reason, settings.CannotWrite ts reason ∧ failure = .unprintable reason := by
  have hrecords := (ofTokens settings ts).course_records .format
  cases hhalt : ((ofTokens settings ts).course .format).halt? with
  | none =>
      have hreturns := (format_follows (ofTokens settings ts)).returns.mpr hhalt
      rw [h] at hreturns
      cases hreturns
  | some halt =>
      rcases format_of_halt hhalt with ⟨rfl, hformat⟩ | ⟨reason, rfl, hformat⟩
      · obtain ⟨d, hd, hdiagnostics⟩ := hrecords.aborts hhalt
        rw [hformat, hdiagnostics] at h
        cases h
        exact Or.inl ⟨_, d, hd.recoverable, rfl⟩
      · rw [hformat] at h
        cases h
        have hrun := settings.formatFrom_follows {} ts
        exact Or.inr ⟨reason, FormatSettings.cannotWrite_of_formatFrom hts (hrun.halts _ hhalt),
          rfl⟩

/-- Inside a pass over such tokens nothing else happens either. -/
theorem FormatSettings.halt_of_formatFrom {settings : FormatSettings} {ts : List Token}
    (hts : ∀ t ∈ ts, t.IsPrintable) {halt : Halt}
    (h : (settings.formatFrom {} ts).result = .error halt) :
    halt = .aborted ∨ ∃ reason, settings.CannotWrite ts reason ∧ halt = .unprintable reason := by
  cases halt with
  | aborted => exact Or.inl rfl
  | unprintable reason => exact Or.inr ⟨reason, cannotWrite_of_formatFrom hts h, rfl⟩
  | notClosing =>
      exact absurd ((settings.formatFrom_follows {} ts).halt_of_error h) courseFrom_halt

theorem FormatOptions.settings_of_name (options : FormatOptions) (layout : Layout) :
    { options with layoutName := layout.name }.settings =
      .ok ⟨options.indentSize, layout, options.maxDepth?, options.log⟩ := by
  simp only [settings, Layout.ofName?_name]

theorem ofFormat_of_formatSource {s : Text} {options : FormatOptions} {settings : FormatSettings}
    (hsettings : options.settings = .ok settings) {e : SourceError}
    (h : formatSource options s = .error e) : e.OfFormat s settings := by
  cases hts : tokenize s with
  | error fault =>
      rw [formatSource_of_fault hts] at h
      cases h
      exact .lexical (ofText_of_tokenize hts)
  | ok ts =>
      rw [formatSource_of_tokenize hts hsettings] at h
      cases hformat : (Formatter.ofTokens settings ts).format.1 with
      | ok out =>
          rw [hformat] at h
          cases h
      | error failure =>
          rw [hformat] at h
          cases h
          rcases Formatter.format_failure (isPrintable_of_tokenize hts) hformat with
            ⟨strays, d, hd, rfl⟩ | ⟨reason, hreason, rfl⟩
          · exact .aborted hd
          · exact .unprintable hts hreason

/-! ## Reading -/

theorem AtomMeans.isWritable {t : Token} {e : Expr} (h : AtomMeans t e)
    (hvalue : t.value.IsWritable) : e.IsWritable := by
  cases h with
  | int => exact Value.isWritable_int.mp hvalue
  | _ => trivial

theorem Expr.isWritable_of_listMeans {family : Bracket} {terms : List Expr} {e : Expr}
    (hterms : ∀ term ∈ terms, term.IsWritable) (he : ListMeans family terms e) :
    e.IsWritable := by
  cases he with
  | unit => trivial
  | parens => exact Expr.isWritable_list.mpr hterms
  | array | dict => exact Expr.isWritable_list.mpr (List.forall_mem_cons.mpr ⟨trivial, hterms⟩)

section

variable [Coercion]

/-- The expressions of a text are what trees over its tokens mean, remarks left out. -/
theorem exists_trees_of_read {s : Text} {ts : List Token} (hts : tokenize s = .ok ts)
    {es : List Expr} (hes : read (stripRemarks ts) = .ok es) :
    ∃ xs, MeansAll xs es ∧ yields xs = stripRemarks ts := by
  have hread : read ts = .ok es := (readFrom_stripRemarks [] ts).symm.trans hes
  exact (read_eq_ok_iff (wellTyped_of_tokenize hts)).mp hread

/-- The expressions of a text can be written. -/
theorem isWritable_of_read {s : Text} {ts : List Token} (hts : tokenize s = .ok ts)
    {es : List Expr} (hes : read (stripRemarks ts) = .ok es) : ∀ e ∈ es, e.IsWritable := by
  obtain ⟨xs, hxs, hyields⟩ := exists_trees_of_read hts hes
  refine of_meansAll (fun e he => ⟨trivial, he, trivial⟩)
    (fun _ _ _ => Expr.isWritable_of_listMeans) xs hxs fun t ht e he => ?_
  rw [hyields] at ht
  exact he.isWritable (isPrintable_of_tokenize hts t (List.mem_filter.mp ht).1).1

theorem rejected_of_read {s : Text} {ts : List Token} (hts : tokenize s = .ok ts)
    {failure : ReadFailure} (h : read (stripRemarks ts) = .error failure) :
    ∃ problem t, failure = .rejected problem t := by
  rw [read, readFrom_stripRemarks] at h
  exact rejected_of_readFrom (wellTyped_of_tokenize hts) h

theorem rejected_of_descendFrom {s : Text} {ts : List Token} (hts : tokenize s = .ok ts)
    {failure : DescentFailure} (h : (descendFrom (stripRemarks ts)).result = .error failure) :
    ∃ problem t, failure = .read (.rejected problem t) := by
  have hresult : (read (stripRemarks ts)).mapError DescentFailure.read = .error failure := by
    rw [← h, ← readFrom_eq_descendFrom]
    rfl
  cases hread : read (stripRemarks ts) with
  | ok es =>
      rw [hread] at hresult
      cases hresult
  | error reason =>
      obtain ⟨problem, t, rfl⟩ := rejected_of_read hts hread
      rw [hread] at hresult
      cases hresult
      exact ⟨problem, t, rfl⟩

theorem ofCompact_of_compactSource {s : Text} {e : SourceError}
    (h : compactSource s = .error e) : e.OfCompact := by
  cases hts : tokenize s with
  | error fault =>
      rw [compactSource_of_fault hts] at h
      cases h
      exact .lexical (ofText_of_tokenize hts)
  | ok ts =>
      rw [compactSource_of_tokenize hts] at h
      cases hread : read (stripRemarks ts) with
      | ok es =>
          have hlines := renderLines_of_isWritable (isWritable_of_read hts hread)
          simp only [hread, Except.mapError, Except.bind, hlines] at h
          cases h
      | error failure =>
          obtain ⟨problem, t, rfl⟩ := rejected_of_read hts hread
          rw [hread] at h
          cases h
          exact .rejected

end

/-! ## Source texts -/

/-- An indent that is too wide lets a text fail for none of the reasons that are declared. -/
theorem formatSource_fails_undeclared :
    ∃ e, formatSource { indentSize := -9223372036854775809 } "(a)".toList = .error e ∧
      (∀ fault, e ≠ .lexical fault) ∧
      (∀ diagnostics, e ≠ .formatting (.diagnosed diagnostics)) ∧
      e ≠ .formatting (.unprintable .tooManyDigits) := by
  have herror : formatSource { indentSize := -9223372036854775809 } "(a)".toList =
      .error (.formatting (.unprintable .tooWide)) := by decide +kernel
  exact ⟨_, herror, by simp, by simp, by simp⟩

/-- Whatever the layout, a text is laid out or fails for a fault of its own, for an indent that does
not fit or for a limit that has too many digits to be reported. With writing its expressions it
fails for a fault of its own only. The lexer that scans with a cursor gives the same tokens and the
same errors, so its cursor never passes the end and every number is converted that is not too long.
The values of the tokens fit their kinds and can be written again, the recursive reader rejects
tokens and never takes one behind the last, and a pass over them is stopped by nothing else. -/
theorem sources_fail_as_declared [Coercion] (s : Text) :
    (∀ (layout : Layout) (options : FormatOptions) (e : SourceError),
      formatSource { options with layoutName := layout.name } s = .error e →
        e.OfFormat s ⟨options.indentSize, layout, options.maxDepth?, options.log⟩) ∧
    (∀ e, compactSource s = .error e → e.OfCompact) ∧
    (∀ e, tokenize s = .error e → e.fault.OfText ∧
      (e.isLocated = true →
        ∃ text ∈ ["Unterminated string", "Unterminated annotation", "Empty annotation"],
          e.message = LexError.report text e.place.line e.place.column)) ∧
    ((Lexer.ofText s).scan.map Lexer.tokens).mapError ScanStop.failure =
      (tokenize s).mapError .lexical ∧
    (∀ word n fault, Numeral.ofWord? word = some n →
      convertNumber (Numeral.partDigits word) = .error fault →
      ∃ count, fault = .tooManyDigits count ∧ integerDigitLimit < count) ∧
    ∀ ts, tokenize s = .ok ts →
      (∀ t ∈ ts, t.WellTyped ∧ ∀ n, t.value = .int n → FewDigits n) ∧
      (∀ failure, (descendFrom (stripRemarks ts)).result = .error failure →
        ∃ problem t, failure = .read (.rejected problem t)) ∧
      ∀ (settings : FormatSettings) (halt : Halt),
        (settings.formatFrom {} ts).result = .error halt →
          halt = .aborted ∨
            ∃ reason, settings.CannotWrite ts reason ∧ halt = .unprintable reason := by
  refine ⟨?_, fun e => ofCompact_of_compactSource,
    fun e he => ⟨ofText_of_tokenize he, (ofText_of_tokenize he).message⟩, scan_ofText s,
    fun word n fault hword => convertNumber_error hword, ?_⟩
  · intro layout options e
    exact ofFormat_of_formatSource (options.settings_of_name layout)
  · intro ts hts
    exact ⟨fun t ht => ⟨wellTyped_of_tokenize hts t ht, fun n => fewDigits_of_tokenize hts ht⟩,
      fun failure => rejected_of_descendFrom hts,
      fun settings halt => FormatSettings.halt_of_formatFrom (isPrintable_of_tokenize hts)⟩

end TanSource
