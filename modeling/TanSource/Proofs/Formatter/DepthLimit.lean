import TanSource.Proofs.Formatter.Calls

/-!
# The depth limit as a guard

A limit on the depth of lists forbids to open some of them and changes nothing else. As long as no
list is opened too deep a pass goes the way of a pass without a limit (`sweep_eq_unlimited`). It
ends at the first delimiter that opens one, with what was recorded up to there
(`format_of_firstTooDeep`), unless it came to an end before. Together this settles every pass with a
limit (`depthLimit_guards`), and tells when a pass over printable tokens fails for what it cannot
write (`cannotWrite_of_formatFrom`).
-/

namespace TanSource

/-! ## Lists that are opened too deep -/

/-- Where matching stands, the delimiter opens a list inside as many as the limit allows or more. -/
structure OpensTooDeep (limit : Int) (m : Matching) (t : Token) : Prop where
  opening : ∃ family, t.kind = .opening family
  depth : limit ≤ (m.openers.length : Int)

def NeverTooDeep (limit : Int) (ts : List Token) : Prop :=
  HoldsAlong (fun before t => ¬OpensTooDeep limit (Matching.ofTokens before) t) ts

/-- The token behind these is the first that opens a list too deep. -/
structure FirstTooDeep (limit : Int) (before : List Token) (t : Token) : Prop where
  opens : OpensTooDeep limit (Matching.ofTokens before) t
  first : NeverTooDeep limit before

theorem neverTooDeep_or_first (limit : Int) (ts : List Token) :
    NeverTooDeep limit ts ∨
      ∃ before t behind, ts = before ++ t :: behind ∧ FirstTooDeep limit before t := by
  refine (holdsAlong_or_first _ ts).imp_right ?_
  rintro ⟨before, t, behind, hsplit, hfirst, hopens⟩
  exact ⟨before, t, behind, hsplit, Classical.not_not.mp hopens, hfirst⟩

namespace FormatSettings

variable {settings : FormatSettings} {limit : Int} {ts before : List Token} {t : Token}

def unlimited (settings : FormatSettings) : FormatSettings :=
  { settings with maxDepth? := none }

def limitedTo (settings : FormatSettings) (limit : Int) : FormatSettings :=
  { settings with maxDepth? := some limit }

theorem limitAt?_eq_some_iff {depth : Nat} :
    settings.limitAt? depth = some limit ↔
      settings.maxDepth? = some limit ∧ limit ≤ (depth : Int) := by
  simp [limitAt?]

theorem limitAt?_eq_none_iff {depth : Nat} :
    settings.limitAt? depth = none ↔
      ∀ limit, settings.maxDepth? = some limit → (depth : Int) < limit := by
  simp [limitAt?]

/-- A pass with a limit goes on behind every token that can be printed and indented and does not
open a list too deep. -/
theorem admitsBehind_of_not_opensTooDeep (ht : t.IsPrintable)
    (hfits : settings.IndentFitsBehind before t)
    (hdepth : ¬OpensTooDeep limit (Matching.ofTokens before) t) :
    (settings.limitedTo limit).AdmitsBehind before t := by
  by_cases hkind : ∃ family, t.kind = .opening family
  · have hlimit : (settings.limitedTo limit).limitAt? (Matching.ofTokens before).openers.length =
        none := by
      rw [limitAt?_eq_none_iff]
      rintro _ ⟨⟩
      exact Int.not_le.mp fun hle => hdepth ⟨hkind, hle⟩
    obtain ⟨family, hkind⟩ := hkind
    exact (admitsToken_opening hkind).mpr ⟨ht.1, hlimit⟩
  · rw [not_exists] at hkind
    exact (admitsToken_of_not_opening hkind).mpr ⟨ht, hfits hkind⟩

theorem admits_of_neverTooDeep (hts : ∀ t ∈ ts, t.IsPrintable) (hfits : settings.IndentsFit ts)
    (hnever : NeverTooDeep limit ts) : HoldsAlong (settings.limitedTo limit).AdmitsBehind ts :=
  fun before t behind hsplit =>
    admitsBehind_of_not_opensTooDeep (hts t (by simp [hsplit])) (hfits before t behind hsplit)
      (hnever before t behind hsplit)

/-! ## A pass that never opens a list too deep -/

variable {scopes : List Scope} {pass : Pass} {m : Matching}

/-- The way on behind a piece of text is the same with and without a limit if the sweeps are. -/
theorem emit_eq_unlimited {content : Except Unprintable Text} (h : m.Describes scopes pass)
    (hsweep : ∀ inside, m.Describes inside pass →
      settings.sweep inside pass ts = settings.unlimited.sweep inside pass ts) :
    settings.emit content scopes pass ts = settings.unlimited.emit content scopes pass ts := by
  cases content with
  | error reason => rw [emit_error, emit_error]
  | ok content =>
      cases scopes with
      | nil => exact congrArg (Outcome.prepend content) (hsweep [] h)
      | cons scope below =>
          by_cases hfits : settings.IndentFits pass.nesting
          · have hunlimited : settings.unlimited.IndentFits pass.nesting := hfits
            rw [emit_of_fits hfits, emit_of_fits hunlimited]
            exact hsweep _ (describes_push h _)
          · have hunlimited : ¬settings.unlimited.IndentFits pass.nesting := hfits
            rw [emit_of_not_fits hfits, emit_of_not_fits hunlimited]

/-- A sweep that opens no list too deep goes as it does without a limit, to the same end. -/
theorem sweep_eq_unlimited (h : m.Describes scopes pass)
    (hts : ∀ before t behind, ts = before ++ t :: behind → (∃ family, t.kind = .opening family) →
      settings.limitAt? (m.after before).openers.length = none) :
    settings.sweep scopes pass ts = settings.unlimited.sweep scopes pass ts := by
  induction ts generalizing scopes pass m with
  | nil =>
      cases scopes with
      | nil => rw [sweep_nil, sweep_nil]
      | cons scope below => rw [sweep_unterminated, sweep_unterminated]
  | cons t ts ih =>
      have hrest (before : List Token) (u : Token) (behind : List Token)
          (hsplit : ts = before ++ u :: behind) :
          (∃ family, u.kind = .opening family) →
            settings.limitAt? ((m.past t).after before).openers.length = none :=
        hts (t :: before) u behind (by rw [hsplit, List.cons_append])
      by_cases hvalue : t.value.IsWritable
      · rcases t.kind_cases with ⟨family, hkind⟩ | ⟨family, hkind⟩ | hleaf
        · have hlimit : settings.limitAt? pass.nesting = none := by
            rw [h.nesting]
            exact hts [] t ts rfl ⟨family, hkind⟩
          have hfree : settings.unlimited.limitAt? pass.nesting = none := rfl
          rw [sweep_opening hvalue hkind hlimit, sweep_opening hvalue hkind hfree]
          exact ih (describes_opening h hkind) hrest
        · by_cases hfamily : (scopes.map Scope.family).head? = some family
          · cases scopes with
            | nil => cases hfamily
            | cons scope below =>
                obtain rfl : scope.family = family := Option.some.inj hfamily
                rw [sweep_closing hvalue hkind, sweep_closing hvalue hkind]
                exact emit_eq_unlimited (describes_closing h hkind) fun _ hinside =>
                  ih hinside hrest
          · rw [sweep_stray hvalue hkind hfamily, sweep_stray hvalue hkind hfamily]
            exact emit_eq_unlimited (describes_stray h hkind hfamily) fun _ hinside =>
              ih hinside hrest
        · rw [sweep_leaf hvalue hleaf, sweep_leaf hvalue hleaf]
          exact emit_eq_unlimited (describes_leaf h hleaf) fun _ hinside => ih hinside hrest
      · rw [sweep_of_not_isWritable hvalue, sweep_of_not_isWritable hvalue]

theorem formatFrom_eq_unlimited (settings : FormatSettings) (hnever : NeverTooDeep limit ts) :
    (settings.limitedTo limit).formatFrom {} ts = settings.unlimited.formatFrom {} ts := by
  have hfresh : Matching.Describes {} [] {} := ⟨.nil, rfl, rfl⟩
  refine sweep_eq_unlimited hfresh fun before t behind hsplit hkind => ?_
  rw [limitAt?_eq_none_iff]
  rintro _ ⟨⟩
  exact Int.not_le.mp fun hle => hnever before t behind hsplit ⟨hkind, hle⟩

/-! ## A pass that opens a list too deep -/

/-- A token that opens a list at the limit ends a pass that came there. -/
theorem formatFrom_of_refused {family : Bracket} (hbefore : HoldsAlong settings.AdmitsBehind before)
    (hvalue : t.value.IsWritable) (hkind : t.kind = .opening family)
    (hlimit : settings.limitAt? (Matching.ofTokens before).openers.length = some limit)
    (hdigits : FewDigits limit) (behind : List Token) :
    ∃ after : Pass, settings.formatFrom {} (before ++ t :: behind) =
        ⟨.error .aborted, after, behind⟩ ∧
      after.nesting = ((Matching.ofTokens before).openers.length : Int) ∧
      after.pending = (Matching.ofTokens before).unexpected ++
        [.nestingTooDeep limit (some t)] := by
  obtain ⟨inside, after, fragment, hdescribes, hfront⟩ := exists_describes_front hbefore
  have hnoted : settings.limitAt? (after.note (.consumed t)).nesting = some limit := by
    rw [Pass.nesting_note, hdescribes.nesting, hlimit]
  refine ⟨(after.note (.consumed t)).report (.nestingTooDeep limit (some t)), ?_,
    hdescribes.nesting, ?_⟩
  · rw [hfront, sweep_refused hvalue hkind (openScope_of_some hnoted hdigits family _)]
    rfl
  · rw [Pass.pending_report, Pass.pending_note, hdescribes.pending]

/-- It does so also if the limit has too many digits to be reported. -/
theorem formatFrom_of_unwritableLimit {family : Bracket}
    (hbefore : HoldsAlong settings.AdmitsBehind before) (hvalue : t.value.IsWritable)
    (hkind : t.kind = .opening family)
    (hlimit : settings.limitAt? (Matching.ofTokens before).openers.length = some limit)
    (hdigits : ¬FewDigits limit) (behind : List Token) :
    ∃ after, settings.formatFrom {} (before ++ t :: behind) =
      ⟨.error (.unprintable .tooManyDigits), after, behind⟩ := by
  obtain ⟨inside, after, fragment, hdescribes, hfront⟩ := exists_describes_front hbefore
  have hnoted : settings.limitAt? (after.note (.consumed t)).nesting = some limit := by
    rw [Pass.nesting_note, hdescribes.nesting, hlimit]
  refine ⟨after.note (.consumed t), ?_⟩
  rw [hfront, sweep_refused hvalue hkind (openScope_of_unwritable hnoted hdigits family _)]
  rfl

theorem limitAt?_of_opensTooDeep (settings : FormatSettings)
    (h : OpensTooDeep limit m t) :
    (settings.limitedTo limit).limitAt? m.openers.length = some limit := by
  simp [FormatSettings.limitAt?, limitedTo, h.depth]

/-- A token whose line cannot be indented ends the pass in front of those that open a list too deep.
-/
theorem formatFrom_of_not_indentsFit_before (settings : FormatSettings)
    (hts : ∀ u ∈ before, u.IsPrintable) (hfits : ¬settings.IndentsFit before)
    (hnever : NeverTooDeep limit before) (behind : List Token) :
    ∃ after rest, (settings.limitedTo limit).formatFrom {} (before ++ behind) =
      ⟨.error (.unprintable .tooWide), after, rest⟩ := by
  obtain ⟨front, t, more, rfl, hfront, hunfit⟩ := (holdsAlong_or_first _ before).resolve_left hfits
  have hfrontPrintable : ∀ u ∈ front, u.IsPrintable := fun u hu =>
    hts u (List.mem_append_left _ hu)
  have hadmits := admits_of_neverTooDeep hfrontPrintable hfront hnever.front
  obtain ⟨after, hrun⟩ := formatFrom_of_unfit hadmits (hts t (by simp)) hunfit (more ++ behind)
  exact ⟨after, more ++ behind, by rw [List.append_assoc, List.cons_append, hrun]⟩

/-- What a pass over printable tokens cannot write: a line whose indent is too wide, and a limit of
too many digits that it has to report. -/
inductive CannotWrite (settings : FormatSettings) (ts : List Token) : Unprintable → Prop
  | indent (hfits : ¬settings.IndentsFit ts) : CannotWrite settings ts .tooWide
  | limit {limit : Int} (hlimit : settings.maxDepth? = some limit) (hdigits : ¬FewDigits limit)
      (hdeep : ¬NeverTooDeep limit ts) : CannotWrite settings ts .tooManyDigits

/-- A pass that comes to the end of its tokens wrote all it had to. -/
theorem not_unprintable_of_admits (hts : HoldsAlong settings.AdmitsBehind ts)
    (reason : Unprintable) : (settings.formatFrom {} ts).result ≠ .error (.unprintable reason) := by
  obtain ⟨scopes, after, fragment, -, hfront⟩ := exists_describes_front hts
  rw [← List.append_nil ts, hfront]
  cases scopes with
  | nil => simp [sweep_nil, Outcome.prepend, Except.map]
  | cons scope below => simp [sweep_unterminated, Outcome.prepend, Except.map]

theorem cannotWrite_of_formatFrom (hts : ∀ t ∈ ts, t.IsPrintable) {reason : Unprintable}
    (h : (settings.formatFrom {} ts).result = .error (.unprintable reason)) :
    settings.CannotWrite ts reason := by
  rcases holdsAlong_or_first settings.AdmitsBehind ts with
    hadmits | ⟨before, t, behind, rfl, hbefore, hlast⟩
  · exact absurd h (not_unprintable_of_admits hadmits reason)
  · have ht : t.IsPrintable := hts t (by simp)
    by_cases hkind : ∃ family, t.kind = .opening family
    · obtain ⟨family, hkind⟩ := hkind
      rw [AdmitsBehind, admitsToken_opening hkind, not_and] at hlast
      obtain ⟨limit, hlimit⟩ := Option.ne_none_iff_exists'.mp (hlast ht.1)
      by_cases hdigits : FewDigits limit
      · obtain ⟨after, hrun, -⟩ :=
          formatFrom_of_refused hbefore ht.1 hkind hlimit hdigits behind
        rw [hrun] at h
        cases h
      · obtain ⟨after, hrun⟩ :=
          formatFrom_of_unwritableLimit hbefore ht.1 hkind hlimit hdigits behind
        rw [hrun] at h
        cases h
        obtain ⟨hmax, hdepth⟩ := limitAt?_eq_some_iff.mp hlimit
        exact .limit hmax hdigits
          fun hnever => hnever before t behind rfl ⟨⟨family, hkind⟩, hdepth⟩
    · rw [AdmitsBehind, admitsToken_of_not_opening (not_exists.mp hkind), not_and] at hlast
      have hunfit : ¬settings.IndentFitsBehind before t :=
        fun hfits => hlast ht (hfits (not_exists.mp hkind))
      obtain ⟨after, hrun⟩ := formatFrom_of_unfit hbefore ht hunfit behind
      rw [hrun] at h
      cases h
      exact .indent fun hfits => hunfit (hfits before t behind rfl)

end FormatSettings

/-! ## Whole passes -/

namespace Formatter

variable {settings : FormatSettings} {ts : List Token}

theorem finish_with (f : Formatter) (settings : FormatSettings) :
    finish { f with settings := settings } = { f.finish with settings := settings } := by
  obtain ⟨_, ⟨nesting, pending, journal⟩, rest⟩ := f
  cases pending <;> rfl

/-- A fresh formatter needs its settings for nothing but the run over its tokens. -/
theorem format_of_formatFrom_eq {other : FormatSettings}
    (h : settings.formatFrom {} ts = other.formatFrom {} ts) :
    (ofTokens settings ts).format =
      ((ofTokens other ts).format.1,
        { (ofTokens other ts).format.2 with settings := settings }) := by
  rcases hother : other.formatFrom {} ts with ⟨result, after, rest⟩
  have hsame : settings.formatFrom {} ts = ⟨result, after, rest⟩ := h.trans hother
  cases result with
  | ok text =>
      rw [format_of_ok (f := ofTokens other ts) hother,
        format_of_ok (f := ofTokens settings ts) hsame]
      exact congrArg (Prod.mk _) (finish_with ⟨other, after, rest⟩ settings)
  | error reason =>
      cases reason with
      | aborted =>
          rw [format_of_aborted (f := ofTokens other ts) hother,
            format_of_aborted (f := ofTokens settings ts) hsame]
          rfl
      | unprintable reason =>
          rw [format_of_unprintable (f := ofTokens other ts) hother,
            format_of_unprintable (f := ofTokens settings ts) hsame]
          rfl
      | notClosing => simp only [format, resume, ofTokens, hother, hsame, takeErrors]

theorem formatTokens_of_format_eq {other : FormatSettings}
    (h : (ofTokens settings ts).format =
      ((ofTokens other ts).format.1,
        { (ofTokens other ts).format.2 with settings := settings })) :
    formatTokens settings ts = formatTokens other ts := by
  rw [formatTokens, h, formatTokens]
  rcases (ofTokens other ts).format with ⟨result, f⟩
  cases result with
  | ok text => rfl
  | error failure => cases failure <;> rfl

/-- A pass with a limit ends at the first token that opens a list too deep. -/
theorem format_of_firstTooDeep (settings : FormatSettings) {limit : Int} {before : List Token}
    {t : Token} (hbefore : ∀ u ∈ before, u.IsPrintable) (ht : t.IsPrintable)
    (hfits : settings.IndentsFit before) (h : FirstTooDeep limit before t)
    (hdigits : FewDigits limit) (behind : List Token) :
    ∃ f, (ofTokens (settings.limitedTo limit) (before ++ t :: behind)).format =
        (.error (.diagnosed ((Matching.ofTokens before).unexpected ++
          [.nestingTooDeep limit (some t)])), f) ∧
      f.rest = behind ∧ f.pass.nesting = max 0 limit ∧ f.pass.pending = [] := by
  obtain ⟨family, hkind⟩ := h.opens.opening
  obtain ⟨after, hrun, hnesting, hpending⟩ := FormatSettings.formatFrom_of_refused
    (FormatSettings.admits_of_neverTooDeep hbefore hfits h.first) ht.1 hkind
    (FormatSettings.limitAt?_of_opensTooDeep settings h.opens) hdigits behind
  have hsound := sound_ofTokens (settings.limitedTo limit) (before ++ t :: behind)
  have hformat := format_of_aborted
    (f := ofTokens (settings.limitedTo limit) (before ++ t :: behind)) hrun
  rw [hpending] at hformat
  refine ⟨_, hformat, rfl, ?_, rfl⟩
  show after.nesting = max 0 limit
  -- the limit is reached, and no pass ever goes above it
  have hwithin := (hsound.afterCall .format).within limit rfl
  have hdepth := h.opens.depth
  simp only [afterCall, answer, Prod.map, id, hformat] at hwithin
  omega

/-- Nothing is reported of a limit of too many digits. -/
theorem format_of_unwritableLimit (settings : FormatSettings) {limit : Int} {before : List Token}
    {t : Token} (hbefore : ∀ u ∈ before, u.IsPrintable) (ht : t.IsPrintable)
    (hfits : settings.IndentsFit before) (h : FirstTooDeep limit before t)
    (hdigits : ¬FewDigits limit) (behind : List Token) :
    ∃ f, (ofTokens (settings.limitedTo limit) (before ++ t :: behind)).format =
      (.error (.unprintable .tooManyDigits), f) ∧ f.rest = behind := by
  obtain ⟨family, hkind⟩ := h.opens.opening
  obtain ⟨after, hrun⟩ := FormatSettings.formatFrom_of_unwritableLimit
    (FormatSettings.admits_of_neverTooDeep hbefore hfits h.first) ht.1 hkind
    (FormatSettings.limitAt?_of_opensTooDeep settings h.opens) hdigits behind
  exact ⟨_, format_of_unprintable
    (f := ofTokens (settings.limitedTo limit) (before ++ t :: behind)) hrun, rfl⟩

def listBehindSymbol : List Token :=
  [⟨.opening .paren, .absent, {}⟩, ⟨.symbol, .text ['a'], {}⟩, ⟨.opening .paren, .absent, {}⟩,
    ⟨.symbol, .text ['b'], {}⟩, ⟨.closing .paren, .absent, {}⟩, ⟨.closing .paren, .absent, {}⟩]

theorem firstTooDeep_listBehindSymbol :
    FirstTooDeep 1 (listBehindSymbol.take 2) ⟨.opening .paren, .absent, {}⟩ := by
  refine ⟨⟨⟨.paren, rfl⟩, by decide⟩, ?_⟩
  have hfirst : ¬OpensTooDeep 1 {} ⟨.opening .paren, .absent, {}⟩ :=
    fun h => absurd h.depth (by decide)
  have hsecond (m : Matching) : ¬OpensTooDeep 1 m ⟨.symbol, .text ['a'], {}⟩ := by
    rintro ⟨⟨family, hkind⟩, -⟩
    cases hkind
  exact holdsAlong_snoc.mpr ⟨holdsAlong_snoc.mpr ⟨holdsAlong_nil, hfirst⟩, hsecond _⟩

/-- A pass need not come to the first delimiter that opens a list too deep: an indent in front of it
can be too wide. -/
theorem not_aborted_of_firstTooDeep :
    let tokens := listBehindSymbol
    let opener : Token := ⟨.opening .paren, .absent, {}⟩
    (∀ t ∈ tokens, t.IsPrintable) ∧ tokens = tokens.take 2 ++ opener :: tokens.drop 3 ∧
      FirstTooDeep 1 (tokens.take 2) opener ∧
      ¬∃ f, (ofTokens (tooFarLeft.limitedTo 1) tokens).format =
        (.error (.diagnosed [.nestingTooDeep 1 (some opener)]), f) := by
  intro tokens opener
  refine ⟨by simp [tokens, listBehindSymbol, Token.IsPrintable, Token.text, Value.printed], rfl,
    firstTooDeep_listBehindSymbol, ?_⟩
  have hbefore : ∀ t ∈ tokens.take 2, t.IsPrintable := by
    simp [tokens, listBehindSymbol, Token.IsPrintable, Token.text, Value.printed]
  have hfits : ¬tooFarLeft.IndentsFit (tokens.take 2) := not_indentsFit_take
  obtain ⟨after, rest, hrun⟩ := tooFarLeft.formatFrom_of_not_indentsFit_before hbefore hfits
    firstTooDeep_listBehindSymbol.first (opener :: tokens.drop 3)
  rintro ⟨f, hformat⟩
  have hpass := format_of_unprintable (f := ofTokens (tooFarLeft.limitedTo 1) tokens) hrun
  rw [hformat] at hpass
  cases congrArg Prod.fst hpass

/-- A limit on the depth is a guard and no more. A pass without a limit has as many lists open in
front of each token, and as many strays recorded, as matching says, as long as its indents fit. If
none is opened inside as many as the limit allows, the pass with the limit ends in the same way.
Otherwise it ends right behind the first delimiter that opens one there, with the strays in front
of it and that delimiter reported. It fails with no report if the limit has too many digits for one,
and if an indent in front of the delimiter does not fit, as the pass without a limit does. -/
theorem depthLimit_guards (settings : FormatSettings) (limit : Int) {ts : List Token}
    (hts : ∀ t ∈ ts, t.IsPrintable) :
    (∀ before behind, ts = before ++ behind → settings.IndentsFit before →
      ∃ scopes pass fragment, (Matching.ofTokens before).Describes scopes pass ∧
      settings.unlimited.formatFrom {} ts =
        (settings.unlimited.sweep scopes pass behind).prepend fragment) ∧
    (NeverTooDeep limit ts ∨
      ∃ before t behind, ts = before ++ t :: behind ∧ FirstTooDeep limit before t) ∧
    (NeverTooDeep limit ts →
      (ofTokens (settings.limitedTo limit) ts).format =
        ((ofTokens settings.unlimited ts).format.1,
          { (ofTokens settings.unlimited ts).format.2 with
            settings := settings.limitedTo limit }) ∧
      formatTokens (settings.limitedTo limit) ts = formatTokens settings.unlimited ts) ∧
    ∀ before t behind, ts = before ++ t :: behind → FirstTooDeep limit before t →
      let diagnostics := (Matching.ofTokens before).unexpected ++ [.nestingTooDeep limit (some t)]
      (settings.IndentsFit before → FewDigits limit →
        (∃ f, (ofTokens (settings.limitedTo limit) ts).format =
            (.error (.diagnosed diagnostics), f) ∧
          f.rest = behind ∧ f.pass.nesting = max 0 limit ∧ f.pass.pending = []) ∧
        formatTokens (settings.limitedTo limit) ts = .ok ⟨none, diagnostics⟩) ∧
      (settings.IndentsFit before → ¬FewDigits limit →
        (∃ f, (ofTokens (settings.limitedTo limit) ts).format =
            (.error (.unprintable .tooManyDigits), f) ∧ f.rest = behind) ∧
        formatTokens (settings.limitedTo limit) ts = .error .tooManyDigits) ∧
      (¬settings.IndentsFit before →
        formatTokens (settings.limitedTo limit) ts = .error .tooWide ∧
          formatTokens settings.unlimited ts = .error .tooWide) := by
  refine ⟨?_, neverTooDeep_or_first limit ts, ?_, ?_⟩
  · rintro before behind rfl hfits
    have hbefore : ∀ t ∈ before, t.IsPrintable := fun t ht => hts t (List.mem_append_left _ ht)
    have hunlimited : settings.unlimited.maxDepth? = none := rfl
    obtain ⟨scopes, pass, fragment, hdescribes, hfront⟩ :=
      FormatSettings.exists_describes_front
        (FormatSettings.admits_of_indentsFit hunlimited hbefore hfits)
    exact ⟨scopes, pass, fragment, hdescribes, hfront behind⟩
  · intro hnever
    have hformat := format_of_formatFrom_eq (settings.formatFrom_eq_unlimited hnever)
    exact ⟨hformat, formatTokens_of_format_eq hformat⟩
  · rintro before t behind rfl hfirst
    have hbefore : ∀ u ∈ before, u.IsPrintable := fun u hu => hts u (List.mem_append_left _ hu)
    have ht : t.IsPrintable := hts t (by simp)
    refine ⟨fun hfits hdigits => ?_, fun hfits hdigits => ?_, fun hfits => ?_⟩
    · obtain ⟨f, hformat, hend⟩ :=
        format_of_firstTooDeep settings hbefore ht hfits hfirst hdigits behind
      exact ⟨⟨f, hformat, hend⟩, formatTokens_of_diagnosed hformat⟩
    · obtain ⟨f, hformat, hend⟩ :=
        format_of_unwritableLimit settings hbefore ht hfits hfirst hdigits behind
      exact ⟨⟨f, hformat, hend⟩, formatTokens_of_unprintable hformat⟩
    · obtain ⟨after, rest, hrun⟩ :=
        settings.formatFrom_of_not_indentsFit_before hbefore hfits hfirst.first (t :: behind)
      have hlimited := format_of_unprintable (f := ofTokens (settings.limitedTo limit) _) hrun
      obtain ⟨f, hunlimited⟩ := format_of_not_indentsFit (show settings.unlimited.maxDepth? = none
        from rfl) hts fun h => hfits h.front
      exact ⟨formatTokens_of_unprintable hlimited, formatTokens_of_unprintable hunlimited⟩

/-- Four delimiters, two of which close nothing, and behind them one that opens a third list. -/
def thirdList : List Token :=
  [⟨.closing .square, .absent, {}⟩, ⟨.opening .paren, .absent, {}⟩,
    ⟨.opening .square, .absent, {}⟩, ⟨.closing .brace, .absent, {}⟩,
    ⟨.opening .brace, .absent, {}⟩, ⟨.closing .square, .absent, {}⟩]

theorem depthLimit_guards_thirdList :
    (∀ t ∈ thirdList, t.IsPrintable) ∧ FormatSettings.IndentsFit {} (thirdList.take 4) ∧
      FewDigits 2 ∧ formatTokens { maxDepth? := some 2 } thirdList = .ok ⟨none,
        [.unexpectedToken ⟨.closing .square, .absent, {}⟩,
          .unexpectedToken ⟨.closing .brace, .absent, {}⟩,
          .nestingTooDeep 2 (some ⟨.opening .brace, .absent, {}⟩)]⟩ := by
  have hts : ∀ t ∈ thirdList, t.IsPrintable := by
    simp [thirdList, Token.IsPrintable, Token.text]
  have hfits : FormatSettings.IndentsFit {} (thirdList.take 4) :=
    FormatSettings.indentsFit_of_natAbs (by decide)
  have hdigits : FewDigits 2 := by decide
  have hclosing (family : Bracket) (m : Matching) :
      ¬OpensTooDeep 2 m ⟨.closing family, .absent, {}⟩ := by
    rintro ⟨⟨other, hkind⟩, -⟩
    cases hkind
  have hnever : NeverTooDeep 2 ([] ++ [⟨.closing .square, .absent, {}⟩] ++
      [⟨.opening .paren, .absent, {}⟩] ++ [⟨.opening .square, .absent, {}⟩] ++
      [⟨.closing .brace, .absent, {}⟩]) := by
    refine holdsAlong_snoc.mpr ⟨holdsAlong_snoc.mpr ⟨holdsAlong_snoc.mpr ⟨holdsAlong_snoc.mpr
      ⟨holdsAlong_nil, hclosing _ _⟩, ?_⟩, ?_⟩, hclosing _ _⟩
    · exact fun h => absurd h.depth (by decide)
    · exact fun h => absurd h.depth (by decide)
  have hfirst : FirstTooDeep 2 (thirdList.take 4) ⟨.opening .brace, .absent, {}⟩ :=
    ⟨⟨⟨.brace, rfl⟩, by decide⟩, hnever⟩
  have hguard := (depthLimit_guards {} 2 hts).2.2.2 _ _ _ rfl hfirst
  exact ⟨hts, hfits, hdigits, (hguard.1 hfits hdigits).2⟩

end Formatter

end TanSource
