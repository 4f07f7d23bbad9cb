import NpcRuntime.Subtitles.Preferences
import Mathlib.Tactic.Linarith
import Mathlib.Tactic.Positivity

/-!
# When saved preferences resolve

A document whose entries have passed their checks resolves at every scope exactly if no entry sets
the safe area to zero: the entry check admits a zero margin, the style's own check does not
(`resolvable_iff`). The manager persists a candidate before it resolves it, so the same condition
decides whether a save is all or nothing (`preferences_sound_iff`).
-/

namespace NpcRuntime.Subtitles

open Text

/-! ## What has passed -/

variable {u : Unit}

theorem validateOptionalRange_eq_ok {field : String} {value : Option ℚ} {minimum maximum : Bound} :
    validateOptionalRange field value minimum maximum = .ok u ↔
      ∀ v, value = some v → minimum.value ≤ v ∧ v ≤ maximum.value := by
  cases value <;> simp [validateOptionalRange, within]

/-- The ranges of the overrides of an entry. -/
theorem SubtitlePreferenceOverrides.validate_eq_ok {overrides : SubtitlePreferenceOverrides} :
    overrides.validate = .ok u ↔ (∀ v, overrides.safeAreaDp = some v → 0 ≤ v ∧ v ≤ 256) ∧
      (∀ v, overrides.textScale = some v → 3 / 4 ≤ v ∧ v ≤ 2) ∧
      ∀ v, overrides.opacity = some v → 1 / 4 ≤ v ∧ v ≤ 1 := by
  simp only [validate, check_eq_ok, validateOptionalRange_eq_ok]
  rfl

variable {entry : ScopedSubtitlePreferences} {styles : StyleManifest}

theorem validateEntry_eq_ok :
    validateEntry entry styles = .ok u ↔ validateScope entry.scope = .ok () ∧
      (∀ styleId, entry.selectedStyleId = some styleId → (styles.style styleId).isSome) ∧
      entry.overrides.validate = .ok () := by
  simp only [validateEntry, check_eq_ok, option_forM_eq_ok, require_eq_ok]

variable {entries : List ScopedSubtitlePreferences}

theorem validateEntries_eq_ok {scopes : List SubtitlePreferenceScope} :
    validateEntries styles scopes entries = .ok u ↔
      (∀ entry ∈ entries, validateEntry entry styles = .ok () ∧ entry.isEmpty = false ∧
        entry.scope ∉ scopes) ∧ (entries.map ScopedSubtitlePreferences.scope).Nodup := by
  induction entries generalizing scopes with
  | nil => simp [validateEntries]
  | cons entry entries ih =>
    rw [List.forall_mem_cons, List.map_cons, List.nodup_cons]
    simp only [validateEntries, check_eq_ok, require_eq_ok, ih, Bool.not_eq_true',
      List.contains_eq_mem, decide_eq_false_iff_not, List.mem_cons, not_or]
    constructor
    · intro h
      obtain ⟨hentry, hempty, hscope, hrest, hnodup⟩ := h
      refine ⟨⟨⟨hentry, hempty, hscope⟩, ?_⟩, ?_, hnodup⟩
      · intro other hother
        exact ⟨(hrest other hother).1, (hrest other hother).2.1, (hrest other hother).2.2.2⟩
      · intro hmem
        obtain ⟨other, hother, heq⟩ := List.mem_map.1 hmem
        exact (hrest other hother).2.2.1 heq
    · intro h
      obtain ⟨⟨⟨hentry, hempty, hscope⟩, hrest⟩, hfresh, hnodup⟩ := h
      refine ⟨hentry, hempty, hscope, ?_, hnodup⟩
      intro other hother
      refine ⟨(hrest other hother).1, (hrest other hother).2.1, ?_, (hrest other hother).2.2⟩
      intro heq
      exact hfresh (List.mem_map.2 ⟨other, hother, heq⟩)

variable {document : SubtitlePreferenceDocument}

theorem validateDocument_eq_ok :
    validateDocument document styles = .ok u ↔ document.schemaVersion = 1 ∧
      document.entries.length ≤ 512 ∧
      (∀ entry ∈ document.entries, validateEntry entry styles = .ok () ∧ entry.isEmpty = false) ∧
      (document.entries.map ScopedSubtitlePreferences.scope).Nodup := by
  simp only [validateDocument, check_eq_ok, require_eq_ok, decide_eq_true_eq,
    validateEntries_eq_ok, List.not_mem_nil, not_false_eq_true, and_true]
  rfl

/-! ## The effective style -/

/-- An effective value has what every selected value and the fallback have. -/
theorem effectiveOverride_forall {α : Type} {select : ScopedSubtitlePreferences → Option α}
    {fallback : α} {source : SubtitleEffectiveSource} {P : α → Prop}
    (hentries : ∀ entry ∈ entries, ∀ v, select entry = some v → P v) (hfallback : P fallback) :
    P (effectiveOverride entries select fallback source).value := by
  unfold effectiveOverride
  split
  · next value scope hfound =>
    obtain ⟨entry, hentry, hselect⟩ := List.exists_of_findSome?_eq_some hfound
    obtain ⟨v, hv, heq⟩ := Option.map_eq_some_iff.1 hselect
    cases heq
    exact hentries entry (List.mem_reverse.1 hentry) value hv
  · exact hfallback

/-- The last entry decides when it selects a value. -/
theorem effectiveOverride_concat {α : Type} {select : ScopedSubtitlePreferences → Option α}
    {fallback v : α} {source : SubtitleEffectiveSource} (h : select entry = some v) :
    effectiveOverride (entries ++ [entry]) select fallback source =
      ⟨v, .persistedScope entry.scope⟩ := by
  simp [effectiveOverride, h]

/-- **A patched style is valid exactly if its margin is positive.** -/
theorem SubtitleStyle.validate_patched {style : SubtitleStyle} (h : style.validate = .ok ())
    {safeAreaDp textScale : ℚ} (hscale : 0 < textScale) (backplateEnabled : Bool) :
    (style.patched safeAreaDp textScale backplateEnabled).validate = .ok () ↔ 0 < safeAreaDp := by
  obtain ⟨hshaped, hsizes⟩ := validate_eq_ok.1 h
  have hpatched : (style.patched safeAreaDp textScale backplateEnabled).Shaped :=
    ⟨hshaped.id, hshaped.roles, hshaped.ranges, hshaped.colors, hshaped.effects⟩
  rw [validate_eq_ok]
  constructor
  · intro hvalid
    exact hvalid.2 safeAreaDp (by simp [sizes, patched])
  · intro hmargin
    refine ⟨hpatched, ?_⟩
    simp only [sizes, List.forall_mem_cons, List.not_mem_nil, false_imp_iff, implies_true,
      and_true] at hsizes
    obtain ⟨hbody, hspeaker, hline, hfraction, hmin, hmax, hx, hy, -, hgap, hhead, hcandidate,
      hbottom⟩ := hsizes
    simp only [sizes, patched, List.forall_mem_cons, List.not_mem_nil, false_imp_iff, implies_true,
      and_true]
    exact ⟨mul_pos hbody hscale, mul_pos hspeaker hscale, hline, hfraction, hmin, hmax, hx, hy,
      hmargin, hgap, hhead, hcandidate, hbottom⟩

/-- Every entry of the chain is an entry of the document. -/
theorem mem_chainEntries {scope : SubtitlePreferenceScope}
    (h : entry ∈ chainEntries document scope) : entry ∈ document.entries := by
  obtain ⟨_, _, hfound⟩ := List.mem_filterMap.1 h
  exact List.mem_of_find?_eq_some hfound

/-- The entry of the requested scope is the last of its chain. -/
theorem chainEntries_concat (hnodup : (document.entries.map ScopedSubtitlePreferences.scope).Nodup)
    (h : entry ∈ document.entries) :
    ∃ broader, chainEntries document entry.scope = broader ++ [entry] := by
  have hfound : document.entries.find? (fun other => other.scope = entry.scope) = some entry := by
    cases hfind : document.entries.find? (fun other => other.scope = entry.scope) with
    | none => simpa using List.find?_eq_none.1 hfind entry h
    | some other =>
      have hscope : other.scope = entry.scope := by simpa using List.find?_some hfind
      exact congrArg some
        (List.inj_on_of_nodup_map hnodup (List.mem_of_find?_eq_some hfind) h hscope)
  obtain ⟨wider, hwider⟩ : ∃ wider, scopeChain entry.scope = wider ++ [entry.scope] := by
    cases entry.scope with
    | global => exact ⟨[], rfl⟩
    | game gameProfileId => exact ⟨[.global], rfl⟩
    | character gameProfileId characterId => exact ⟨[.global, .game gameProfileId], rfl⟩
  refine ⟨wider.filterMap fun scope => document.entries.find? fun entry => entry.scope = scope, ?_⟩
  rw [chainEntries, hwider, List.filterMap_append]
  simp [hfound]

/-- No entry sets a margin of zero or less. -/
def SubtitlePreferenceDocument.MarginsPositive (document : SubtitlePreferenceDocument) : Prop :=
  ∀ entry ∈ document.entries, ∀ v, entry.overrides.safeAreaDp = some v → 0 < v

/-- The document resolves at every valid scope. -/
def Resolvable (document : SubtitlePreferenceDocument) (styles : StyleManifest) : Prop :=
  ∀ scope, validateScope scope = .ok () →
    ∃ resolution, resolveEffective document scope styles = .ok resolution

section Resolve

variable {document : SubtitlePreferenceDocument} {styles : StyleManifest}

/-- What resolves is a validated style, patched. -/
theorem resolveEffective_eq_ok {scope : SubtitlePreferenceScope} {r : EffectiveResolution} :
    resolveEffective document scope styles = .ok r →
      (effectiveOverride (chainEntries document scope) (·.overrides.safeAreaDp)
        r.style.geometry.safeMarginDp (.bundledStyle r.styleId.value)).value =
          r.style.geometry.safeMarginDp ∧ r.style.validate = .ok () := by
  intro h
  simp only [resolveEffective, bind_eq_ok, okOr_eq_ok, mapError_eq_ok, pure_eq_ok] at h
  obtain ⟨style, hstyle, _, hvalid, rfl⟩ := h
  refine ⟨?_, hvalid⟩
  simp only [SubtitleStyle.patched, effectiveOverride]
  split <;> rfl

/-- **A checked document without a zero margin resolves at every scope.** -/
theorem resolveEffective_isOk (hstyles : styles.validate = .ok ())
    (hdocument : validateDocument document styles = .ok ()) (hmargins : document.MarginsPositive)
    (scope : SubtitlePreferenceScope) :
    ∃ r, resolveEffective document scope styles = .ok r := by
  obtain ⟨-, -, hdefault, hall⟩ := StyleManifest.validate_eq_ok.1 hstyles
  obtain ⟨-, -, hentries, -⟩ := validateDocument_eq_ok.1 hdocument
  have hselected : (styles.style (effectiveOverride (chainEntries document scope)
      (·.selectedStyleId) styles.defaultStyleId
      (.bundledManifestDefault styles.defaultStyleId)).value).isSome := by
    apply effectiveOverride_forall (P := fun styleId => (styles.style styleId).isSome) _ hdefault
    intro entry hentry styleId hstyleId
    have hchecked := (hentries entry (mem_chainEntries hentry)).1
    exact (validateEntry_eq_ok.1 hchecked).2.1 styleId hstyleId
  obtain ⟨style, hstyle⟩ := Option.isSome_iff_exists.1 hselected
  have hvalid : style.validate = .ok () := hall style (StyleManifest.style_eq_some hstyle).1
  have hscale : 0 < (effectiveOverride (chainEntries document scope) (·.overrides.textScale) 1
      .rendererDefault).value := by
    apply effectiveOverride_forall (P := fun scale : ℚ => 0 < scale) _ one_pos
    intro entry hentry scale hscale
    have hchecked := (hentries entry (mem_chainEntries hentry)).1
    have hranges :=
      SubtitlePreferenceOverrides.validate_eq_ok.1 (validateEntry_eq_ok.1 hchecked).2.2
    linarith [(hranges.2.1 scale hscale).1]
  have hmargin : 0 < style.geometry.safeMarginDp :=
    (SubtitleStyle.validate_eq_ok.1 hvalid).2 _ (by simp [SubtitleStyle.sizes])
  have hsafe : 0 < (effectiveOverride (chainEntries document scope) (·.overrides.safeAreaDp)
      style.geometry.safeMarginDp (.bundledStyle (effectiveOverride (chainEntries document scope)
        (·.selectedStyleId) styles.defaultStyleId
        (.bundledManifestDefault styles.defaultStyleId)).value)).value := by
    apply effectiveOverride_forall (P := fun margin : ℚ => 0 < margin) _ hmargin
    intro entry hentry margin
    exact hmargins entry (mem_chainEntries hentry) margin
  have hpatched := (SubtitleStyle.validate_patched hvalid hscale (effectiveOverride
    (chainEntries document scope) (·.overrides.backplateEnabled) style.effects.backplate.enabled
    (.bundledStyle (effectiveOverride (chainEntries document scope) (·.selectedStyleId)
      styles.defaultStyleId (.bundledManifestDefault styles.defaultStyleId)).value)).value).2 hsafe
  simp only [resolveEffective, bind_eq_ok, okOr_eq_ok, mapError_eq_ok, pure_eq_ok]
  exact ⟨_, style, hstyle, (), hpatched, rfl⟩

/-- **An entry with a zero margin does not resolve at its own scope.** -/
theorem resolveEffective_zero_margin (hdocument : validateDocument document styles = .ok ())
    (hentry : entry ∈ document.entries) (hzero : entry.overrides.safeAreaDp = some 0)
    (r : EffectiveResolution) : resolveEffective document entry.scope styles ≠ .ok r := by
  intro h
  obtain ⟨hmargin, hvalid⟩ := resolveEffective_eq_ok h
  obtain ⟨broader, hchain⟩ := chainEntries_concat (validateDocument_eq_ok.1 hdocument).2.2.2 hentry
  rw [hchain, effectiveOverride_concat hzero] at hmargin
  have hpos : 0 < r.style.geometry.safeMarginDp :=
    (SubtitleStyle.validate_eq_ok.1 hvalid).2 _ (by simp [SubtitleStyle.sizes])
  exact hpos.ne hmargin

/-- **A checked document resolves at every valid scope exactly if no entry sets a zero margin.** -/
theorem resolvable_iff (hstyles : styles.validate = .ok ())
    (hdocument : validateDocument document styles = .ok ()) :
    Resolvable document styles ↔ document.MarginsPositive := by
  constructor
  · intro h entry hentry v hv
    have hchecked := ((validateDocument_eq_ok.1 hdocument).2.2.1 entry hentry).1
    obtain ⟨hscope, -, hoverrides⟩ := validateEntry_eq_ok.1 hchecked
    have hnonneg := ((SubtitlePreferenceOverrides.validate_eq_ok.1 hoverrides).1 v hv).1
    by_contra hneg
    obtain rfl : v = 0 := le_antisymm (not_lt.1 hneg) hnonneg
    obtain ⟨r, hr⟩ := h entry.scope hscope
    exact resolveEffective_zero_margin hdocument hentry hv r hr
  · intro h scope _
    exact resolveEffective_isOk hstyles hdocument h scope

end Resolve

/-! ## Calls of the manager -/

open SubtitlePreferenceManager

/-- A save or a reset, and how the write of its candidate would end. -/
inductive PreferenceCall where
  | save (request : SaveSubtitlePreferencesRequest) (outcome : WriteOutcome)
  | reset (request : ResetSubtitlePreferencesRequest) (outcome : WriteOutcome)
deriving DecidableEq

namespace PreferenceCall

def outcome : PreferenceCall → WriteOutcome
  | .save _ outcome | .reset _ outcome => outcome

def scope : PreferenceCall → SubtitlePreferenceScope
  | .save request _ => request.entry.scope
  | .reset request _ => request.scope

/-- The document the call would write. -/
def candidate (m : SubtitlePreferenceManager) :
    PreferenceCall → Except SubtitlePreferenceError SubtitlePreferenceDocument
  | .save request _ => m.saveCandidate request
  | .reset request _ => m.resetCandidate request

/-- A save of a safe area of zero. -/
def ZeroMargin : PreferenceCall → Prop
  | .save request _ => request.entry.overrides.safeAreaDp = some 0
  | .reset _ _ => False

variable (documentBytes : SubtitlePreferenceDocument → Nat)

def run (m : SubtitlePreferenceManager) :
    PreferenceCall → Except SubtitlePreferenceError SubtitlePreferenceSnapshot ×
      SubtitlePreferenceManager
  | .save request outcome => m.save documentBytes request outcome
  | .reset request outcome => m.reset documentBytes request outcome

/-- The manager after the call. -/
def next (call : PreferenceCall) (m : SubtitlePreferenceManager) : SubtitlePreferenceManager :=
  (call.run documentBytes m).2

/-- After the call every valid scope resolves, and an error has changed nothing. -/
structure Sound (m : SubtitlePreferenceManager) (call : PreferenceCall) : Prop where
  resolvable : Resolvable (call.next documentBytes m).document m.styles
  unchanged : ∀ error, (call.run documentBytes m).1 = .error error →
    (call.next documentBytes m).document = m.document ∧ (call.next documentBytes m).file = m.file

/-- A call whose candidate is written does not set a zero margin, and a write that reports an error
has not replaced the file by another document. -/
def Safe (m : SubtitlePreferenceManager) (call : PreferenceCall) : Prop :=
  ∀ document, call.candidate m = .ok document → documentBytes document ≤ maxDocumentBytes →
    (call.outcome = .synced → ¬call.ZeroMargin) ∧
      ∀ message, call.outcome = .unsynced message → m.file = some (.current document)

variable {documentBytes} {m : SubtitlePreferenceManager} {call : PreferenceCall}

theorem run_error {error : SubtitlePreferenceError} (h : call.candidate m = .error error) :
    call.run documentBytes m = (.error error, m) := by
  cases call with
  | save request outcome =>
    have hcandidate : m.saveCandidate request = .error error := h
    simp only [run, SubtitlePreferenceManager.save, hcandidate]
  | reset request outcome =>
    have hcandidate : m.resetCandidate request = .error error := h
    simp only [run, SubtitlePreferenceManager.reset, hcandidate]

theorem run_ok (h : call.candidate m = .ok document) :
    call.run documentBytes m = m.persist documentBytes call.outcome document call.scope := by
  cases call with
  | save request outcome =>
    have hcandidate : m.saveCandidate request = .ok document := h
    simp only [run, SubtitlePreferenceManager.save, hcandidate, PreferenceCall.outcome, scope]
  | reset request outcome =>
    have hcandidate : m.resetCandidate request = .ok document := h
    simp only [run, SubtitlePreferenceManager.reset, hcandidate, PreferenceCall.outcome, scope]

/-- Calls do not touch the styles. -/
theorem next_styles : (call.next documentBytes m).styles = m.styles := by
  cases hcandidate : call.candidate m with
  | error error => rw [next, run_error hcandidate]
  | ok document =>
    rw [next, run_ok hcandidate, persist]
    split <;> rfl

/-- **What a call may write**: a checked document at a valid scope, with the entries there were and
the one to save. -/
theorem candidate_eq_ok (h : call.candidate m = .ok document) :
    validateDocument document m.styles = .ok () ∧ validateScope call.scope = .ok () ∧
      (∀ entry ∈ document.entries, entry ∈ m.document.entries ∨
        ∃ request outcome, call = .save request outcome ∧ entry = request.entry) ∧
      ∀ request outcome, call = .save request outcome → request.entry ∈ document.entries := by
  cases call with
  | save request outcome =>
    have hcandidate : m.saveCandidate request = .ok document := h
    simp only [saveCandidate, check_eq_ok, require_eq_ok, pure_eq_ok] at hcandidate
    obtain ⟨hentry, -, -, hdocument, rfl⟩ := hcandidate
    refine ⟨hdocument, (validateEntry_eq_ok.1 hentry).1, ?_, ?_⟩
    · intro entry hmem
      simp only [canonicalizeEntries, List.mem_insertionSort, List.mem_append, List.mem_filter,
        List.mem_singleton] at hmem
      rcases hmem with hmem | hmem
      · exact .inl hmem.1
      · exact .inr ⟨request, outcome, rfl, hmem⟩
    · intro request' outcome' heq
      cases heq
      simp [canonicalizeEntries]
  | reset request outcome =>
    have hcandidate : m.resetCandidate request = .ok document := h
    simp only [resetCandidate, check_eq_ok, require_eq_ok, pure_eq_ok] at hcandidate
    obtain ⟨hscope, -, -, hdocument, rfl⟩ := hcandidate
    refine ⟨hdocument, hscope, ?_, ?_⟩
    · intro entry hmem
      exact .inl (List.mem_filter.1 hmem).1
    · intro request' outcome' heq
      cases heq

end PreferenceCall

/-- What holds of a manager between calls that are safe. -/
structure SubtitlePreferenceManager.Settled (m : SubtitlePreferenceManager) : Prop where
  styles : m.styles.validate = .ok ()
  checked : validateDocument m.document m.styles = .ok ()
  persisted : m.file = some (.current m.document)
  margins : m.document.MarginsPositive

namespace PreferenceCall

variable {documentBytes : SubtitlePreferenceDocument → Nat} {m : SubtitlePreferenceManager}
  {call : PreferenceCall}

/-- A candidate that sets no zero margin keeps the margins positive. -/
theorem candidate_margins (hm : m.Settled) (h : call.candidate m = .ok document)
    (hzero : ¬call.ZeroMargin) : document.MarginsPositive := by
  obtain ⟨hdocument, -, hentries, -⟩ := candidate_eq_ok h
  intro entry hentry v hv
  rcases hentries entry hentry with hold | ⟨request, outcome, rfl, rfl⟩
  · exact hm.margins entry hold v hv
  · have hchecked := ((validateDocument_eq_ok.1 hdocument).2.2.1 _ hentry).1
    have hranges := (validateEntry_eq_ok.1 hchecked).2.2
    have hnonneg := ((SubtitlePreferenceOverrides.validate_eq_ok.1 hranges).1 v hv).1
    refine lt_of_le_of_ne hnonneg ?_
    rintro rfl
    exact hzero hv

section

variable (h : call.candidate m = .ok document)

include h

/-- A write that goes through leaves the candidate, in memory and in the file. -/
theorem next_synced (hsize : documentBytes document ≤ maxDocumentBytes)
    (houtcome : call.outcome = .synced) :
    call.run documentBytes m =
      (({ m with document, migration := currentMigration, file := some (.current document) } :
          SubtitlePreferenceManager).snapshotFromState call.scope,
        { m with document, migration := currentMigration, file := some (.current document) }) := by
  rw [run_ok h, houtcome]
  simp only [persist, atomicWrite, if_neg (not_lt.2 hsize)]

/-- A write that reports an error leaves the memory, and the file unless it was replaced. -/
theorem next_unsynced (hsize : documentBytes document ≤ maxDocumentBytes) {message : Text}
    (houtcome : call.outcome = .unsynced message) :
    call.run documentBytes m =
      (.error (.persistence message), { m with file := some (.current document) }) := by
  rw [run_ok h, houtcome]
  simp only [persist, atomicWrite, if_neg (not_lt.2 hsize)]

theorem next_failed {message : Text} (houtcome : call.outcome = .failed message) :
    call.run documentBytes m = (.error (.persistence message), m) := by
  rw [run_ok h, houtcome]
  rfl

theorem next_oversized (hsize : maxDocumentBytes < documentBytes document) :
    ∃ error, call.run documentBytes m = (.error error, m) := by
  rw [run_ok h]
  cases call.outcome with
  | failed message => exact ⟨_, rfl⟩
  | synced =>
    simp only [persist, atomicWrite, if_pos hsize]
    exact ⟨_, rfl⟩
  | unsynced message =>
    simp only [persist, atomicWrite, if_pos hsize]
    exact ⟨_, rfl⟩

end

/-- **A safe call settles the manager, and changes nothing when it fails.** -/
theorem Safe.sound (hm : m.Settled) (hsafe : call.Safe documentBytes m) :
    (call.next documentBytes m).Settled ∧ ∀ error, (call.run documentBytes m).1 = .error error →
      (call.next documentBytes m).document = m.document ∧
        (call.next documentBytes m).file = m.file := by
  have hsame : ∀ error, call.run documentBytes m = (.error error, m) →
      (call.next documentBytes m).Settled ∧ ∀ error, (call.run documentBytes m).1 = .error error →
        (call.next documentBytes m).document = m.document ∧
          (call.next documentBytes m).file = m.file := by
    intro error hrun
    rw [next, hrun]
    exact ⟨hm, fun _ _ => ⟨rfl, rfl⟩⟩
  cases hcandidate : call.candidate m with
  | error error => exact hsame error (run_error hcandidate)
  | ok document =>
    by_cases hsize : documentBytes document ≤ maxDocumentBytes
    · obtain ⟨hmargin, hfile⟩ := hsafe document hcandidate hsize
      have hdocument := (candidate_eq_ok hcandidate).1
      cases houtcome : call.outcome with
      | failed message => exact hsame _ (next_failed hcandidate houtcome)
      | unsynced message =>
        apply hsame (.persistence message)
        rw [next_unsynced hcandidate hsize houtcome, ← hfile message houtcome]
      | synced =>
        have hmargins := candidate_margins hm hcandidate (hmargin houtcome)
        rw [next, next_synced hcandidate hsize houtcome]
        refine ⟨⟨hm.styles, hdocument, rfl, hmargins⟩, ?_⟩
        intro error herror
        obtain ⟨r, hr⟩ := resolveEffective_isOk hm.styles hdocument hmargins call.scope
        simp only [snapshotFromState, hr] at herror
        cases herror
    · obtain ⟨error, hrun⟩ := next_oversized hcandidate (not_le.1 hsize)
      exact hsame error hrun

/-- **Exactly the safe calls are sound.** -/
theorem sound_iff (hm : m.Settled) : call.Sound documentBytes m ↔ call.Safe documentBytes m := by
  constructor
  · intro hsound document hcandidate hsize
    obtain ⟨hdocument, hscope, -, hsaved⟩ := candidate_eq_ok hcandidate
    constructor
    · intro houtcome hzero
      have hresolvable := hsound.resolvable
      rw [next, next_synced hcandidate hsize houtcome] at hresolvable
      have hpositive := (resolvable_iff hm.styles hdocument).1 hresolvable
      cases hcall : call with
      | save request outcome =>
        rw [hcall] at hzero
        exact lt_irrefl 0 (hpositive request.entry (hsaved request outcome hcall) 0 hzero)
      | reset request outcome =>
        rw [hcall] at hzero
        exact hzero
    · intro message houtcome
      have hrun := next_unsynced hcandidate hsize houtcome
      have hunchanged := hsound.unchanged (.persistence message) (by rw [hrun])
      rw [next, hrun] at hunchanged
      exact hunchanged.2.symm
  · intro hsafe
    obtain ⟨hnext, hunchanged⟩ := hsafe.sound hm
    refine ⟨?_, hunchanged⟩
    have hresolvable := (resolvable_iff hnext.styles hnext.checked).2 hnext.margins
    rwa [next_styles] at hresolvable

end PreferenceCall

/-- An opened manager has checked what it holds and persisted it. -/
theorem SubtitlePreferenceManager.newWithAssets_eq_ok
    {documentBytes : SubtitlePreferenceDocument → Nat} {file : Option StoredPreferences}
    {outcome : WriteOutcome} {m : SubtitlePreferenceManager}
    (h : newWithAssets documentBytes styles file outcome = .ok m) :
    m.styles.validate = .ok () ∧ validateDocument m.document m.styles = .ok () ∧
      m.file = some (.current m.document) := by
  simp only [newWithAssets, bind_eq_ok, mapError_eq_ok, require_eq_ok] at h
  obtain ⟨_, hstyles, _, -, ⟨document, migration, persistNow⟩, hload, _, hdocument, hrest⟩ := h
  cases persistNow with
  | true =>
    simp only [if_true, check_eq_ok, pure_eq_ok] at hrest
    obtain ⟨hwritten, rfl⟩ := hrest
    refine ⟨hstyles, hdocument, ?_⟩
    cases outcome with
    | failed message => cases hwritten
    | synced =>
      by_cases hsize : maxDocumentBytes < documentBytes document
      · simp only [atomicWrite, if_pos hsize] at hwritten
        cases hwritten
      · simp only [atomicWrite, if_neg hsize]
    | unsynced message =>
      by_cases hsize : maxDocumentBytes < documentBytes document
      · simp only [atomicWrite, if_pos hsize] at hwritten
        cases hwritten
      · simp only [atomicWrite, if_neg hsize] at hwritten
        cases hwritten
  | false =>
    simp only [Bool.false_eq_true, if_false, pure_eq_ok] at hrest
    subst hrest
    refine ⟨hstyles, hdocument, ?_⟩
    cases file with
    | none => cases hload
    | some stored =>
      cases stored with
      | current document' =>
        cases hload
        rfl
      | legacy revision selectedStyleId overrides => cases hload
      | unreadable error => cases hload

/-- **Preferences stay resolvable, and saves are all or nothing, exactly as long as no zero margin
is written and no write fails behind its replacement.** -/
theorem preferences_sound_iff {documentBytes : SubtitlePreferenceDocument → Nat}
    {styles : StyleManifest} {file : Option StoredPreferences} {outcome : WriteOutcome}
    {m : SubtitlePreferenceManager} (h : newWithAssets documentBytes styles file outcome = .ok m)
    (calls : List PreferenceCall) :
    (Resolvable m.document m.styles ∧ Along (PreferenceCall.next documentBytes)
        (PreferenceCall.Sound documentBytes) calls m) ↔
      (m.document.MarginsPositive ∧ Along (PreferenceCall.next documentBytes)
        (PreferenceCall.Safe documentBytes) calls m) := by
  obtain ⟨hstyles, hdocument, hfile⟩ := newWithAssets_eq_ok h
  rw [resolvable_iff hstyles hdocument]
  refine and_congr_right ?_
  intro hmargins
  exact along_congr Settled (fun m call hm hsafe => (hsafe.sound hm).1)
    (fun m call hm => PreferenceCall.sound_iff hm) ⟨hstyles, hdocument, hfile, hmargins⟩

/-! ### A safe area of zero -/

def white : Rgba := ⟨1, 1, 1, 1⟩

/-- A style that passes its checks. -/
def plainStyle : SubtitleStyle where
  id := "p".toList
  typography := ⟨"b".toList, "s".toList, 26, 17, 6 / 5, 0, 2⟩
  geometry := ⟨3 / 5, 100, 900, 16, 12, 4, 24, 8, 8, 48, 6⟩
  effects := ⟨⟨true, 1, white⟩, ⟨false, 0, 1, 2, white⟩, ⟨true, 0, 1, white, white⟩⟩
  animation := ⟨false, 0, 0, 0, 1, 0, 0⟩
  colors := ⟨white, white, .srgb, ⟨[.srgb], .bgra8SrgbPremultiplied, .windowsCompositorManaged,
    .noneInRenderer, false, none, none, none⟩⟩
  behavior := ⟨1 / 2, 250, 8, true⟩

def plainManifest : StyleManifest := ⟨1, "p".toList, [plainStyle]⟩

/-- The manager of a first start. -/
def firstStart : SubtitlePreferenceManager where
  styles := plainManifest
  document := ⟨1, 0, []⟩
  migration := ⟨.initializedDefaults, none, "Initialized native subtitle preferences from the " ++
    "validated bundled manifest; no font binaries were installed or downloaded."⟩
  file := some (.current ⟨1, 0, []⟩)

def saveMargin (margin : ℚ) : PreferenceCall :=
  .save ⟨0, ⟨.global, none, ⟨some margin, none, none, none⟩⟩⟩ .synced

/-- A first start, and a run of one save that meets the condition. -/
theorem preferences_sound_firstStart :
    newWithAssets (fun _ => 0) plainManifest none .synced = .ok firstStart ∧
      Resolvable firstStart.document firstStart.styles ∧
      Along (PreferenceCall.next fun _ => 0) (PreferenceCall.Sound fun _ => 0) [saveMargin 48]
        firstStart := by
  have hopen : newWithAssets (fun _ => 0) plainManifest none .synced = .ok firstStart := by
    decide +kernel
  have hmargins : firstStart.document.MarginsPositive := by
    intro entry hentry
    cases hentry
  have hsafe : (saveMargin 48).Safe (fun _ => 0) firstStart := by
    intro document _ _
    constructor
    · intro _ hzero
      have hne : (some 48 : Option ℚ) ≠ some 0 := by decide
      exact hne hzero
    · intro message houtcome
      cases houtcome
  exact ⟨hopen, (preferences_sound_iff hopen [saveMargin 48]).2 ⟨hmargins, hsafe, trivial⟩⟩

/-- **The entry check admits a safe area of zero**: the save reports an error, and has replaced the
document and the file by ones that do not resolve. -/
theorem zero_margin_persisted :
    newWithAssets (fun _ => 0) plainManifest none .synced = .ok firstStart ∧
      ((saveMargin 0).run (fun _ => 0) firstStart).1 = .error (.invalid
        ("effective style is outside the renderer contract: subtitle style `p` contains a " ++
          "non-positive or non-finite number").toList) ∧
      ((saveMargin 0).next (fun _ => 0) firstStart).document ≠ firstStart.document ∧
      ((saveMargin 0).next (fun _ => 0) firstStart).file ≠ firstStart.file ∧
      ¬Resolvable ((saveMargin 0).next (fun _ => 0) firstStart).document plainManifest := by
  refine ⟨by decide +kernel, by decide +kernel, by decide +kernel, by decide +kernel, ?_⟩
  intro hresolvable
  obtain ⟨r, hr⟩ := hresolvable .global rfl
  have hfails : (resolveEffective ((saveMargin 0).next (fun _ => 0) firstStart).document .global
      plainManifest).isOk = false := by
    decide +kernel
  rw [hr] at hfails
  cases hfails

end NpcRuntime.Subtitles
