import NpcRuntime.Subtitles.Resolvable

/-!
# Scopes that inherit

What a scope inherits is stated on its own: the narrowest scope that sets a value decides, and a
value that no scope sets has its default (`Inherits`). `resolveEffective` computes exactly that
(`resolveEffective_inherited`), and a save or a reset at a scope reaches only the scopes below it
(`candidate_resolves`).

The revision guards a save against another one in between. It saturates, so at `u64::MAX` a save
leaves it as it is, and the guard lets the next one pass.
-/

namespace NpcRuntime.Subtitles

open Text SubtitlePreferenceManager

/-! ## Inheritance -/

/-- A document sets a value at a scope. -/
def SubtitlePreferenceDocument.Sets {α : Type} (document : SubtitlePreferenceDocument)
    (select : ScopedSubtitlePreferences → Option α) (scope : SubtitlePreferenceScope) (v : α) :
    Prop :=
  ∃ entry ∈ document.entries, entry.scope = scope ∧ select entry = some v

/-- The value that a chain of scopes, the narrowest first, inherits. -/
inductive Inherits {α : Type} (sets : SubtitlePreferenceScope → α → Prop) (fallback : α) :
    List SubtitlePreferenceScope → α → Prop
  | fallback : Inherits sets fallback [] fallback
  | own {scope : SubtitlePreferenceScope} {broader : List SubtitlePreferenceScope} {v : α}
      (h : sets scope v) : Inherits sets fallback (scope :: broader) v
  | inherited {scope : SubtitlePreferenceScope} {broader : List SubtitlePreferenceScope} {v : α}
      (h : ∀ own, ¬sets scope own) (hv : Inherits sets fallback broader v) :
      Inherits sets fallback (scope :: broader) v

/-- **The effective values of a scope**: each inherited on its own, three of them with a default
that the effective style gives. -/
structure EffectiveResolution.Inherited (r : EffectiveResolution)
    (document : SubtitlePreferenceDocument) (styles : StyleManifest)
    (scope : SubtitlePreferenceScope) (style : SubtitleStyle) : Prop where
  styleId : Inherits (document.Sets (·.selectedStyleId)) styles.defaultStyleId
    (scopeChain scope).reverse r.styleId.value
  bundled : styles.style r.styleId.value = some style
  safeAreaDp : Inherits (document.Sets (·.overrides.safeAreaDp)) style.geometry.safeMarginDp
    (scopeChain scope).reverse r.safeAreaDp.value
  textScale : Inherits (document.Sets (·.overrides.textScale)) 1 (scopeChain scope).reverse
    r.textScale.value
  backplateEnabled : Inherits (document.Sets (·.overrides.backplateEnabled))
    style.effects.backplate.enabled (scopeChain scope).reverse r.backplateEnabled.value
  opacity : Inherits (document.Sets (·.overrides.opacity)) 1 (scopeChain scope).reverse
    r.opacity.value
  patched : r.style = style.patched r.safeAreaDp.value r.textScale.value r.backplateEnabled.value

variable {scope : SubtitlePreferenceScope}

section Lookup

variable {document : SubtitlePreferenceDocument}

/-- The entry of a scope, where no two entries share one. -/
theorem find_scope (hnodup : (document.entries.map ScopedSubtitlePreferences.scope).Nodup)
    {entry : ScopedSubtitlePreferences} :
    (document.entries.find? fun entry => entry.scope = scope) = some entry ↔
      entry ∈ document.entries ∧ entry.scope = scope := by
  constructor
  · intro h
    exact ⟨List.mem_of_find?_eq_some h, by simpa using List.find?_some h⟩
  · intro h
    obtain ⟨hmem, rfl⟩ := h
    cases hfind : document.entries.find? (fun other => other.scope = entry.scope) with
    | none => simpa using List.find?_eq_none.1 hfind entry hmem
    | some other =>
      have hscope : other.scope = entry.scope := by simpa using List.find?_some hfind
      exact congrArg some
        (List.inj_on_of_nodup_map hnodup (List.mem_of_find?_eq_some hfind) hmem hscope)

/-- The walk over a chain of scopes finds what the chain inherits. -/
theorem effectiveOverride_inherits
    (hnodup : (document.entries.map ScopedSubtitlePreferences.scope).Nodup) {α : Type}
    (select : ScopedSubtitlePreferences → Option α) (fallback : α)
    (source : SubtitleEffectiveSource) (chain : List SubtitlePreferenceScope) :
    Inherits (document.Sets select) fallback chain.reverse
      (effectiveOverride (chain.filterMap fun scope =>
        document.entries.find? fun entry => entry.scope = scope) select fallback source).value := by
  induction chain using List.reverseRecOn with
  | nil => exact .fallback
  | append_singleton broader scope ih =>
    rw [List.reverse_concat, List.filterMap_append]
    cases hfind : document.entries.find? (fun entry => entry.scope = scope) with
    | none =>
      have hnone : ∀ v, ¬document.Sets select scope v := by
        intro v hv
        obtain ⟨entry, hentry, hscope, -⟩ := hv
        simpa [hscope] using List.find?_eq_none.1 hfind entry hentry
      simpa [hfind] using Inherits.inherited hnone ih
    | some entry =>
      obtain ⟨hentry, hscope⟩ := (find_scope hnodup).1 hfind
      cases hselect : select entry with
      | some v =>
        have hown : document.Sets select scope v := ⟨entry, hentry, hscope, hselect⟩
        simpa [hfind, effectiveOverride_concat hselect] using Inherits.own hown
      | none =>
        have hnone : ∀ v, ¬document.Sets select scope v := by
          intro v hv
          obtain ⟨other, hother, hscope', hv⟩ := hv
          obtain rfl := List.inj_on_of_nodup_map hnodup hentry hother (hscope.trans hscope'.symm)
          rw [hselect] at hv
          cases hv
        simpa [hfind, effectiveOverride, hselect] using Inherits.inherited hnone ih

/-- **What resolves is what the scope inherits.** -/
theorem resolveEffective_inherited {styles : StyleManifest}
    (hdocument : validateDocument document styles = .ok ()) {r : EffectiveResolution}
    (h : resolveEffective document scope styles = .ok r) :
    ∃ style, r.Inherited document styles scope style := by
  have hnodup := (validateDocument_eq_ok.1 hdocument).2.2.2
  simp only [resolveEffective, bind_eq_ok, okOr_eq_ok, pure_eq_ok] at h
  obtain ⟨style, hstyle, _, -, rfl⟩ := h
  exact ⟨style, {
    styleId := effectiveOverride_inherits hnodup _ _ _ _
    bundled := hstyle
    safeAreaDp := effectiveOverride_inherits hnodup _ _ _ _
    textScale := effectiveOverride_inherits hnodup _ _ _ _
    backplateEnabled := effectiveOverride_inherits hnodup _ _ _ _
    opacity := effectiveOverride_inherits hnodup _ _ _ _
    patched := rfl }⟩

/-- Documents with the same entries at the scopes of a chain resolve alike there. -/
theorem resolveEffective_congr {other : SubtitlePreferenceDocument}
    (hnodup : (document.entries.map ScopedSubtitlePreferences.scope).Nodup)
    (hnodup' : (other.entries.map ScopedSubtitlePreferences.scope).Nodup) (styles : StyleManifest)
    (h : ∀ entry : ScopedSubtitlePreferences, entry.scope ∈ scopeChain scope → (entry ∈
      other.entries ↔ entry ∈ document.entries)) :
    resolveEffective other scope styles = resolveEffective document scope styles := by
  have hchain : chainEntries other scope = chainEntries document scope := by
    apply List.filterMap_congr
    intro member hmember
    apply Option.ext
    intro entry
    rw [find_scope hnodup, find_scope hnodup']
    apply and_congr_left
    rintro rfl
    exact h entry hmember
  simp only [resolveEffective, hchain]

end Lookup

namespace PreferenceCall

variable {documentBytes : SubtitlePreferenceDocument → Nat} {m : SubtitlePreferenceManager}
  {call : PreferenceCall}

def expectedRevision : PreferenceCall → Nat
  | .save request _ => request.expectedRevision
  | .reset request _ => request.expectedRevision

/-- **What a call would write** carries the next revision, and differs at its own scope only. -/
theorem candidate_revision {document : SubtitlePreferenceDocument}
    (h : call.candidate m = .ok document) :
    m.document.revision = call.expectedRevision ∧
      document.revision = satAdd m.document.revision 1 ∧
      ∀ entry : ScopedSubtitlePreferences, entry.scope ≠ call.scope →
        (entry ∈ document.entries ↔ entry ∈ m.document.entries) := by
  cases call with
  | save request outcome =>
    have hcandidate : m.saveCandidate request = .ok document := h
    simp only [saveCandidate, check_eq_ok, require_eq_ok, pure_eq_ok,
      decide_eq_true_eq] at hcandidate
    obtain ⟨-, -, hrevision, -, rfl⟩ := hcandidate
    refine ⟨hrevision.symm, rfl, ?_⟩
    intro entry hne
    have hother : entry.scope ≠ request.entry.scope := hne
    have hentry : entry ≠ request.entry := fun heq => hother (congrArg _ heq)
    simp [canonicalizeEntries, hother, hentry]
  | reset request outcome =>
    have hcandidate : m.resetCandidate request = .ok document := h
    simp only [resetCandidate, check_eq_ok, require_eq_ok, pure_eq_ok,
      decide_eq_true_eq] at hcandidate
    obtain ⟨-, -, hrevision, -, rfl⟩ := hcandidate
    refine ⟨hrevision.symm, rfl, ?_⟩
    intro entry hne
    have hother : entry.scope ≠ request.scope := hne
    simp [hother]

/-- A call takes its candidate over, or leaves the document; only the first succeeds. -/
theorem next_document_cases (documentBytes : SubtitlePreferenceDocument → Nat)
    (m : SubtitlePreferenceManager) (call : PreferenceCall) :
    (∃ document, call.candidate m = .ok document ∧
      (call.next documentBytes m).document = document) ∨
    ((call.next documentBytes m).document = m.document ∧
      ∃ error, (call.run documentBytes m).1 = .error error) := by
  cases hcandidate : call.candidate m with
  | error error =>
    have hrun : call.run documentBytes m = _ := run_error hcandidate
    exact .inr ⟨by rw [next, hrun], error, by rw [hrun]⟩
  | ok document =>
    by_cases hsize : documentBytes document ≤ maxDocumentBytes
    · cases houtcome : call.outcome with
      | failed message =>
        have hrun : call.run documentBytes m = _ := next_failed hcandidate houtcome
        exact .inr ⟨by rw [next, hrun], _, by rw [hrun]⟩
      | unsynced message =>
        have hrun := next_unsynced hcandidate hsize houtcome
        exact .inr ⟨by rw [next, hrun], _, by rw [hrun]⟩
      | synced =>
        have hrun := next_synced hcandidate hsize houtcome
        exact .inl ⟨document, rfl, by rw [next, hrun]⟩
    · obtain ⟨error, hrun⟩ := next_oversized hcandidate (not_le.1 hsize)
      exact .inr ⟨by rw [next, hrun], error, by rw [hrun]⟩

/-- The document stays checked. -/
theorem next_checked (documentBytes : SubtitlePreferenceDocument → Nat) (call : PreferenceCall)
    (h : validateDocument m.document m.styles = .ok ()) :
    validateDocument (call.next documentBytes m).document (call.next documentBytes m).styles =
      .ok () := by
  rw [next_styles]
  rcases next_document_cases documentBytes m call with
    ⟨document, hcandidate, heq⟩ | ⟨heq, -⟩
  · rw [heq]
    exact (candidate_eq_ok hcandidate).1
  · rw [heq]
    exact h

/-- **A call reaches only the scopes whose chain contains its own.** -/
theorem next_resolves (h : validateDocument m.document m.styles = .ok ())
    (hscope : call.scope ∉ scopeChain scope) :
    resolveEffective (call.next documentBytes m).document scope m.styles =
      resolveEffective m.document scope m.styles := by
  have hchecked := next_checked documentBytes call h
  rcases next_document_cases documentBytes m call with
    ⟨document, hcandidate, heq⟩ | ⟨heq, -⟩
  · rw [heq] at hchecked ⊢
    apply resolveEffective_congr (validateDocument_eq_ok.1 h).2.2.2
      (validateDocument_eq_ok.1 hchecked).2.2.2
    intro entry hentry
    apply (candidate_revision hcandidate).2.2 entry
    rintro heq
    exact hscope (heq ▸ hentry)
  · rw [heq]

/-- The call is answered with a snapshot. -/
def succeeds (documentBytes : SubtitlePreferenceDocument → Nat) (m : SubtitlePreferenceManager)
    (call : PreferenceCall) : Bool :=
  (call.run documentBytes m).1.isOk

/-- A call that succeeds carries the revision, and the next revision is one more, up to
`u64::MAX`. -/
theorem revision_of_succeeds (h : call.succeeds documentBytes m = true) :
    m.document.revision = call.expectedRevision ∧
      (call.next documentBytes m).document.revision = satAdd call.expectedRevision 1 := by
  rcases next_document_cases documentBytes m call with
    ⟨document, hcandidate, heq⟩ | ⟨-, error, herror⟩
  · obtain ⟨hexpected, hrevision, -⟩ := candidate_revision hcandidate
    exact ⟨hexpected, by rw [heq, hrevision, hexpected]⟩
  · rw [succeeds, herror] at h
    cases h

/-- **A call that succeeds raises the revision exactly if that is not saturated.** -/
theorem revision_lt_next_iff (h : call.succeeds documentBytes m = true) :
    m.document.revision < (call.next documentBytes m).document.revision ↔
      call.expectedRevision < u64Max := by
  obtain ⟨hexpected, hnext⟩ := revision_of_succeeds h
  rw [hexpected, hnext, satAdd]
  omega

/-- No call with an unsaturated revision lowers the revision. -/
theorem revision_le_next (documentBytes : SubtitlePreferenceDocument → Nat)
    (m : SubtitlePreferenceManager) (h : call.expectedRevision < u64Max) :
    m.document.revision ≤ (call.next documentBytes m).document.revision := by
  rcases next_document_cases documentBytes m call with
    ⟨document, hcandidate, heq⟩ | ⟨heq, -⟩
  · obtain ⟨hexpected, hrevision, -⟩ := candidate_revision hcandidate
    rw [heq, hrevision, hexpected, satAdd]
    omega
  · rw [heq]

end PreferenceCall

/-! ## Runs -/

section Runs

variable (documentBytes : SubtitlePreferenceDocument → Nat)

/-- The calls of a run that succeed. -/
def successes : List PreferenceCall → SubtitlePreferenceManager → List PreferenceCall
  | [], _ => []
  | call :: calls, m =>
    if call.succeeds documentBytes m then call :: successes calls (call.next documentBytes m)
    else successes calls (call.next documentBytes m)

variable {documentBytes} {m : SubtitlePreferenceManager}

/-- **The revision as a token**: calls with unsaturated revisions succeed in the order of the
revisions they carry, none of them below the revision there is. -/
theorem successes_increase {calls : List PreferenceCall}
    (h : ∀ call ∈ calls, call.expectedRevision < u64Max) :
    (∀ call ∈ successes documentBytes calls m, m.document.revision ≤ call.expectedRevision) ∧
      ((successes documentBytes calls m).map PreferenceCall.expectedRevision).Pairwise
        (· < ·) := by
  induction calls generalizing m with
  | nil =>
    refine ⟨?_, .nil⟩
    intro call hcall
    cases hcall
  | cons call calls ih =>
    have hcall := h call List.mem_cons_self
    obtain ⟨hrest, hincrease⟩ := ih (m := call.next documentBytes m)
      fun other hother => h other (List.mem_cons_of_mem _ hother)
    have hle := PreferenceCall.revision_le_next documentBytes m hcall
    by_cases hsucceeds : call.succeeds documentBytes m = true
    · obtain ⟨hexpected, -⟩ := PreferenceCall.revision_of_succeeds hsucceeds
      have hlt := (PreferenceCall.revision_lt_next_iff hsucceeds).2 hcall
      rw [successes, if_pos hsucceeds, List.map_cons, List.pairwise_cons]
      refine ⟨?_, ?_, hincrease⟩
      · intro other hother
        rcases List.mem_cons.1 hother with rfl | hother
        · exact hexpected.le
        · exact hle.trans (hrest other hother)
      · intro revision hrevision
        obtain ⟨other, hother, rfl⟩ := List.mem_map.1 hrevision
        exact (hexpected ▸ hlt).trans_le (hrest other hother)
    · rw [successes, if_neg hsucceeds]
      exact ⟨fun other hother => hle.trans (hrest other hother), hincrease⟩

/-- The document of every state of a run is checked, and the styles stay. -/
theorem run_checked (h : validateDocument m.document m.styles = .ok ())
    (calls : List PreferenceCall) :
    validateDocument (runFrom (PreferenceCall.next documentBytes) calls m).document m.styles =
        .ok () ∧
      (runFrom (PreferenceCall.next documentBytes) calls m).styles = m.styles := by
  apply inv_runFrom (fun state : SubtitlePreferenceManager =>
    validateDocument state.document m.styles = .ok () ∧ state.styles = m.styles)
  · intro state call hstate
    obtain ⟨hchecked, hstyles⟩ := hstate
    rw [← hstyles] at hchecked ⊢
    have hnext := PreferenceCall.next_checked documentBytes call hchecked
    rw [PreferenceCall.next_styles] at hnext
    exact ⟨hnext, PreferenceCall.next_styles⟩
  · exact ⟨h, rfl⟩

/-- **Preferences are scoped, and guarded by the revision below `u64::MAX`.** In every state of a
run a scope resolves to what it inherits; a call reaches only the scopes below its own; a call that
succeeds raises the revision exactly if it carries one below `u64::MAX`; and calls that all do
succeed once for each revision. -/
theorem preferences_scoped {styles : StyleManifest} {file : Option StoredPreferences}
    {outcome : WriteOutcome} (h : newWithAssets documentBytes styles file outcome = .ok m)
    (calls : List PreferenceCall) :
    (∀ pre, pre <+: calls → ∀ scope r,
      resolveEffective (runFrom (PreferenceCall.next documentBytes) pre m).document scope
          m.styles = .ok r →
        ∃ style, r.Inherited (runFrom (PreferenceCall.next documentBytes) pre m).document m.styles
          scope style) ∧
    Along (PreferenceCall.next documentBytes) (fun m call => ∀ scope,
      call.scope ∉ scopeChain scope →
        resolveEffective (call.next documentBytes m).document scope m.styles =
          resolveEffective m.document scope m.styles) calls m ∧
    Along (PreferenceCall.next documentBytes) (fun m call =>
      call.succeeds documentBytes m = true →
        (m.document.revision < (call.next documentBytes m).document.revision ↔
          call.expectedRevision < u64Max)) calls m ∧
    ((∀ call ∈ calls, call.expectedRevision < u64Max) →
      ((successes documentBytes calls m).map PreferenceCall.expectedRevision).Nodup) := by
  obtain ⟨-, hchecked, -⟩ := newWithAssets_eq_ok h
  refine ⟨?_, ?_, ?_, ?_⟩
  · intro pre _ scope r hr
    exact resolveEffective_inherited (run_checked hchecked pre).1 hr
  · apply Along.mono_inv (P := fun _ _ => True)
      (fun m => validateDocument m.document m.styles = .ok ())
      (fun _ call hm _ => PreferenceCall.next_checked documentBytes call hm)
      (fun m call hm _ scope hscope => PreferenceCall.next_resolves hm hscope) hchecked
    exact along_of_forall (fun _ _ => trivial) calls m
  · exact along_of_forall (fun m call hsucceeds => PreferenceCall.revision_lt_next_iff hsucceeds)
      calls m
  · intro hcalls
    exact (successes_increase hcalls).2.imp fun hlt => hlt.ne

end Runs

/-- A first start and a save at its revision. -/
theorem preferences_scoped_firstStart :
    newWithAssets (fun _ => 0) plainManifest none .synced = .ok firstStart ∧
      successes (fun _ => 0) [saveMargin 48, saveMargin 32] firstStart = [saveMargin 48] ∧
      ((successes (fun _ => 0) [saveMargin 48, saveMargin 32] firstStart).map
        PreferenceCall.expectedRevision).Nodup := by
  have hopen : newWithAssets (fun _ => 0) plainManifest none .synced = .ok firstStart := by
    decide +kernel
  refine ⟨hopen, by decide +kernel, ?_⟩
  exact (preferences_scoped hopen [saveMargin 48, saveMargin 32]).2.2.2 (by decide)

/-- The manager of a file whose revision is saturated. -/
def saturatedStart : SubtitlePreferenceManager where
  styles := plainManifest
  document := ⟨1, u64Max, []⟩
  migration := currentMigration
  file := some (.current ⟨1, u64Max, []⟩)

def saveSaturated (margin : ℚ) : PreferenceCall :=
  .save ⟨u64Max, ⟨.global, none, ⟨some margin, none, none, none⟩⟩⟩ .synced

/-- **At `u64::MAX` the revision guards nothing**: two saves that carry it both succeed, and the
second replaces what the first one saved. -/
theorem saturated_revision_accepts_twice :
    newWithAssets (fun _ => 0) plainManifest (some (.current ⟨1, u64Max, []⟩)) .synced =
        .ok saturatedStart ∧
      successes (fun _ => 0) [saveSaturated 48, saveSaturated 32] saturatedStart =
        [saveSaturated 48, saveSaturated 32] ∧
      ¬((successes (fun _ => 0) [saveSaturated 48, saveSaturated 32] saturatedStart).map
        PreferenceCall.expectedRevision).Nodup := by
  have hboth : successes (fun _ => 0) [saveSaturated 48, saveSaturated 32] saturatedStart =
      [saveSaturated 48, saveSaturated 32] := by
    decide +kernel
  refine ⟨by decide +kernel, hboth, ?_⟩
  rw [hboth]
  decide

end NpcRuntime.Subtitles
