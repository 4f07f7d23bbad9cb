import Mathlib.Logic.Basic

/-!
# Calls that may fail

A call of type `ExceptT ε (StateM σ) α` changes a state also when it fails, so a rule for it has
two ends: `Triple pre call post fails` says where it ends from `pre`, with `post` for the results
and `fails` for the failures.
-/

namespace NpcRuntime

variable {ε σ α β : Type}

/-- Where a call ends. -/
def Ends (post : α → σ → Prop) (fails : σ → Prop) : Except ε α × σ → Prop
  | (.ok a, s) => post a s
  | (.error _, s) => fails s

theorem Ends.mono {post post' : α → σ → Prop} {fails fails' : σ → Prop} {out : Except ε α × σ}
    (h : Ends post fails out) (hpost : ∀ a s, post a s → post' a s)
    (hfails : ∀ s, fails s → fails' s) : Ends post' fails' out := by
  obtain ⟨error | a, s⟩ := out
  · exact hfails s h
  · exact hpost a s h

def Triple (pre : σ → Prop) (call : ExceptT ε (StateM σ) α) (post : α → σ → Prop)
    (fails : σ → Prop) : Prop :=
  ∀ s, pre s → Ends post fails (call s)

section Rules

variable {pre pre' fails fails' : σ → Prop} {post post' : α → σ → Prop}
  {call : ExceptT ε (StateM σ) α}

section

variable (h : Triple pre call post fails)

include h

theorem Triple.ok {s s' : σ} {a : α} (hs : pre s) (hcall : call s = (.ok a, s')) : post a s' := by
  have hends := h s hs
  rw [hcall] at hends
  exact hends

theorem Triple.error {s s' : σ} {e : ε} (hs : pre s) (hcall : call s = (.error e, s')) :
    fails s' := by
  have hends := h s hs
  rw [hcall] at hends
  exact hends

/-- **Consequence.** -/
theorem Triple.mono (hpre : ∀ s, pre' s → pre s) (hpost : ∀ a s, post a s → post' a s)
    (hfails : ∀ s, fails s → fails' s) : Triple pre' call post' fails' :=
  fun s hs => (h s (hpre s hs)).mono hpost hfails

theorem Triple.and {fails' : σ → Prop} (h' : Triple pre' call post' fails') :
    Triple (fun s => pre s ∧ pre' s) call (fun a s => post a s ∧ post' a s)
      fun s => fails s ∧ fails' s := by
  intro s hs
  have hends := h s hs.1
  have hends' := h' s hs.2
  rcases hout : call s with ⟨error | a, s'⟩
  · rw [hout] at hends hends'
    exact ⟨hends, hends'⟩
  · rw [hout] at hends hends'
    exact ⟨hends, hends'⟩

theorem Triple.mono_fails (hfails : ∀ s, fails s → fails' s) : Triple pre call post fails' :=
  h.mono (fun _ h => h) (fun _ _ h => h) hfails

end

theorem triple_pure (a : α) (h : ∀ s, pre s → post a s) :
    Triple pre (pure a : ExceptT ε (StateM σ) α) post fails :=
  h

theorem triple_throw (error : ε) (h : ∀ s, pre s → fails s) :
    Triple pre (throw error : ExceptT ε (StateM σ) α) post fails :=
  h

variable {last : β → σ → Prop}

/-- **Sequence.** -/
theorem triple_bind {next : α → ExceptT ε (StateM σ) β} (h : Triple pre call post fails)
    (hnext : ∀ a, Triple (post a) (next a) last fails) : Triple pre (call >>= next) last fails := by
  intro s hs
  have hends := h s hs
  show Ends last fails (ExceptT.bindCont next (call s).1 (call s).2)
  generalize call s = out at hends ⊢
  obtain ⟨error | a, s'⟩ := out
  · exact hends
  · exact hnext a s' hends

/-- The state that is read is the one the rest starts in. -/
theorem triple_get {next : σ → ExceptT ε (StateM σ) β}
    (h : ∀ s, pre s → Triple (· = s) (next s) last fails) : Triple pre (get >>= next) last fails :=
  fun s hs => h s hs s rfl

theorem triple_modify {f : σ → σ} {post : Unit → σ → Prop} (h : ∀ s, pre s → post () (f s)) :
    Triple pre (modify f : ExceptT ε (StateM σ) Unit) post fails :=
  h

/-- The rest starts in the state that was written. -/
theorem triple_modify_bind {f : σ → σ} {next : PUnit → ExceptT ε (StateM σ) β} (Q : σ → Prop)
    (h : ∀ s, pre s → Q (f s)) (hnext : Triple Q (next ⟨⟩) last fails) :
    Triple pre (modify f >>= next) last fails :=
  fun s hs => hnext (f s) (h s hs)

theorem triple_liftExcept {x : Except ε α} (h : ∀ a, x = .ok a → ∀ s, pre s → post a s)
    (hfails : ∀ s, pre s → fails s) :
    Triple pre (liftExcept x : ExceptT ε (StateM σ) α) post fails := by
  intro s hs
  cases x with
  | error error => exact hfails s hs
  | ok a => exact h a rfl s hs

theorem tryCatch_apply (handler : ε → ExceptT ε (StateM σ) α) (s : σ) :
    (tryCatch call handler : ExceptT ε (StateM σ) α) s =
      match call s with
      | (.ok a, s') => (.ok a, s')
      | (.error error, s') => handler error s' := by
  show (ExceptT.tryCatch call handler) s = _
  unfold ExceptT.tryCatch
  simp only [ExceptT.mk, bind, StateT.bind]
  cases call s with
  | mk result s' => cases result <;> rfl

/-- **Handled failures.** -/
theorem triple_tryCatch {handler : ε → ExceptT ε (StateM σ) α} (h : Triple pre call post fails')
    (hhandler : ∀ error, Triple fails' (handler error) post fails) :
    Triple pre (tryCatch call handler) post fails := by
  intro s hs
  have hends := h s hs
  rw [tryCatch_apply]
  generalize call s = out at hends
  obtain ⟨error | a, s'⟩ := out
  · exact hhandler error s' hends
  · exact hends

end Rules

variable {call : ExceptT ε (StateM σ) α}

theorem call_bind_of_ok {next : α → ExceptT ε (StateM σ) β} {s s' : σ} {a : α}
    (h : call s = (.ok a, s')) : (call >>= next) s = next a s' := by
  show ExceptT.bindCont next (call s).1 (call s).2 = _
  rw [h]
  rfl

theorem call_bind_of_error {next : α → ExceptT ε (StateM σ) β} {s s' : σ} {e : ε}
    (h : call s = (.error e, s')) : (call >>= next) s = (.error e, s') := by
  show ExceptT.bindCont next (call s).1 (call s).2 = _
  rw [h]
  rfl

theorem call_bind_liftExcept {x : Except ε α} {a : α} {next : α → ExceptT ε (StateM σ) β}
    (h : x = .ok a) (s : σ) : ((liftExcept x : ExceptT ε (StateM σ) α) >>= next) s = next a s := by
  subst h
  rfl

theorem call_bind_get (next : σ → ExceptT ε (StateM σ) β) (s : σ) :
    ((get : ExceptT ε (StateM σ) σ) >>= next) s = next s s := rfl

theorem call_bind_modify (f : σ → σ) (next : PUnit → ExceptT ε (StateM σ) β) (s : σ) :
    ((modify f : ExceptT ε (StateM σ) PUnit) >>= next) s = next ⟨⟩ (f s) := rfl

theorem call_bind_liftExcept_error {x : Except ε α} {e : ε} {next : α → ExceptT ε (StateM σ) β}
    (h : x = .error e) (s : σ) :
    ((liftExcept x : ExceptT ε (StateM σ) α) >>= next) s = (.error e, s) := by
  subst h
  rfl

/-- **Loops that succeed.** Where every round succeeds and carries the invariant one element on, so
does the loop. -/
theorem forM_ok {γ : Type} {l : List γ} {body : γ → ExceptT ε (StateM σ) PUnit}
    (inv : List γ → σ → Prop) (h : ∀ done a rest s, l = done ++ a :: rest → inv done s →
      ∃ s', body a s = (.ok ⟨⟩, s') ∧ inv (done ++ [a]) s') {s : σ} (hs : inv [] s) :
    ∃ s', l.forM body s = (.ok ⟨⟩, s') ∧ inv l s' := by
  have hloop : ∀ rest done s, l = done ++ rest → inv done s →
      ∃ s', rest.forM body s = (.ok ⟨⟩, s') ∧ inv l s' := by
    intro rest
    induction rest with
    | nil =>
      intro done s hl hdone
      rw [List.append_nil] at hl
      exact ⟨s, rfl, hl ▸ hdone⟩
    | cons a rest ih =>
      intro done s hl hdone
      obtain ⟨s', hbody, hinv⟩ := h done a rest s hl hdone
      obtain ⟨s'', hrest, hend⟩ := ih (done ++ [a]) s' (by simp [hl]) hinv
      refine ⟨s'', ?_, hend⟩
      show (body a >>= fun _ => rest.forM body) s = _
      rw [call_bind_of_ok hbody, hrest]
  exact hloop l [] s rfl hs

/-- A call keeps what it found, whether it succeeds or not. -/
abbrev Keeps (inv : σ → Prop) (call : ExceptT ε (StateM σ) α) : Prop :=
  Triple inv call (fun _ => inv) inv

theorem Keeps.after {inv : σ → Prop} (h : Keeps inv call) {s : σ} (hs : inv s) :
    inv (call s).2 := by
  have hends := h s hs
  generalize call s = out at hends ⊢
  obtain ⟨error | a, s'⟩ := out
  · exact hends
  · exact hends

/-! ## Observed calls -/

/-- A call that keeps a record beside its state. -/
abbrev Observed (ε σ ρ α : Type) := ExceptT ε (StateM (σ × List ρ)) α

/-- The call, with what there is to record of its two ends. -/
def recorded {ρ : Type} (record : σ → σ → List ρ) (call : ExceptT ε (StateM σ) α) :
    Observed ε σ ρ α := fun s =>
  ((call s.1).1, (call s.1).2, s.2 ++ record s.1 (call s.1).2)

/-- But for its record, the observed call is the call. -/
def Forgets {ρ : Type} (observed : Observed ε σ ρ α) (call : ExceptT ε (StateM σ) α) : Prop :=
  ∀ s, ((observed s).1, (observed s).2.1) = call s.1

section Observed

variable {ρ : Type} {observed : Observed ε σ ρ α} {call : ExceptT ε (StateM σ) α}

theorem forgets_recorded (record : σ → σ → List ρ) (call : ExceptT ε (StateM σ) α) :
    Forgets (recorded record call) call := fun _ => rfl

theorem forgets_pure (a : α) :
    Forgets (pure a : Observed ε σ ρ α) (pure a) := fun _ => rfl

theorem forgets_throw (error : ε) :
    Forgets (throw error : Observed ε σ ρ α) (throw error) := fun _ => rfl

theorem forgets_bind {observedNext : α → Observed ε σ ρ β} {next : α → ExceptT ε (StateM σ) β}
    (h : Forgets observed call) (hnext : ∀ a, Forgets (observedNext a) (next a)) :
    Forgets (observed >>= observedNext) (call >>= next) := by
  intro s
  have hcall := h s
  rcases hout : observed s with ⟨error | a, s'⟩
  · rw [hout] at hcall
    rw [call_bind_of_error hout, call_bind_of_error hcall.symm]
  · rw [hout] at hcall
    rw [call_bind_of_ok hout, call_bind_of_ok hcall.symm]
    exact hnext a s'

theorem forgets_tryCatch {observedHandler : ε → Observed ε σ ρ α}
    {handler : ε → ExceptT ε (StateM σ) α} (h : Forgets observed call)
    (hhandler : ∀ error, Forgets (observedHandler error) (handler error)) :
    Forgets (tryCatch observed observedHandler) (tryCatch call handler) := by
  intro s
  rw [tryCatch_apply, tryCatch_apply, ← h s]
  rcases observed s with ⟨error | a, s'⟩
  · exact hhandler error s'
  · rfl

end Observed

end NpcRuntime
