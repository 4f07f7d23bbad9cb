import Mathlib.Data.List.Basic
import Mathlib.Logic.Relation

/-!
# Runs of a deterministic machine

A machine is a step function `ι → σ → σ`: the environment picks the inputs, the machine moves.
`runFrom` folds the inputs, `Along P` says that `P` holds of every input of the run together with
the state that input meets, and the rules below turn a step lemma into a run lemma.

* `inv_runFrom`: what every step keeps, every run keeps.
* `Along.inv`: the same when the step lemma needs a condition that the run meets.
* `Along.mono_inv`: what a step does under an invariant, it does all along the run.
* `along_congr`: conditions that agree under an invariant hold along the same runs.
* `along_iff_prefixes`: a condition that decides whether a step keeps a property decides whether
  every state of a run has it; `along_iff_prefixes_of` is about the runs that meet a condition.
* `observed_pairwise`: what the steps of a run show is ordered if each step bounds what comes later.
-/

namespace NpcRuntime

variable {σ ι : Type*} {step : ι → σ → σ}

/-- The state after the inputs `is`, from `s`. -/
def runFrom (step : ι → σ → σ) (is : List ι) (s : σ) : σ := is.foldl (fun s i => step i s) s

theorem runFrom_append (is js : List ι) (s : σ) :
    runFrom step (is ++ js) s = runFrom step js (runFrom step is s) := List.foldl_append

/-- Every input of the run satisfies `P` in the state it meets. -/
def Along (step : ι → σ → σ) (P : σ → ι → Prop) : List ι → σ → Prop
  | [], _ => True
  | i :: is, s => P s i ∧ Along step P is (step i s)

/-- Whether a run meets `P` is decidable when each of its steps is. -/
instance Along.decidable (step : ι → σ → σ) (P : σ → ι → Prop) [∀ s i, Decidable (P s i)] :
    ∀ is s, Decidable (Along step P is s)
  | [], _ => isTrue trivial
  | i :: is, s => @instDecidableAnd _ _ _ (Along.decidable step P is (step i s))

variable {s : σ}

/-- **Invariants of runs.** -/
theorem inv_runFrom (Inv : σ → Prop) (hstep : ∀ s i, Inv s → Inv (step i s)) (hs : Inv s)
    (is : List ι) : Inv (runFrom step is s) := by
  induction is generalizing s with
  | nil => exact hs
  | cons i is ih => exact ih (hstep s i hs)

variable {P : σ → ι → Prop} {is : List ι}

/-- **Invariants of runs that meet a condition.** -/
theorem Along.inv (Inv : σ → Prop) (hstep : ∀ s i, Inv s → P s i → Inv (step i s)) (hs : Inv s)
    (h : Along step P is s) : Inv (runFrom step is s) := by
  induction is generalizing s with
  | nil => exact hs
  | cons i is ih => exact ih (hstep s i hs h.1) h.2

variable {Q : σ → ι → Prop}

/-- **What a step does under an invariant holds at every step of the run.** -/
theorem Along.mono_inv (Inv : σ → Prop) (hstep : ∀ s i, Inv s → P s i → Inv (step i s))
    (hQ : ∀ s i, Inv s → P s i → Q s i) (hs : Inv s) (h : Along step P is s) :
    Along step Q is s := by
  induction is generalizing s with
  | nil => trivial
  | cons i is ih => exact ⟨hQ s i hs h.1, ih (hstep s i hs h.1) h.2⟩

/-- **Equivalent conditions.** Two conditions that agree under an invariant, which they keep, hold
along the same runs. -/
theorem along_congr (Inv : σ → Prop) (hstep : ∀ s i, Inv s → Q s i → Inv (step i s))
    (h : ∀ s i, Inv s → (P s i ↔ Q s i)) (hs : Inv s) : Along step P is s ↔ Along step Q is s := by
  constructor
  · intro hP
    exact hP.mono_inv Inv (fun s i hs hi => hstep s i hs ((h s i hs).1 hi))
      (fun s i hs hi => (h s i hs).1 hi) hs
  · intro hQ
    exact hQ.mono_inv Inv hstep (fun s i hs hi => (h s i hs).2 hi) hs

/-- What every step does, every step of a run does. -/
theorem along_of_forall (h : ∀ s i, P s i) (is : List ι) (s : σ) : Along step P is s := by
  induction is generalizing s with
  | nil => trivial
  | cons i is ih => exact ⟨h s i, ih (step i s)⟩

/-- A run in two parts. -/
theorem along_append {js : List ι} :
    Along step P (is ++ js) s ↔ Along step P is s ∧ Along step P js (runFrom step is s) := by
  induction is generalizing s with
  | nil => simp [Along, runFrom]
  | cons i is ih =>
    show P s i ∧ Along step P (is ++ js) (step i s) ↔ _
    rw [ih, ← and_assoc]
    rfl

/-- A condition of a run is one of its first part. -/
theorem Along.initial {pre : List ι} (h : Along step P is s) (hpre : pre <+: is) :
    Along step P pre s := by
  obtain ⟨rest, rfl⟩ := hpre
  exact (along_append.1 h).1

theorem Along.and (hP : Along step P is s) (hQ : Along step Q is s) :
    Along step (fun s i => P s i ∧ Q s i) is s := by
  induction is generalizing s with
  | nil => trivial
  | cons i is ih => exact ⟨⟨hP.1, hQ.1⟩, ih hP.2 hQ.2⟩

/-- **Exact conditions.** Where `P` decides whether a step that meets `C` keeps `Q`, every state of
a run of such steps has `Q` exactly if every step of it meets `P`. The invariant is needed only
where `Q` is kept. -/
theorem along_iff_prefixes_of {C : σ → ι → Prop} (Inv Q : σ → Prop)
    (hinv : ∀ s i, Inv s → C s i → Q s → Q (step i s) → Inv (step i s))
    (hstep : ∀ s i, Inv s → C s i → Q s → (Q (step i s) ↔ P s i)) (hs : Inv s) (hq : Q s)
    (hC : Along step C is s) :
    (∀ pre, pre <+: is → Q (runFrom step pre s)) ↔ Along step P is s := by
  induction is generalizing s with
  | nil =>
    refine ⟨fun _ => trivial, ?_⟩
    intro _ pre hpre
    rw [List.prefix_nil.1 hpre]
    exact hq
  | cons i is ih =>
    constructor
    · intro h
      have hnext : Q (step i s) := h [i] (List.prefix_append [i] is)
      refine ⟨(hstep s i hs hC.1 hq).1 hnext, (ih (hinv s i hs hC.1 hq hnext) hnext hC.2).1 ?_⟩
      intro pre hpre
      exact h (i :: pre) (List.cons_prefix_cons.2 ⟨rfl, hpre⟩)
    · intro h pre hpre
      have hnext : Q (step i s) := (hstep s i hs hC.1 hq).2 h.1
      cases pre with
      | nil => exact hq
      | cons j pre =>
        obtain ⟨rfl, hrest⟩ := List.cons_prefix_cons.1 hpre
        exact (ih (hinv s j hs hC.1 hq hnext) hnext hC.2).2 h.2 pre hrest

/-- The same for runs of any steps. -/
theorem along_iff_prefixes (Inv Q : σ → Prop) (hinv : ∀ s i, Inv s → Inv (step i s))
    (hstep : ∀ s i, Inv s → Q s → (Q (step i s) ↔ P s i)) (hs : Inv s) (hq : Q s) :
    (∀ pre, pre <+: is → Q (runFrom step pre s)) ↔ Along step P is s :=
  along_iff_prefixes_of (C := fun _ _ => True) Inv Q (fun s i h _ _ _ => hinv s i h)
    (fun s i h _ => hstep s i h) hs hq (along_of_forall (fun _ _ => trivial) is s)

/-- What is observed of the steps of a run, in their order. -/
def observed {β : Type*} (step : ι → σ → σ) (f : σ → ι → Option β) : List ι → σ → List β
  | [], _ => []
  | i :: is, s => (f s i).toList ++ observed step f is (step i s)

theorem observed_append {β : Type*} {f : σ → ι → Option β} (is js : List ι) (s : σ) :
    observed step f (is ++ js) s =
      observed step f is s ++ observed step f js (runFrom step is s) := by
  induction is generalizing s with
  | nil => rfl
  | cons i is ih =>
    show (f s i).toList ++ observed step f (is ++ js) (step i s) = _
    rw [ih, ← List.append_assoc]
    rfl

/-- **What can be observed later.** `B s b` says that `b` may still be observed from `s` on: if no
step makes possible what was not, then it holds of everything that a run observes. -/
theorem mem_observed {β : Type*} {f : σ → ι → Option β} (Inv : σ → Prop) (B : σ → β → Prop)
    (hinv : ∀ s i, Inv s → Inv (step i s)) (hnow : ∀ s i b, Inv s → f s i = some b → B s b)
    (hlater : ∀ s i b, Inv s → B (step i s) b → B s b) (hs : Inv s) {b : β}
    (hb : b ∈ observed step f is s) : B s b := by
  induction is generalizing s with
  | nil => cases hb
  | cons i is ih =>
    rcases List.mem_append.1 hb with hhead | htail
    · exact hnow s i b hs (Option.mem_toList.1 hhead)
    · exact hlater s i b hs (ih (hinv s i hs) htail)

/-- **Ordered observations.** Two observations are related if whatever can be observed after the
first one is related to it. -/
theorem observed_pairwise {β : Type*} {f : σ → ι → Option β} {R : β → β → Prop} (Inv : σ → Prop)
    (B : σ → β → Prop) (hinv : ∀ s i, Inv s → Inv (step i s))
    (hnow : ∀ s i b, Inv s → f s i = some b → B s b)
    (hlater : ∀ s i b, Inv s → B (step i s) b → B s b)
    (hnext : ∀ s i b b', Inv s → f s i = some b → B (step i s) b' → R b b') (hs : Inv s) :
    (observed step f is s).Pairwise R := by
  induction is generalizing s with
  | nil => exact List.Pairwise.nil
  | cons i is ih =>
    rw [observed, List.pairwise_append]
    refine ⟨?_, ih (hinv s i hs), ?_⟩
    · cases f s i with
      | none => exact List.Pairwise.nil
      | some b => exact List.pairwise_singleton R b
    · intro b hb b' hb'
      exact hnext s i b b' hs (Option.mem_toList.1 hb)
        (mem_observed Inv B hinv hnow hlater (hinv s i hs) hb')

/-- A relation that keeps a property keeps it along its finite chains. -/
theorem inv_chain {R : σ → σ → Prop} (Inv : σ → Prop) (hstep : ∀ s s', R s s' → Inv s → Inv s')
    {s' : σ} (h : Relation.ReflTransGen R s s') (hs : Inv s) : Inv s' := by
  induction h with
  | refl => exact hs
  | tail _ hr ih => exact hstep _ _ hr ih

end NpcRuntime
