import NpcRuntime.Lib.Result

/-!
# Steps that emit

A machine whose steps fail or emit a list: `step : σ → ι → Except ε (σ × List β)`. `emitAll` takes
the inputs one after the other and fails with the first error; `emitRun` keeps what was emitted up to
it, input by input. `emitEach` is the loop of steps that never fail.

* `emitAll_read`: a loop whose body reads its input and then takes steps that never fail is the
  reading of all inputs, and then all of the steps.
* `emitEach_flatMap`: a loop in a loop is one loop.
* `EmitAlong P`: every step of a run that succeeds meets `P`, with the inputs before it.
* `EmitAlong.inv`: what every such step keeps, of the inputs, the state and the outputs, the run
  keeps.
-/

namespace NpcRuntime

variable {σ ι κ β ε : Type}

/-- A loop that emits. -/
def emitEach (step : σ → ι → σ × List β) (s : σ) : List ι → σ × List β
  | [] => (s, [])
  | i :: is =>
    let next := step s i
    let final := emitEach step next.1 is
    (final.1, next.2 ++ final.2)

/-- A loop that emits, or fails. -/
def emitAll (step : σ → ι → Except ε (σ × List β)) (s : σ) : List ι → Except ε (σ × List β)
  | [] => .ok (s, [])
  | i :: is => do
    let (next, out) ← step s i
    let (final, more) ← emitAll step next is
    .ok (final, out ++ more)

/-- The inputs up to the first error, each with what it made the machine emit. -/
def emitRun (step : σ → ι → Except ε (σ × List β)) (s : σ) : List ι → List (ι × List β)
  | [] => []
  | i :: is =>
    match step s i with
    | .error _ => []
    | .ok (next, out) => (i, out) :: emitRun step next is

/-- All outputs of a run. -/
def outputs (steps : List (ι × List β)) : List β := steps.flatMap Prod.snd

variable {s : σ} {is : List ι}

section Loops

variable {step : σ → ι → Except ε (σ × List β)}

theorem emitEach_append (each : σ → ι → σ × List β) (is js : List ι) (s : σ) :
    emitEach each s (is ++ js) =
      ((emitEach each (emitEach each s is).1 js).1,
        (emitEach each s is).2 ++ (emitEach each (emitEach each s is).1 js).2) := by
  induction is generalizing s with
  | nil => rfl
  | cons i is ih => simp only [List.cons_append, emitEach, ih, List.append_assoc]

variable {s' : σ} {out : List β}

theorem emitAll_cons_eq_ok {i : ι} :
    emitAll step s (i :: is) = .ok (s', out) ↔
      ∃ next first more, step s i = .ok (next, first) ∧ emitAll step next is = .ok (s', more) ∧
        first ++ more = out := by
  rw [emitAll, bind_eq_ok]
  constructor
  · rintro ⟨⟨next, first⟩, hstep, hrest⟩
    obtain ⟨⟨final, more⟩, hmore, hok⟩ := bind_eq_ok.1 hrest
    cases hok
    exact ⟨next, first, more, hstep, hmore, rfl⟩
  · rintro ⟨next, first, more, hstep, hmore, rfl⟩
    exact ⟨(next, first), hstep, bind_eq_ok.2 ⟨(s', more), hmore, rfl⟩⟩

/-- A run without an error has all inputs. -/
theorem emitRun_of_ok (h : emitAll step s is = .ok (s', out)) :
    (emitRun step s is).map Prod.fst = is ∧ outputs (emitRun step s is) = out := by
  induction is generalizing s out with
  | nil =>
    cases h
    exact ⟨rfl, rfl⟩
  | cons i is ih =>
    obtain ⟨next, first, more, hstep, hmore, rfl⟩ := emitAll_cons_eq_ok.1 h
    obtain ⟨hinputs, houtputs⟩ := ih hmore
    simp only [emitRun, hstep, List.map_cons, hinputs, outputs, List.flatMap_cons]
    exact ⟨trivial, congrArg (first ++ ·) houtputs⟩

variable {each : σ → ι → σ × List β}

/-- What a loop keeps if each of its steps does. -/
theorem emitEach_inv (Inv : σ → Prop) (heach : ∀ s i, Inv s → Inv (each s i).1) (is : List ι)
    (hs : Inv s) : Inv (emitEach each s is).1 := by
  induction is generalizing s with
  | nil => exact hs
  | cons i is ih => exact ih (heach s i hs)

/-- What every output of a loop satisfies if those of each step do. -/
theorem emitEach_forall {Q : β → Prop} (heach : ∀ s i, ∀ b ∈ (each s i).2, Q b) (is : List ι)
    (s : σ) : ∀ b ∈ (emitEach each s is).2, Q b := by
  induction is generalizing s with
  | nil => exact fun b hb => nomatch hb
  | cons i is ih =>
    intro b hb
    rcases List.mem_append.1 hb with hfirst | hrest
    · exact heach s i b hfirst
    · exact ih (each s i).1 b hrest

/-- What a loop shows of its outputs, if each step shows what its input says. -/
theorem emitEach_shows {α : Type} {shown : β → List α} {said : ι → List α}
    (heach : ∀ s i, (each s i).2.flatMap shown = said i) (is : List ι) (s : σ) :
    (emitEach each s is).2.flatMap shown = is.flatMap said := by
  induction is generalizing s with
  | nil => rfl
  | cons i is ih => simp only [emitEach, List.flatMap_append, List.flatMap_cons, heach, ih]

/-- What a loop that goes through keeps, and what its outputs satisfy. -/
theorem emitAll_inv (Inv : σ → Prop) (Q : β → Prop)
    (hstep : ∀ s i next out, Inv s → step s i = .ok (next, out) → Inv next ∧ ∀ b ∈ out, Q b)
    (h : emitAll step s is = .ok (s', out)) (hs : Inv s) : Inv s' ∧ ∀ b ∈ out, Q b := by
  induction is generalizing s out with
  | nil =>
    cases h
    exact ⟨hs, fun b hb => nomatch hb⟩
  | cons i is ih =>
    obtain ⟨next, first, more, hfirst, hmore, rfl⟩ := emitAll_cons_eq_ok.1 h
    obtain ⟨hnext, hout⟩ := hstep s i next first hs hfirst
    obtain ⟨hfinal, hrest⟩ := ih hmore hnext
    refine ⟨hfinal, ?_⟩
    intro b hb
    rcases List.mem_append.1 hb with hin | hin
    · exact hout b hin
    · exact hrest b hin

/-- **Read first.** The reading may depend on what the steps keep. -/
theorem emitAll_read {read : ι → Except ε (List κ)} {each : σ → κ → σ × List β} (Inv : σ → Prop)
    (heach : ∀ s k, Inv s → Inv (each s k).1)
    (h : ∀ s i, Inv s → step s i = (read i).map (emitEach each s)) (is : List ι) (hs : Inv s) :
    emitAll step s is = (is.mapM read).map fun items => emitEach each s items.flatten := by
  induction is generalizing s with
  | nil => rfl
  | cons i is ih =>
    rw [List.mapM_cons, emitAll, h s i hs]
    cases read i with
    | error error => rfl
    | ok items =>
      have hnext := emitEach_inv Inv heach items hs
      simp only [Except.map, bind, Except.bind, ih hnext]
      cases is.mapM read with
      | error error => rfl
      | ok rest => simp only [pure, Except.pure, List.flatten_cons, emitEach_append]

/-- A loop in a loop. -/
theorem emitEach_flatMap {item : σ → κ → σ × List β} {f : ι → List κ}
    (h : ∀ s i, each s i = emitEach item s (f i)) (is : List ι) (s : σ) :
    emitEach each s is = emitEach item s (is.flatMap f) := by
  induction is generalizing s with
  | nil => rfl
  | cons i is ih => simp only [emitEach, List.flatMap_cons, emitEach_append, ih, h]

end Loops

/-! ## Conditions along a run -/

/-- Every step that succeeds meets the condition, with the inputs before it. -/
def EmitAlong (step : σ → ι → Except ε (σ × List β)) (P : List ι → σ → ι → Prop) :
    List ι → σ → List ι → Prop
  | _, _, [] => True
  | past, s, i :: is =>
    match step s i with
    | .error _ => True
    | .ok (next, _) => P past s i ∧ EmitAlong step P (past ++ [i]) next is

/-- **Invariants of runs that meet a condition.** -/
theorem EmitAlong.inv {step : σ → ι → Except ε (σ × List β)} {P : List ι → σ → ι → Prop}
    (Inv : List (ι × List β) → σ → Prop) (hstep : ∀ steps s i next out, Inv steps s → step s i =
      .ok (next, out) → P (steps.map Prod.fst) s i → Inv (steps ++ [(i, out)]) next)
    {steps : List (ι × List β)} (hs : Inv steps s)
    (h : EmitAlong step P (steps.map Prod.fst) s is) :
    ∃ final, Inv (steps ++ emitRun step s is) final := by
  induction is generalizing steps s with
  | nil => exact ⟨s, by simpa only [emitRun, List.append_nil] using hs⟩
  | cons i is ih =>
    cases hnext : step s i with
    | error error =>
      simp only [emitRun, hnext, List.append_nil]
      exact ⟨s, hs⟩
    | ok result =>
      simp only [EmitAlong, hnext] at h
      have hinv := hstep steps s i result.1 result.2 hs hnext h.1
      have hpast : steps.map Prod.fst ++ [i] = (steps ++ [(i, result.2)]).map Prod.fst := by
        rw [List.map_append, List.map_singleton]
      obtain ⟨final, hfinal⟩ := ih hinv (hpast ▸ h.2)
      simp only [emitRun, hnext]
      rw [List.append_assoc] at hfinal
      exact ⟨final, hfinal⟩

end NpcRuntime
