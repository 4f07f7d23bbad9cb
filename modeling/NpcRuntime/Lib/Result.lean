import Mathlib.Data.List.Forall2

/-!
# Fallible calls

When a call built from other calls with `?` succeeds: each of them does, and the last one gives the
result. `Returns` is the same as a rule: what a call returns, if it succeeds. `require` is an early
return, `okOr` is `Option::ok_or`.
-/

namespace NpcRuntime

universe u v

variable {ε ε' : Type u} {α β : Type v}

variable {x : Except ε α}

theorem bind_eq_ok {f : α → Except ε β} {b : β} :
    (x >>= f) = .ok b ↔ ∃ a, x = .ok a ∧ f a = .ok b := by
  cases x <;> simp [bind, Except.bind]

/-- A check, then the rest. -/
theorem check_eq_ok {ε α : Type u} {x : Except ε PUnit} {f : PUnit → Except ε α} {b : α} :
    (x >>= f) = .ok b ↔ x = .ok ⟨⟩ ∧ f ⟨⟩ = .ok b := by
  rw [bind_eq_ok]
  constructor
  · intro h
    obtain ⟨⟨⟩, hx, hf⟩ := h
    exact ⟨hx, hf⟩
  · intro h
    exact ⟨⟨⟩, h.1, h.2⟩

variable {a : α}

/-- What a call returns, if it returns anything, meets `P`. -/
def Returns (x : Except ε α) (P : α → Prop) : Prop := ∀ a, x = .ok a → P a

section Returns

variable {y : Except ε α} {P : α → Prop}

theorem returns_ok : Returns (.ok a : Except ε α) P ↔ P a := by
  simp [Returns]

theorem returns_bind {f : α → Except ε β} {Q : β → Prop} :
    Returns (x >>= f) Q ↔ ∀ a, x = .ok a → Returns (f a) Q := by
  simp only [Returns, bind_eq_ok]
  constructor
  · exact fun h a hx b hf => h b ⟨a, hx, hf⟩
  · exact fun h b ⟨a, hx, hf⟩ => h a hx b hf

theorem returns_ite {c : Prop} [Decidable c] :
    Returns (if c then x else y) P ↔ (c → Returns x P) ∧ (¬ c → Returns y P) := by
  split_ifs with hc <;> simp [hc]

end Returns

theorem pure_eq_ok {b : α} : (pure a : Except ε α) = .ok b ↔ a = b := by
  simp [pure, Except.pure]

theorem mapError_eq_ok {f : ε → ε'} : x.mapError f = .ok a ↔ x = .ok a := by
  cases x <;> simp [Except.mapError]

theorem map_eq_ok {f : α → β} {b : β} : x.map f = .ok b ↔ ∃ a, x = .ok a ∧ f a = b := by
  cases x <;> simp [Except.map]

theorem isOk_eq_true : x.isOk = true ↔ ∃ a, x = .ok a := by
  cases x <;> simp [Except.isOk, Except.toBool]

/-- `if !condition { return Err(error) }`. -/
def require {ε : Type u} (condition : Bool) (error : ε) : Except ε Unit :=
  if condition then .ok () else .error error

@[simp] theorem require_eq_ok {condition : Bool} {error : ε} {u : Unit} :
    require condition error = .ok u ↔ condition = true := by
  cases condition <;> simp [require]

/-- `for a in l { f(a)?; }`. -/
theorem forM_eq_ok {ε α : Type u} {l : List α} {f : α → Except ε PUnit} {u : PUnit} :
    l.forM f = .ok u ↔ ∀ a ∈ l, f a = .ok ⟨⟩ := by
  induction l with
  | nil => simp [pure, Except.pure]
  | cons a l ih =>
    show (f a >>= fun _ => l.forM f) = .ok u ↔ _
    rw [bind_eq_ok]
    constructor
    · intro h b hb
      obtain ⟨_, ha, hl⟩ := h
      rcases List.mem_cons.1 hb with rfl | hb
      · exact ha
      · exact ih.1 hl b hb
    · intro h
      exact ⟨⟨⟩, h a List.mem_cons_self, ih.2 fun b hb => h b (List.mem_cons_of_mem a hb)⟩

/-- The error of such a loop is that of one of its elements. -/
theorem exists_of_forM_eq_error {ε α : Type u} {l : List α} {f : α → Except ε PUnit} {e : ε}
    (h : l.forM f = .error e) : ∃ a ∈ l, f a = .error e := by
  induction l with
  | nil => cases h
  | cons a l ih =>
    cases ha : f a with
    | error e' =>
      have hfirst : (a :: l).forM f = .error e' := by
        show (f a >>= fun _ => l.forM f) = .error e'
        rw [ha]
        rfl
      rw [hfirst] at h
      exact ⟨a, List.mem_cons_self, ha.trans h⟩
    | ok u =>
      have hrest : (a :: l).forM f = l.forM f := by
        show (f a >>= fun _ => l.forM f) = l.forM f
        rw [ha]
        rfl
      rw [hrest] at h
      obtain ⟨b, hb, he⟩ := ih h
      exact ⟨b, List.mem_cons_of_mem a hb, he⟩

/-- `for a in l { bs.push(f(a)?); }`. -/
theorem mapM_eq_ok {γ : Type*} {l : List γ} {f : γ → Except ε α} {as : List α} :
    l.mapM f = .ok as ↔ List.Forall₂ (fun c a => f c = .ok a) l as := by
  induction l generalizing as with
  | nil => simp [pure, Except.pure, eq_comm]
  | cons c l ih =>
    rw [List.mapM_cons, bind_eq_ok]
    simp only [bind_eq_ok, pure_eq_ok, ih]
    constructor
    · intro h
      obtain ⟨a, ha, rest, hrest, rfl⟩ := h
      exact .cons ha hrest
    · intro h
      cases h with
      | cons ha hrest => exact ⟨_, ha, _, hrest, rfl⟩

theorem exists_mapM_eq_ok {γ : Type*} {l : List γ} {f : γ → Except ε α} :
    (∃ as, l.mapM f = .ok as) ↔ ∀ c ∈ l, ∃ a, f c = .ok a := by
  simp only [mapM_eq_ok]
  induction l with
  | nil => simp
  | cons c l ih =>
    simp only [List.forall_mem_cons, ← ih]
    constructor
    · intro h
      obtain ⟨as, hall⟩ := h
      cases hall with
      | cons ha hrest => exact ⟨⟨_, ha⟩, _, hrest⟩
    · intro h
      obtain ⟨⟨a, ha⟩, rest, hrest⟩ := h
      exact ⟨a :: rest, .cons ha hrest⟩

/-- `if let Some(a) = o { f(a)?; }`. -/
theorem option_forM_eq_ok {ε α : Type u} {o : Option α} {f : α → Except ε PUnit} {u : PUnit} :
    o.forM f = .ok u ↔ ∀ a, o = some a → f a = .ok ⟨⟩ := by
  cases o <;> simp [Option.forM, pure, Except.pure]

def okOr (x : Option α) (error : ε) : Except ε α :=
  match x with
  | some a => .ok a
  | none => .error error

@[simp] theorem okOr_eq_ok {x : Option α} {error : ε} : okOr x error = .ok a ↔ x = some a := by
  cases x <;> simp [okOr]

end NpcRuntime
