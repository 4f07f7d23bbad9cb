import Mathlib.Data.List.Nodup
import Mathlib.Logic.Function.Basic

/-!
# Files and renames

Files by path. A rename is atomic and replaces what is at its target. `moveEach` renames one file
after another, those that exist; with all paths distinct and the targets vacant it moves the files
as one (`moveEach_spec`), and moving them back undoes it (`moveEach_back`).
-/

namespace NpcRuntime

/-- What each path holds, if there is a file. -/
abbrev Files (π κ : Type*) := π → Option κ

namespace Files

variable {π κ : Type*} [DecidableEq π]

def write (path : π) (content : κ) (files : Files π κ) : Files π κ :=
  Function.update files path (some content)

def remove (path : π) (files : Files π κ) : Files π κ := Function.update files path none

def rename (source target : π) (files : Files π κ) : Files π κ :=
  if source = target then files
  else Function.update (Function.update files target (files source)) source none

variable {files : Files π κ} {source target path : π}

theorem rename_source (h : source ≠ target) : files.rename source target source = none := by
  rw [rename, if_neg h, Function.update_self]

theorem rename_target (h : source ≠ target) : files.rename source target target = files source := by
  rw [rename, if_neg h, Function.update_of_ne h.symm, Function.update_self]

theorem rename_other (hsource : path ≠ source) (htarget : path ≠ target) :
    files.rename source target path = files path := by
  unfold rename
  split_ifs
  · rfl
  · rw [Function.update_of_ne hsource, Function.update_of_ne htarget]

/-- A rename of what exists. -/
def move (source target : π) (files : Files π κ) : Files π κ :=
  if (files source).isSome then files.rename source target else files

theorem move_source (h : source ≠ target) : files.move source target source = none := by
  unfold move
  split_ifs with hsome
  · exact rename_source h
  · exact Option.not_isSome_iff_eq_none.1 hsome

theorem move_target (h : source ≠ target) (hvacant : files target = none) :
    files.move source target target = files source := by
  unfold move
  split_ifs with hsome
  · exact rename_target h
  · rw [hvacant, Option.not_isSome_iff_eq_none.1 hsome]

theorem move_other (hsource : path ≠ source) (htarget : path ≠ target) :
    files.move source target path = files path := by
  unfold move
  split_ifs
  · exact rename_other hsource htarget
  · rfl

/-- Renames of what exists, each from the first path to the second. -/
def moveEach : List (π × π) → Files π κ → Files π κ
  | [], files => files
  | (source, target) :: moves, files => moveEach moves (files.move source target)

/-- The paths of the moves are all different. -/
def Apart (moves : List (π × π)) : Prop := (moves.map Prod.fst ++ moves.map Prod.snd).Nodup

variable {moves : List (π × π)}

omit [DecidableEq π] in
theorem Apart.cons (h : Apart ((source, target) :: moves)) :
    source ≠ target ∧ source ∉ moves.map Prod.fst ∧ source ∉ moves.map Prod.snd ∧
      target ∉ moves.map Prod.fst ∧ target ∉ moves.map Prod.snd ∧ Apart moves := by
  simp only [Apart, List.map_cons, List.cons_append, List.nodup_cons, List.mem_append,
    List.mem_cons, not_or, List.nodup_append, ne_eq] at h
  obtain ⟨⟨hfirst, hne, hsecond⟩, hnodup, ⟨htarget, hnodup'⟩, hdisjoint⟩ := h
  refine ⟨hne, hfirst, hsecond, ?_, htarget, ?_⟩
  · intro hmem
    exact hdisjoint target hmem target (.inl rfl) rfl
  · exact List.nodup_append.2 ⟨hnodup, hnodup', fun a ha b hb => hdisjoint a ha b (.inr hb)⟩

/-- Paths that the moves do not name stay. -/
theorem moveEach_other (hsource : path ∉ moves.map Prod.fst) (htarget : path ∉ moves.map Prod.snd) :
    moveEach moves files path = files path := by
  induction moves generalizing files with
  | nil => rfl
  | cons move moves ih =>
    simp only [List.map_cons, List.mem_cons, not_or] at hsource htarget
    rw [moveEach, ih hsource.2 htarget.2, move_other hsource.1 htarget.1]

/-- **All files move.** -/
theorem moveEach_spec (h : Apart moves) (hvacant : ∀ move ∈ moves, files move.2 = none) :
    ∀ move ∈ moves, moveEach moves files move.1 = none ∧
      moveEach moves files move.2 = files move.1 := by
  induction moves generalizing files with
  | nil =>
    intro move hmem
    cases hmem
  | cons first moves ih =>
    obtain ⟨source, target⟩ := first
    obtain ⟨hne, hsource, hsource', htarget, htarget', happart⟩ := h.cons
    intro move hmem
    rw [moveEach]
    rcases List.mem_cons.1 hmem with rfl | hmem
    · rw [moveEach_other hsource hsource', moveEach_other htarget htarget']
      exact ⟨move_source hne, move_target hne (hvacant _ List.mem_cons_self)⟩
    · have hfirst : move.1 ∈ moves.map Prod.fst := List.mem_map_of_mem hmem
      have hstays : ∀ other ∈ moves, files.move source target other.2 = files other.2 := by
        intro other hother
        have hsecond' : other.2 ∈ moves.map Prod.snd := List.mem_map_of_mem hother
        exact move_other (ne_of_mem_of_not_mem hsecond' hsource')
          (ne_of_mem_of_not_mem hsecond' htarget')
      have hempty : ∀ other ∈ moves, files.move source target other.2 = none := fun other hother =>
        (hstays other hother).trans (hvacant other (List.mem_cons_of_mem _ hother))
      obtain ⟨hgone, hmoved⟩ := ih happart hempty move hmem
      refine ⟨hgone, hmoved.trans (move_other ?_ ?_)⟩
      · exact ne_of_mem_of_not_mem hfirst hsource
      · exact ne_of_mem_of_not_mem hfirst htarget

/-- Moves in the other direction. -/
def back (moves : List (π × π)) : List (π × π) := moves.map Prod.swap

omit [DecidableEq π] in
theorem Apart.back (h : Apart moves) : Apart (Files.back moves) := by
  have hfst : (Files.back moves).map Prod.fst = moves.map Prod.snd := by simp [Files.back]
  have hsnd : (Files.back moves).map Prod.snd = moves.map Prod.fst := by simp [Files.back]
  rw [Apart, hfst, hsnd]
  exact (List.perm_append_comm.nodup_iff).1 h

/-- **Moving back.** It restores the files that were moved away. -/
theorem moveEach_back {moved : Files π κ} (h : Apart moves)
    (hvacant : ∀ move ∈ moves, files move.2 = none) (hmoved : ∀ move ∈ moves, moved move.1 =
      moveEach moves files move.1 ∧ moved move.2 = moveEach moves files move.2) :
    ∀ move ∈ moves, moveEach (Files.back moves) moved move.1 = files move.1 := by
  intro move hmem
  have hspec := moveEach_spec h hvacant
  have hswap : move.swap ∈ Files.back moves := List.mem_map_of_mem hmem
  have hempty : ∀ other ∈ Files.back moves, moved other.2 = none := by
    intro other hother
    obtain ⟨original, horiginal, rfl⟩ := List.mem_map.1 hother
    exact (hmoved original horiginal).1.trans (hspec original horiginal).1
  have hback := (moveEach_spec h.back hempty move.swap hswap).2
  exact hback.trans ((hmoved move hmem).2.trans (hspec move hmem).2)

end Files

end NpcRuntime
