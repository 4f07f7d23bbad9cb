import NpcRuntime.Lib.Text

/-!
# Slash-separated paths

A path is a text whose components stand between slashes. `parents` are the paths of its first
components, and a path is an ancestor of another (`IsAncestor`) when the other goes on behind it and
a slash; the two say the same (`mem_parents`).
-/

namespace NpcRuntime.Path

open Text

/-- `path.split('/')`. -/
def components (p : Text) : List Text := p.splitOn '/'

/-- `components.join("/")`. -/
def join (parts : List Text) : Text := ['/'].intercalate parts

/-- The paths of the first components, without the path itself, shortest first. -/
def parents (p : Text) : List Text :=
  (List.range' 1 ((components p).length - 1)).map fun i => join ((components p).take i)

/-- `p` lies below `a`. -/
def IsAncestor (a p : Text) : Prop := (a ++ ['/']) <+: p

instance (a p : Text) : Decidable (IsAncestor a p) :=
  inferInstanceAs (Decidable ((a ++ ['/']) <+: p))

theorem join_components (p : Text) : join (components p) = p := List.intercalate_splitOn '/'

theorem components_append (a r : Text) :
    components (a ++ '/' :: r) = components a ++ components r :=
  List.splitOn_append_cons_self a r

theorem components_ne_nil (p : Text) : components p ≠ [] := List.splitOn_ne_nil '/' p

theorem join_append {front back : List Text} (hfront : front ≠ []) (hback : back ≠ []) :
    join (front ++ back) = join front ++ '/' :: join back := by
  induction front with
  | nil => exact absurd rfl hfront
  | cons part front ih =>
    cases front with
    | nil =>
      obtain ⟨next, back, rfl⟩ := List.exists_cons_of_ne_nil hback
      simp [join]
    | cons next front =>
      have hrest := ih (List.cons_ne_nil next front)
      simp only [join, List.cons_append, List.intercalate_cons_cons, List.append_assoc] at hrest ⊢
      rw [hrest]

theorem mem_parents {a p : Text} : a ∈ parents p ↔ IsAncestor a p := by
  simp only [parents, List.mem_map, List.mem_range'_1]
  constructor
  · intro h
    obtain ⟨i, hi, rfl⟩ := h
    have hfront : (components p).take i ≠ [] := by
      intro hnil
      rcases List.take_eq_nil_iff.1 hnil with hzero | hempty
      · omega
      · exact components_ne_nil p hempty
    have hback : (components p).drop i ≠ [] := by
      intro hnil
      have hlen := List.drop_eq_nil_iff.1 hnil
      omega
    have hsplit : join ((components p).take i) ++ '/' :: join ((components p).drop i) = p := by
      rw [← join_append hfront hback, List.take_append_drop, join_components]
    exact ⟨join ((components p).drop i), by rw [List.append_assoc]; exact hsplit⟩
  · intro h
    obtain ⟨r, hr⟩ := h
    rw [List.append_assoc, List.singleton_append] at hr
    have hcomponents : components p = components a ++ components r := by
      rw [← hr, components_append]
    have ha := List.length_pos_of_ne_nil (components_ne_nil a)
    have hr := List.length_pos_of_ne_nil (components_ne_nil r)
    refine ⟨(components a).length, ?_, ?_⟩
    · rw [hcomponents, List.length_append]
      omega
    · rw [hcomponents, List.take_left, join_components]

theorem IsAncestor.length_lt {a p : Text} (h : IsAncestor a p) : a.length < p.length := by
  have hle := List.IsPrefix.length_le h
  rw [List.length_append, List.length_singleton] at hle
  omega

end NpcRuntime.Path
