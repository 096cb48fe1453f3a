/-! # Splitting at a separator

`cutAt sep l` cuts a list at every occurrence of `sep`, which it drops.  There is always one
piece more than there are separators (`length_cutAt`), and putting the separator back between
the pieces gives the list again (`intercalate_cutAt`).  `cutBehind sep l` cuts it behind every
occurrence and drops nothing (`flatten_cutBehind`). -/

namespace LoxTokens

variable {α : Type} [DecidableEq α]

/-- The pieces of a list between the occurrences of `sep`. -/
def cutAt (sep : α) : List α → List (List α)
  | [] => [[]]
  | a :: l =>
    if a = sep then [] :: cutAt sep l
    else match cutAt sep l with
      | [] => [[a]]
      | p :: ps => (a :: p) :: ps

/-- The pieces of a list, each with the occurrence of `sep` that ends it. -/
def cutBehind (sep : α) : List α → List (List α)
  | [] => []
  | a :: l =>
    if a = sep then [a] :: cutBehind sep l
    else match cutBehind sep l with
      | [] => [[a]]
      | p :: ps => (a :: p) :: ps

/-- `l` without one final `a`. -/
def dropFinal (a : α) (l : List α) : List α :=
  if l.getLast? = some a then l.dropLast else l

theorem cutAt_ne_nil (sep : α) (l : List α) : cutAt sep l ≠ [] := by
  cases l with
  | nil => simp [cutAt]
  | cons a l =>
    unfold cutAt
    split
    · simp
    · split <;> simp

theorem cutAt_of_notMem {sep : α} {l : List α} (h : sep ∉ l) : cutAt sep l = [l] := by
  induction l with
  | nil => rfl
  | cons a l ih =>
    simp only [List.mem_cons, not_or] at h
    simp [cutAt, ih h.2, Ne.symm h.1]

theorem length_cutAt (sep : α) (l : List α) : (cutAt sep l).length = l.count sep + 1 := by
  induction l with
  | nil => rfl
  | cons a l ih =>
    unfold cutAt
    by_cases h : a = sep
    · simp [h, ih]
    · rw [if_neg h, List.count_cons_of_ne h]
      cases hp : cutAt sep l with
      | nil => exact absurd hp (cutAt_ne_nil sep l)
      | cons p ps => rw [hp] at ih; simpa using ih

theorem intercalate_cutAt (sep : α) (l : List α) : List.intercalate [sep] (cutAt sep l) = l := by
  induction l with
  | nil => rfl
  | cons a l ih =>
    unfold cutAt
    cases hp : cutAt sep l with
    | nil => exact absurd hp (cutAt_ne_nil sep l)
    | cons p ps =>
      rw [hp] at ih
      by_cases h : a = sep
      · rw [if_pos h, h, ← ih]; simp [List.intercalate, List.intersperse]
      · rw [if_neg h, ← ih]
        cases ps <;> simp [List.intercalate, List.intersperse]

theorem flatten_cutBehind (sep : α) (l : List α) : (cutBehind sep l).flatten = l := by
  induction l with
  | nil => rfl
  | cons a l ih =>
    unfold cutBehind
    split
    · rw [List.flatten_cons, ih]; rfl
    · cases hp : cutBehind sep l with
      | nil => rw [hp] at ih; rw [← ih]; rfl
      | cons p ps => rw [hp] at ih; rw [← ih]; rfl

end LoxTokens
