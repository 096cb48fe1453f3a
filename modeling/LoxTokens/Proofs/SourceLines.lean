import LoxTokens.Diagnostics
import LoxTokens.Proofs.Places

/-! # Lines of a text

A character joins the first line of the text after it, and a separator opens a line of its own
(`cutAt_cons_self`, `cutAt_cons_of_ne`).  So no line holds a separator, and what stands before a text
moves its lines down by the separators in it and takes nothing from them (`countAt_append`).
Texts that end in a line feed each, and hold no other, are the lines of what they make up together
(`cutAt_flatMap_line`). -/

namespace LoxTokens

section

variable {α : Type} [DecidableEq α] {sep a b : α} {l m : List α}

theorem cutAt_cons_self (sep : α) (l : List α) : cutAt sep (sep :: l) = [] :: cutAt sep l := by
  rw [cutAt, if_pos rfl]

theorem cutAt_cons_of_ne (h : a ≠ sep) (l : List α) :
    ∃ p ps, cutAt sep l = p :: ps ∧ cutAt sep (a :: l) = (a :: p) :: ps := by
  obtain ⟨p, ps, hp⟩ := List.exists_cons_of_ne_nil (cutAt_ne_nil sep l)
  exact ⟨p, ps, hp, by rw [cutAt, if_neg h, hp]⟩

theorem sep_notMem_of_mem_cutAt (h : m ∈ cutAt sep l) : sep ∉ m := by
  induction l generalizing m with
  | nil =>
      obtain rfl := List.mem_singleton.1 h
      exact List.not_mem_nil
  | cons a l ih =>
      by_cases ha : a = sep
      · subst ha
        rw [cutAt_cons_self] at h
        rcases List.mem_cons.1 h with rfl | h
        · exact List.not_mem_nil
        · exact ih h
      · obtain ⟨p, ps, hp, hcons⟩ := cutAt_cons_of_ne ha l
        rw [hcons] at h
        rcases List.mem_cons.1 h with rfl | h
        · have hpiece : sep ∉ p := ih (hp ▸ List.mem_cons_self)
          exact List.not_mem_cons_of_ne_of_not_mem (Ne.symm ha) hpiece
        · exact ih (hp ▸ List.mem_cons_of_mem _ h)

theorem cutAt_append_cons (h : sep ∉ l) (m : List α) :
    cutAt sep (l ++ sep :: m) = l :: cutAt sep m := by
  induction l with
  | nil => exact cutAt_cons_self sep m
  | cons a l ih =>
      rw [List.mem_cons, not_or] at h
      obtain ⟨p, ps, hp, hcons⟩ := cutAt_cons_of_ne (Ne.symm h.1) (l ++ sep :: m)
      rw [ih h.2] at hp
      obtain ⟨rfl, rfl⟩ := List.cons.inj hp
      exact hcons

/-- How often an element occurs in piece `n`, which need not be there. -/
def countAt (sep b : α) (n : Nat) (l : List α) : Nat := ((cutAt sep l)[n]?.getD []).count b

theorem countAt_cons_self (n : Nat) (l : List α) :
    countAt sep b (n + 1) (sep :: l) = countAt sep b n l := by
  rw [countAt, cutAt_cons_self, List.getElem?_cons_succ]
  rfl

theorem countAt_cons_of_ne (h : a ≠ sep) (n : Nat) (l : List α) :
    countAt sep b n (a :: l) = (if n = 0 ∧ a = b then 1 else 0) + countAt sep b n l := by
  obtain ⟨p, ps, hp, hcons⟩ := cutAt_cons_of_ne h l
  rw [countAt, countAt, hcons, hp]
  cases n with
  | zero => simp [List.count_cons, Nat.add_comm]
  | succ n => simp

/-- What stands before a text takes nothing from its pieces. -/
theorem countAt_append (n : Nat) (l m : List α) :
    countAt sep b n m ≤ countAt sep b (l.count sep + n) (l ++ m) := by
  induction l with
  | nil => rw [List.count_nil, Nat.zero_add, List.nil_append]
  | cons a l ih =>
      by_cases ha : a = sep
      · subst ha
        rw [List.count_cons_self, Nat.add_right_comm, List.cons_append, countAt_cons_self]
        exact ih
      · rw [List.count_cons_of_ne ha, List.cons_append, countAt_cons_of_ne ha]
        omega

theorem count_dropFinal (h : b ≠ a) (l : List α) : (dropFinal a l).count b = l.count b := by
  unfold dropFinal
  split
  · rename_i hlast
    obtain ⟨r, rfl⟩ := List.getLast?_eq_some_iff.1 hlast
    rw [List.dropLast_concat, List.count_append, List.count_singleton, if_neg (by simpa using h.symm)]
    rfl
  · rfl

end

/-- Lines with line feeds after them, cut at the line feeds. -/
theorem cutAt_flatMap_line {ts : List Text} (h : ∀ t ∈ ts, '\n' ∉ t) :
    cutAt '\n' (ts.flatMap Text.line) = ts ++ [[]] := by
  induction ts with
  | nil => rfl
  | cons t ts ih =>
      rw [List.forall_mem_cons] at h
      have happend : (t :: ts).flatMap Text.line = t ++ '\n' :: ts.flatMap Text.line := by
        simp [Text.line]
      rw [happend, cutAt_append_cons h.1, ih h.2]
      rfl

end LoxTokens
