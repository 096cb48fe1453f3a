import LoxTokens.CommandLine.History
import LoxTokens.Proofs.LineOffsets

/-! # Lines of an input

An input is cut into lines before it is known to be a text.  Since the bytes of a line feed and of a
carriage return stand for these characters only, cutting the bytes of a text gives the bytes of the
lines of the text (`byteLines_utf8`). -/

namespace LoxTokens

section

variable {α : Type} [DecidableEq α] {sep a : α} {l m p : List α}

/-- What holds no separator joins the first piece of what stands after it. -/
theorem cutAt_append_of_notMem (h : sep ∉ l) (m : List α) :
    ∃ p ps, cutAt sep m = p :: ps ∧ cutAt sep (l ++ m) = (l ++ p) :: ps := by
  induction l with
  | nil =>
      obtain ⟨p, ps, hp⟩ := List.exists_cons_of_ne_nil (cutAt_ne_nil sep m)
      exact ⟨p, ps, hp, hp⟩
  | cons a l ih =>
      rw [List.mem_cons, not_or] at h
      obtain ⟨p, ps, hp, hl⟩ := ih h.2
      obtain ⟨q, qs, hq, hcons⟩ := cutAt_cons_of_ne (Ne.symm h.1) (l ++ m)
      rw [hl] at hq
      obtain ⟨rfl, rfl⟩ := List.cons.inj hq
      exact ⟨p, ps, hp, hcons⟩

theorem subset_of_mem_cutAt (h : p ∈ cutAt sep l) : p ⊆ l := by
  induction l generalizing p with
  | nil =>
      obtain rfl := List.mem_singleton.1 h
      exact List.Subset.refl []
  | cons a l ih =>
      by_cases ha : a = sep
      · rw [ha, cutAt_cons_self] at h
        rcases List.mem_cons.1 h with rfl | h
        · exact List.nil_subset _
        · exact List.subset_cons_of_subset a (ih h)
      · obtain ⟨q, qs, hq, hcons⟩ := cutAt_cons_of_ne ha l
        rw [hcons] at h
        rcases List.mem_cons.1 h with rfl | h
        · exact List.cons_subset_cons a (ih (hq ▸ List.mem_cons_self))
        · exact List.subset_cons_of_subset a (ih (hq ▸ List.mem_cons_of_mem _ h))

theorem dropFinal_subset (a : α) (l : List α) : dropFinal a l ⊆ l := by
  unfold dropFinal
  split
  · exact List.dropLast_subset l
  · exact List.Subset.refl l

end

namespace Text

variable {t line : Text}

/-- The lines of a text: what line feeds end, without a carriage return before them, and the rest
after the last one, if there is any. -/
def inputLines (t : Text) : List Text :=
  let parts := cutAt '\n' t
  let final := parts.getLast?.getD []
  parts.dropLast.map (dropFinal '\r') ++ if final = [] then [] else [final]

theorem exists_subset_of_mem_inputLines (h : line ∈ t.inputLines) :
    ∃ p ∈ cutAt '\n' t, line ⊆ p := by
  rcases List.mem_append.1 h with h | h
  · obtain ⟨p, hp, rfl⟩ := List.mem_map.1 h
    exact ⟨p, List.dropLast_subset _ hp, dropFinal_subset '\r' p⟩
  · split at h
    · cases h
    · obtain rfl := List.mem_singleton.1 h
      refine ⟨_, ?_, List.Subset.refl _⟩
      rw [List.getLast?_eq_some_getLast (cutAt_ne_nil '\n' t)]
      exact List.getLast_mem _

theorem newline_notMem_of_mem_inputLines (h : line ∈ t.inputLines) : '\n' ∉ line := by
  obtain ⟨p, hp, hsub⟩ := exists_subset_of_mem_inputLines h
  intro hmem
  exact sep_notMem_of_mem_cutAt hp (hsub hmem)

theorem subset_of_mem_inputLines (h : line ∈ t.inputLines) : line ⊆ t := by
  obtain ⟨p, hp, hsub⟩ := exists_subset_of_mem_inputLines h
  exact List.Subset.trans hsub (subset_of_mem_cutAt hp)

/-! ### Lines as bytes -/

theorem utf8_eq_nil_iff : utf8 t = [] ↔ t = [] := by
  constructor
  · intro h
    cases t with
    | nil => rfl
    | cons c t =>
        have hlength := congrArg List.length h
        rw [length_utf8, byteSize_cons] at hlength
        have hpos := c.utf8Size_pos
        simp only [List.length_nil] at hlength
        omega
  · rintro rfl
    rfl

theorem cutAt_utf8 (t : Text) : cutAt 10 (utf8 t) = (cutAt '\n' t).map utf8 := by
  induction t with
  | nil => rfl
  | cons c t ih =>
      by_cases hc : c = '\n'
      · rw [hc, cutAt_cons_self, List.map_cons, ← ih]
        exact cutAt_cons_self 10 (utf8 t)
      · obtain ⟨p, ps, hp, hcons⟩ := cutAt_cons_of_ne hc t
        have hbytes : 10 ∉ String.utf8EncodeChar c := by
          intro h
          exact hc (eq_newline_of_mem_utf8EncodeChar h)
        obtain ⟨q, qs, hq, happend⟩ := cutAt_append_of_notMem hbytes (utf8 t)
        rw [ih, hp, List.map_cons] at hq
        obtain ⟨rfl, rfl⟩ := List.cons.inj hq
        rw [hcons]
        exact happend

theorem dropFinal_utf8 (t : Text) : dropFinal 13 (utf8 t) = utf8 (dropFinal '\r' t) := by
  rcases List.eq_nil_or_concat' t with rfl | ⟨r, c, rfl⟩
  · rfl
  · by_cases hc : c = '\r'
    · have hbytes : utf8 ['\r'] = [13] := rfl
      simp [hc, dropFinal, hbytes]
    · have hlast : (utf8 (r ++ [c])).getLast? ≠ some 13 := by
        have hbytes : utf8 [c] = String.utf8EncodeChar c := List.append_nil _
        have hne : utf8 [c] ≠ [] := fun h => List.cons_ne_nil c [] (utf8_eq_nil_iff.1 h)
        rw [utf8_append, List.getLast?_append_of_ne_nil _ hne, hbytes]
        intro h
        exact hc (eq_return_of_mem_utf8EncodeChar (List.mem_of_getLast? h))
      rw [dropFinal, if_neg hlast, dropFinal, if_neg (by simpa using hc)]

/-- Cutting the bytes of a text gives the bytes of its lines. -/
theorem byteLines_utf8 (t : Text) : byteLines (utf8 t) = t.inputLines.map utf8 := by
  have hfinal : ((cutAt '\n' t).map utf8).getLast?.getD [] =
      utf8 ((cutAt '\n' t).getLast?.getD []) := by
    rw [List.getLast?_map]
    cases (cutAt '\n' t).getLast? <;> rfl
  have hended : ((cutAt '\n' t).map utf8).dropLast.map (dropFinal 13) =
      ((cutAt '\n' t).dropLast.map (dropFinal '\r')).map utf8 := by
    rw [← List.map_dropLast, List.map_map, List.map_map]
    exact List.map_congr_left fun p _ => dropFinal_utf8 p
  unfold byteLines inputLines
  simp only [cutAt_utf8, hfinal, hended, utf8_eq_nil_iff, List.map_append]
  split <;> rfl

example : inputLines "a\r\n\nb\r".toList = ["a".toList, [], "b\r".toList] := by decide

end Text
end LoxTokens
