import LoxTokens.Segment
import Mathlib.Data.List.TakeWhile

/-! # Runs of characters

A run of characters that `p` accepts ends where `StopsAt p` holds of the rest; there `takeWhile`
gives the whole run and `dropWhile` the rest.  Blanks, digits and the first characters of words
are three classes without a common character. -/

namespace LoxTokens

variable {p : Char → Bool} {c : Char} {w t rest : Text}

/-- No character that `p` accepts comes next. -/
def StopsAt (p : Char → Bool) (t : Text) : Prop := ∀ c ∈ t.head?, p c = false

theorem stopsAt_nil : StopsAt p [] := by simp [StopsAt]

theorem stopsAt_cons : StopsAt p (c :: t) ↔ p c = false := by simp [StopsAt]

theorem StopsAt.append (h : StopsAt p t) (hc : p c = false) (u : Text) :
    StopsAt p (t ++ c :: u) := by
  cases t with
  | nil => exact stopsAt_cons.2 hc
  | cons d t => exact stopsAt_cons.2 (stopsAt_cons.1 h)

theorem stopsAt_dropWhile (p : Char → Bool) (t : Text) : StopsAt p (t.dropWhile p) := by
  intro c hc
  have h := List.head?_dropWhile_not p t
  rw [Option.mem_def.1 hc] at h
  simpa using h

theorem takeWhile_append_of_stopsAt (hw : ∀ c ∈ w, p c = true) (hr : StopsAt p rest) :
    (w ++ rest).takeWhile p = w := by
  rw [List.takeWhile_append_of_pos hw]
  cases rest with
  | nil => simp
  | cons c r => simp [stopsAt_cons.1 hr]

theorem dropWhile_append_of_stopsAt (hw : ∀ c ∈ w, p c = true) (hr : StopsAt p rest) :
    (w ++ rest).dropWhile p = rest := by
  rw [List.dropWhile_append_of_pos hw]
  cases rest with
  | nil => simp
  | cons c r => simp [stopsAt_cons.1 hr]

theorem ne_of_notMem {a : Char} (h : a ∉ t) : ∀ c ∈ t, (c != a) = true := by
  intro c hc
  rw [bne_iff_ne]
  exact ne_of_mem_of_not_mem hc h

theorem notMem_takeWhile_ne (a : Char) (t : Text) : a ∉ t.takeWhile (· != a) := by
  intro h
  simpa using List.mem_takeWhile_imp h

/-! ### Classes of characters -/

theorem separates_iff : separates c = true ↔ c = ' ' ∨ c = '\t' ∨ c = '\r' ∨ c = '\n' := by
  simp only [separates, Bool.or_eq_true, beq_iff_eq, or_assoc]

theorem isDigit_iff : c.isDigit = true ↔ '0' ≤ c ∧ c ≤ '9' := by
  simp only [Char.isDigit, Bool.and_eq_true, decide_eq_true_eq, Char.le_def, ge_iff_le]

theorem beginsWord_iff : beginsWord c = true ↔
    'A' ≤ c ∧ c ≤ 'Z' ∨ 'a' ≤ c ∧ c ≤ 'z' ∨ c = '_' := by
  have hletter : c.isAlpha =
      (decide ('A' ≤ c ∧ c ≤ 'Z') || (decide ('a' ≤ c) && decide (c ≤ 'z'))) := rfl
  simp only [beginsWord, hletter, Bool.or_eq_true, Bool.and_eq_true, decide_eq_true_eq, beq_iff_eq,
    or_assoc]

theorem continuesWord_iff : continuesWord c = true ↔
    'A' ≤ c ∧ c ≤ 'Z' ∨ 'a' ≤ c ∧ c ≤ 'z' ∨ c = '_' ∨ '0' ≤ c ∧ c ≤ '9' := by
  rw [continuesWord, Bool.or_eq_true, beginsWord_iff, isDigit_iff, or_assoc, or_assoc]

theorem isDigit_of_separates (h : separates c = true) : c.isDigit = false := by
  rcases separates_iff.1 h with rfl | rfl | rfl | rfl <;> rfl

theorem continuesWord_of_separates (h : separates c = true) : continuesWord c = false := by
  rw [← Bool.not_eq_true, continuesWord_iff]
  rcases separates_iff.1 h with rfl | rfl | rfl | rfl <;> decide

theorem beginsWord_of_separates (h : separates c = true) : beginsWord c = false :=
  (Bool.or_eq_false_iff.1 (continuesWord_of_separates h)).1

theorem separates_of_isDigit (h : c.isDigit = true) : separates c = false := by
  by_contra hs
  rw [isDigit_of_separates (by simpa using hs)] at h
  cases h

theorem separates_of_beginsWord (h : beginsWord c = true) : separates c = false := by
  by_contra hs
  rw [beginsWord_of_separates (by simpa using hs)] at h
  cases h

theorem isDigit_of_beginsWord (h : beginsWord c = true) : c.isDigit = false := by
  rw [← Bool.not_eq_true, isDigit_iff]
  rintro ⟨-, hnine⟩
  rcases beginsWord_iff.1 h with ⟨hupper, -⟩ | ⟨hlower, -⟩ | rfl
  · exact absurd (Char.le_trans hupper hnine) (by decide)
  · exact absurd (Char.le_trans hlower hnine) (by decide)
  · exact absurd hnine (by decide)

end LoxTokens
