import LoxTokens.Position
import Mathlib.Data.List.DropRight

/-! # Places of a text

Cuts at the byte size of a prefix give that prefix and what follows it, so the position after a
prefix is a place of the whole text: its offset is where the prefix ends, its line counts the line
feeds of the prefix and its column the characters after the last of them
(`isPlaceIn_after`). -/

namespace LoxTokens

namespace Text

variable (s t u : Text)

theorem exists_utf8Size_add (c : Char) (n : Nat) : ∃ m, c.utf8Size + n = m + 1 := by
  have hpos := c.utf8Size_pos
  exact ⟨c.utf8Size + n - 1, by omega⟩

theorem dropBytes_utf8Size_add (c : Char) (n : Nat) :
    dropBytes (c.utf8Size + n) (c :: t) = dropBytes n t := by
  obtain ⟨m, hm⟩ := exists_utf8Size_add c n
  have hle : c.utf8Size ≤ m + 1 := by omega
  have hsub : m + 1 - c.utf8Size = n := by omega
  rw [hm, dropBytes, if_pos hle, hsub]

theorem takeBytes_utf8Size_add (c : Char) (n : Nat) :
    takeBytes (c.utf8Size + n) (c :: t) = (takeBytes n t).map (c :: ·) := by
  obtain ⟨m, hm⟩ := exists_utf8Size_add c n
  have hle : c.utf8Size ≤ m + 1 := by omega
  have hsub : m + 1 - c.utf8Size = n := by omega
  rw [hm, takeBytes, if_pos hle, hsub]

theorem dropBytes_byteSize_append : dropBytes (byteSize s) (s ++ t) = some t := by
  induction s with
  | nil => cases t <;> rfl
  | cons c s ih => rw [byteSize_cons, List.cons_append, dropBytes_utf8Size_add, ih]

theorem takeBytes_byteSize_append : takeBytes (byteSize s) (s ++ t) = some s := by
  induction s with
  | nil => cases t <;> rfl
  | cons c s ih =>
      rw [byteSize_cons, List.cons_append, takeBytes_utf8Size_add, ih]
      rfl

theorem sliceBytes_byteSize_append :
    sliceBytes (byteSize s) (byteSize (s ++ t)) (s ++ t ++ u) = some t := by
  have hle : byteSize s ≤ byteSize (s ++ t) := by rw [byteSize_append]; omega
  have hsub : byteSize (s ++ t) - byteSize s = byteSize t := by rw [byteSize_append]; omega
  rw [sliceBytes, if_pos hle, hsub, List.append_assoc, dropBytes_byteSize_append]
  exact takeBytes_byteSize_append t u

end Text

namespace Position

/-- A place of a text: the offset ends a prefix of the text, the line counts the line feeds of the
prefix and the column the characters after the last of them. -/
def IsPlaceIn (p : Position) (source : Text) : Prop :=
  ∃ before, Text.takeBytes p.offset source = some before ∧ p.line = before.count '\n' + 1 ∧
    p.column = (before.rtakeWhile (· != '\n')).length + 1

theorem offset_le_offset_after (p : Position) (t : Text) : p.offset ≤ (p.after t).offset := by
  rw [offset_after]
  omega

theorem offset_origin_after (t : Text) : (origin.after t).offset = Text.byteSize t := by
  rw [offset_after]
  exact Nat.zero_add _

theorem line_origin_after (t : Text) : (origin.after t).line = t.count '\n' + 1 := by
  rw [line_after]
  exact Nat.add_comm _ _

/-- Columns count the characters after the last line feed. -/
theorem column_origin_after (t : Text) :
    (origin.after t).column = (t.rtakeWhile (· != '\n')).length + 1 := by
  induction t using List.reverseRecOn with
  | nil => rfl
  | append_singleton t c ih =>
      rw [after_append, after_cons, after_nil, step]
      by_cases hc : c = '\n'
      · rw [if_pos hc, List.rtakeWhile_concat_neg _ _ _ (by simp [hc])]
        rfl
      · rw [if_neg hc, List.rtakeWhile_concat_pos _ _ _ (by simpa using hc), List.length_append, ih]
        rfl

/-- The position after a prefix is a place of the text. -/
theorem isPlaceIn_after (before rest : Text) : (origin.after before).IsPlaceIn (before ++ rest) := by
  refine ⟨before, ?_, line_origin_after before, column_origin_after before⟩
  rw [offset_origin_after, Text.takeBytes_byteSize_append]

end Position
end LoxTokens
