import LoxTokens.LineEvaluator
import LoxTokens.Proofs.Pulling

/-! # Limited sinks

However a text is split into writes, a sink with a limit ends up with the same bytes: those of the
whole text that the limit lets through.  `holding` is such a sink after some bytes, and every write
leads from one to another (`write_holding`); a write is taken whole when all bytes so far are within
the limit (`taken_holding`).  The bytes let through are the longest beginning of the text within the
limit (`longestWithin_admitted`). -/

namespace LoxTokens

namespace Sink

/-- The first of these bytes, as many as a limit lets through. -/
def admitted (limit : Option Nat) (bytes : List UInt8) : List UInt8 :=
  match limit with
  | none => bytes
  | some n => bytes.take n

/-- Whether these are more bytes than a limit lets through. -/
def exceeds (limit : Option Nat) (bytes : List UInt8) : Bool :=
  match limit with
  | none => false
  | some n => n < bytes.length

/-- `kept` is a beginning of `bytes` within a limit, and every other one is a beginning of it. -/
structure LongestWithin (limit : Option Nat) (bytes kept : List UInt8) : Prop where
  isPrefix : kept <+: bytes
  within : exceeds limit kept = false
  longest : ∀ p, p <+: bytes → exceeds limit p = false → p <+: kept

theorem longestWithin_admitted (limit : Option Nat) (bytes : List UInt8) :
    LongestWithin limit bytes (admitted limit bytes) := by
  cases limit with
  | none => exact ⟨List.prefix_refl _, rfl, fun p hp _ => hp⟩
  | some n =>
      have hlength : (bytes.take n).length ≤ n := List.length_take_le n bytes
      refine ⟨List.take_prefix n bytes, decide_eq_false (Nat.not_lt.2 hlength), ?_⟩
      intro p hp hwithin
      have hle : p.length ≤ n := Nat.not_lt.1 (of_decide_eq_false hwithin)
      exact List.prefix_take_iff.2 ⟨hp, hle⟩

/-- An empty sink with a limit, after these bytes were written to it. -/
def holding (limit : Option Nat) (bytes : List UInt8) : Sink :=
  ⟨(admitted limit bytes).toArray, limit.map (· - bytes.length)⟩

theorem limited_eq (limit : Option Nat) : limited limit = holding limit [] := by
  cases limit <;> simp [limited, holding, admitted]

variable (limit : Option Nat) (bytes : List UInt8) (t : Text)

theorem write_holding :
    ((holding limit bytes).write t).1 = holding limit (bytes ++ Text.utf8 t) := by
  cases limit with
  | none => simp [write, holding, admitted]
  | some n =>
      have htake : (bytes ++ Text.utf8 t).take n =
          bytes.take n ++ (Text.utf8 t).take (n - bytes.length) := List.take_append
      simp [write, holding, admitted, htake, Nat.sub_sub]

/-- A write is taken whole if all bytes, those before it included, are within the limit. -/
theorem taken_holding (ht : t ≠ []) :
    ((holding limit bytes).write t).2 = !exceeds limit (bytes ++ Text.utf8 t) := by
  cases limit with
  | none => rfl
  | some n =>
      have hpos : 0 < (Text.utf8 t).length := by
        obtain ⟨c, r, rfl⟩ := List.exists_cons_of_ne_nil ht
        have hsize := c.utf8Size_pos
        rw [Text.length_utf8, Text.byteSize_cons]
        omega
      simp only [write, holding, exceeds, Option.map_some, List.length_append]
      rw [← decide_not, decide_eq_decide]
      omega

end Sink

/-- Errors on lines of their own. -/
def reportLines (errors : List LexError) : Text := errors.flatMap fun e => Text.line e.reportLine

/-- Reports to a limited sink go on where the bytes so far ended, and all of them count. -/
theorem reportAll_holding (limit : Option Nat) (bytes : List UInt8) (n : Nat)
    (errors : List LexError) :
    reportAll (⟨.holding limit bytes, n⟩ : ErrorWriter) errors =
      ⟨.holding limit (bytes ++ Text.utf8 (reportLines errors)), n + errors.length⟩ := by
  induction errors generalizing bytes n with
  | nil => simp [reportAll, reportLines]
  | cons e errors ih =>
      have hreport : Reporter.report (⟨.holding limit bytes, n⟩ : ErrorWriter) e =
          ⟨.holding limit (bytes ++ Text.utf8 (Text.line e.reportLine)), n + 1⟩ := by
        rw [← Sink.write_holding]
        rfl
      have hlines : reportLines (e :: errors) = Text.line e.reportLine ++ reportLines errors := rfl
      rw [reportAll, List.foldl_cons, hreport, hlines, Text.utf8_append, ← List.append_assoc,
        List.length_cons, Nat.add_comm errors.length, ← Nat.add_assoc]
      exact ih _ _

end LoxTokens
