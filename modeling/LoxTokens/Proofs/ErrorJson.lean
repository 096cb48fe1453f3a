import LoxTokens.Diagnostics
import LoxTokens.Proofs.IndentedJson

/-! # Errors as JSON

Errors are written as one JSON array, on one line or indented, with an object for each error, in order
(`errorsJson_said`).  Line, kind and message say everything about an error: a reader that knows the
wording finds the errors again in either text, so no two lists of errors are written alike. -/

namespace LoxTokens

/-- The JSON value that says an error. -/
def LexError.said (e : LexError) : JsonValue :=
  .object [("line".toList, .number false e.line), ("kind".toList, .string e.kindName),
    ("message".toList, .string e.message)]

/-- The error that is said: the message of an unexpected character quotes that character last. -/
def LexError.ofSaid? : JsonValue → Option LexError
  | .object [(_, .number _ line), (_, .string kind), (_, .string message)] =>
    if kind = "UnterminatedString".toList then some (.unterminatedString line.num.toNat)
    else message.dropLast.getLast?.map (.unexpectedCharacter line.num.toNat)
  | _ => none

/-- The errors of a JSON text. -/
def errorsOfJson? (t : Text) : Option (List LexError) :=
  match Json.read? t with
  | some (.array values) => values.mapM LexError.ofSaid?
  | _ => none

theorem Json.meanings_eq_map (vs : List Json) : meanings vs = vs.map meaning := by
  induction vs with
  | nil => rfl
  | cons v vs ih => rw [meanings, ih, List.map_cons]

namespace LexError

theorem getLast?_dropLast_message (line : Nat) (c : Char) :
    (unexpectedCharacter line c).message.dropLast.getLast? = some c := by
  have hquoted : (unexpectedCharacter line c).message =
      "Unexpected character: '".toList ++ [c] ++ ['\''] := (List.append_assoc _ [c] ['\'']).symm
  rw [hquoted, List.dropLast_concat, List.getLast?_concat]

theorem ofSaid?_said (e : LexError) : ofSaid? e.said = some e := by
  have hline (n : Nat) : (n : ℚ).num.toNat = n := by rw [Rat.num_natCast, Int.toNat_natCast]
  cases e with
  | unterminatedString n =>
      have hkind : (unterminatedString n).kindName = "UnterminatedString".toList := rfl
      rw [said, ofSaid?, if_pos hkind, line, hline]
  | unexpectedCharacter n c =>
      have hkind : (unexpectedCharacter n c).kindName ≠ "UnterminatedString".toList :=
        show "UnexpectedCharacter".toList ≠ "UnterminatedString".toList by decide +kernel
      rw [said, ofSaid?, if_neg hkind, getLast?_dropLast_message, line, hline, Option.map_some]

theorem mapM_ofSaid?_said (errors : List LexError) :
    (errors.map said).mapM ofSaid? = some errors := by
  induction errors with
  | nil => rfl
  | cons e errors ih =>
      rw [List.map_cons, List.mapM_cons, ofSaid?_said, ih]
      rfl

end LexError

theorem meaning_errorsJson (errors : List LexError) :
    (errorsJson errors).meaning = .array (errors.map LexError.said) := by
  rw [errorsJson, Json.meaning, Json.meanings_eq_map, List.map_map]
  rfl

/-- The errors are found in any text that means what they say. -/
theorem errorsOfJson?_eq {t : Text} {errors : List LexError}
    (h : Json.read? t = some (errorsJson errors).meaning) : errorsOfJson? t = some errors := by
  unfold errorsOfJson?
  rw [h, meaning_errorsJson]
  exact LexError.mapM_ofSaid?_said errors

/-- **Both texts of the errors say all of each error.**  They are JSON and mean the same array, whose
objects have the line, the kind and the message of one error each, in order; the text on one line has
no control character.  The errors can be read from either text, so that other errors have other
texts. -/
theorem errorsJson_said (errors : List LexError) :
    Json.read? (errorsJson errors).compact = some (.array (errors.map LexError.said)) ∧
    Json.read? ((errorsJson errors).pretty 0) = some (.array (errors.map LexError.said)) ∧
    (∀ c ∈ (errorsJson errors).compact, 32 ≤ c.toNat) ∧
    errorsOfJson? (errorsJson errors).compact = some errors ∧
    errorsOfJson? ((errorsJson errors).pretty 0) = some errors ∧
    ∀ other, ((errorsJson other).compact = (errorsJson errors).compact ↔ other = errors) ∧
      ((errorsJson other).pretty 0 = (errorsJson errors).pretty 0 ↔ other = errors) := by
  have hcompact (errors) : errorsOfJson? (errorsJson errors).compact = some errors :=
    errorsOfJson?_eq (Json.read?_compact _)
  have hpretty (errors) : errorsOfJson? ((errorsJson errors).pretty 0) = some errors :=
    errorsOfJson?_eq (Json.read?_pretty 0 _)
  refine ⟨?_, ?_, Json.shown_compact _, hcompact errors, hpretty errors, fun other => ⟨?_, ?_⟩⟩
  · rw [Json.read?_compact, meaning_errorsJson]
  · rw [Json.read?_pretty, meaning_errorsJson]
  · refine ⟨fun h => ?_, fun h => by rw [h]⟩
    apply Option.some.inj
    rw [← hcompact other, h, hcompact errors]
  · refine ⟨fun h => ?_, fun h => by rw [h]⟩
    apply Option.some.inj
    rw [← hpretty other, h, hpretty errors]

/-- A quotation mark and a control character, which are escaped, and no errors at all. -/
theorem errorsJson_said_escapes :
    '\\' ∈ (errorsJson [.unexpectedCharacter 1 '"', .unexpectedCharacter 2 '\x01']).compact ∧
    32 ≤ '\\'.toNat ∧
    errorsOfJson? (errorsJson [.unexpectedCharacter 1 '"', .unexpectedCharacter 2 '\x01']).compact =
      some [.unexpectedCharacter 1 '"', .unexpectedCharacter 2 '\x01'] ∧
    errorsOfJson? "[]".toList = some [] ∧
    (errorsJson [.unexpectedCharacter 2 '\x01']).pretty 0 ≠ (errorsJson []).pretty 0 := by
  have hmem : '\\' ∈
      (errorsJson [.unexpectedCharacter 1 '"', .unexpectedCharacter 2 '\x01']).compact := by
    decide +kernel
  obtain ⟨-, -, hshown, hread, -, -⟩ :=
    errorsJson_said [.unexpectedCharacter 1 '"', .unexpectedCharacter 2 '\x01']
  obtain ⟨-, -, -, -, hnone, hother⟩ := errorsJson_said []
  refine ⟨hmem, hshown _ hmem, hread, hnone, ?_⟩
  intro h
  cases (hother _).2.1 h

end LoxTokens
