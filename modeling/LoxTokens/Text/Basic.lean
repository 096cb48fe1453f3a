/-! # Texts and their bytes

A text is the list of its Unicode scalar values.  Sizes and cuts in bytes always mean the
UTF-8 form: `byteSize` counts them, `utf8` lists them, `dropBytes` and `takeBytes` cut a
text at a byte offset and fail when the offset lies past the end or inside a character. -/

namespace LoxTokens

/-- A text: its Unicode scalar values in order. -/
abbrev Text := List Char

namespace Text

/-- Number of bytes of a text. -/
def byteSize : Text → Nat
  | [] => 0
  | c :: t => c.utf8Size + byteSize t

/-- The bytes of a text. -/
def utf8 (t : Text) : List UInt8 := t.flatMap String.utf8EncodeChar

/-- The text a byte sequence encodes, if it encodes one. -/
def ofUtf8? (bytes : List UInt8) : Option Text :=
  (ByteArray.mk bytes.toArray).utf8Decode?.map Array.toList

/-- What follows the first `n` bytes. -/
def dropBytes : Nat → Text → Option Text
  | 0, t => some t
  | _ + 1, [] => none
  | n + 1, c :: t => if c.utf8Size ≤ n + 1 then dropBytes (n + 1 - c.utf8Size) t else none

/-- The first `n` bytes. -/
def takeBytes : Nat → Text → Option Text
  | 0, _ => some []
  | _ + 1, [] => none
  | n + 1, c :: t =>
    if c.utf8Size ≤ n + 1 then (takeBytes (n + 1 - c.utf8Size) t).map (c :: ·) else none

/-- The bytes from `start` up to `stop`, when both are character boundaries in order. -/
def sliceBytes (start stop : Nat) (t : Text) : Option Text :=
  if start ≤ stop then (dropBytes start t).bind (takeBytes (stop - start)) else none

/-- `t` with blanks before it, at least `width` characters long. -/
def padLeft (width : Nat) (t : Text) : Text := List.replicate (width - t.length) ' ' ++ t

/-! ### Sizes -/

@[simp] theorem byteSize_nil : byteSize [] = 0 := rfl

@[simp] theorem byteSize_cons (c : Char) (t : Text) :
    byteSize (c :: t) = c.utf8Size + byteSize t := rfl

@[simp] theorem byteSize_append (s t : Text) : byteSize (s ++ t) = byteSize s + byteSize t := by
  induction s with
  | nil => simp
  | cons c s ih => simp [ih, Nat.add_assoc]

@[simp] theorem utf8_nil : utf8 [] = [] := rfl

@[simp] theorem utf8_append (s t : Text) : utf8 (s ++ t) = utf8 s ++ utf8 t := by
  simp [utf8]

/-- Listing the bytes and counting them agree. -/
theorem length_utf8 (t : Text) : (utf8 t).length = byteSize t := by
  induction t with
  | nil => rfl
  | cons c t ih =>
    simp only [utf8, List.flatMap_cons, List.length_append, String.length_utf8EncodeChar,
      byteSize_cons] at ih ⊢
    rw [ih]

end Text
end LoxTokens
