import LoxTokens.Proofs.SourceLines

/-! # Offsets of lines

A source file knows its lines by a table of byte offsets.  The byte of a line feed stands for that
character only (`toNat_of_mem_utf8EncodeChar`), so the entries of the table lie where the pieces
between line feeds begin, one after the other with a byte between them (`cons_offsetsAfterFeeds`).
What is cut out between two entries is then such a piece (`lineText?_succ`). -/

namespace LoxTokens

namespace Text

variable {c : Char}

/-! ### Bytes of a character -/

/-- A byte below 128 stands for one character only: all bytes of longer forms are above. -/
theorem toNat_of_mem_utf8EncodeChar {b : UInt8} (hb : b < 128)
    (h : b ∈ String.utf8EncodeChar c) : c.toNat = b.toNat := by
  have hbound : b.toNat < 128 := hb
  unfold String.utf8EncodeChar at h
  dsimp only at h
  split at h
  case isTrue hsmall =>
    obtain rfl := List.mem_singleton.1 h
    have hval : c.val.toNat = c.toNat := rfl
    rw [UInt8.toNat_ofNat']
    omega
  case isFalse =>
    exfalso
    split at h
    case isTrue =>
      simp only [List.mem_cons, List.not_mem_nil, or_false] at h
      rcases h with rfl | rfl <;> rw [UInt8.toNat_ofNat'] at hbound <;> omega
    case isFalse =>
      split at h <;> simp only [List.mem_cons, List.not_mem_nil, or_false] at h
      case isTrue => rcases h with rfl | rfl | rfl <;> rw [UInt8.toNat_ofNat'] at hbound <;> omega
      case isFalse =>
        rcases h with rfl | rfl | rfl | rfl <;> rw [UInt8.toNat_ofNat'] at hbound <;> omega

theorem eq_newline_of_mem_utf8EncodeChar (h : 10 ∈ String.utf8EncodeChar c) : c = '\n' :=
  Char.toNat_inj.1 (toNat_of_mem_utf8EncodeChar (by decide) h)

theorem eq_return_of_mem_utf8EncodeChar (h : 13 ∈ String.utf8EncodeChar c) : c = '\r' :=
  Char.toNat_inj.1 (toNat_of_mem_utf8EncodeChar (by decide) h)

theorem utf8_cons (c : Char) (t : Text) : utf8 (c :: t) = String.utf8EncodeChar c ++ utf8 t := rfl

end Text

/-! ### The table -/

section

variable {bytes : List UInt8} (n : Nat)

theorem offsetsAfterFeeds_append (bytes more : List UInt8) :
    offsetsAfterFeeds n (bytes ++ more) =
      offsetsAfterFeeds n bytes ++ offsetsAfterFeeds (n + bytes.length) more := by
  rw [offsetsAfterFeeds, List.zipIdx_append, List.filter_append, List.map_append]
  rfl

theorem offsetsAfterFeeds_of_notMem (h : 10 ∉ bytes) : offsetsAfterFeeds n bytes = [] := by
  rw [offsetsAfterFeeds, List.filter_eq_nil_iff.2, List.map_nil]
  intro bi hbi
  have hmem : bi.1 ∈ bytes := List.fst_mem_of_mem_zipIdx hbi
  exact fun hten => h (of_decide_eq_true hten ▸ hmem)

end

/-- Where pieces begin that stand one after the other, from offset `n` on, with one byte between
each two of them. -/
def pieceStarts (n : Nat) : List Text → List Nat
  | [] => []
  | p :: ps => n :: pieceStarts (n + Text.byteSize p + 1) ps

@[simp] theorem length_pieceStarts (n : Nat) (ps : List Text) :
    (pieceStarts n ps).length = ps.length := by
  induction ps generalizing n with
  | nil => rfl
  | cons p ps ih => exact congrArg (· + 1) (ih _)

/-- The table of a text lists where its pieces between line feeds begin. -/
theorem cons_offsetsAfterFeeds (n : Nat) (t : Text) :
    n :: offsetsAfterFeeds n (Text.utf8 t) = pieceStarts n (cutAt '\n' t) := by
  induction t generalizing n with
  | nil => rfl
  | cons c t ih =>
      rw [Text.utf8_cons, offsetsAfterFeeds_append, String.length_utf8EncodeChar]
      by_cases hc : c = '\n'
      · subst hc
        rw [cutAt_cons_self]
        exact congrArg (n :: ·) (ih (n + 1))
      · have hbytes : 10 ∉ String.utf8EncodeChar c :=
          fun h => hc (Text.eq_newline_of_mem_utf8EncodeChar h)
        obtain ⟨p, ps, hp, hcons⟩ := cutAt_cons_of_ne hc t
        -- the first piece grows by the character, the later ones move with it
        have hrest := (List.cons.inj ((ih (n + c.utf8Size)).trans (by rw [hp]; rfl))).2
        rw [offsetsAfterFeeds_of_notMem n hbytes, List.nil_append, hrest, hcons, pieceStarts,
          Text.byteSize_cons, Nat.add_assoc n]

/-- What stands between an offset of the table and the line feed before the next one is a piece. -/
theorem sliceBytes_pieceStarts (before : Text) (ps : List Text) (n : Nat) :
    (pieceStarts (Text.byteSize before) ps)[n]?.bind (fun start =>
        Text.sliceBytes start
          (match (pieceStarts (Text.byteSize before) ps)[n + 1]? with
            | some next => next - 1
            | none => Text.byteSize (before ++ List.intercalate ['\n'] ps))
          (before ++ List.intercalate ['\n'] ps)) = ps[n]? := by
  induction ps generalizing before n with
  | nil => rfl
  | cons p ps ih =>
      have hslice := Text.sliceBytes_byteSize_append before p
      cases ps with
      | nil =>
          cases n with
          | zero => simpa [pieceStarts] using hslice []
          | succ n => rfl
      | cons q qs =>
          rw [List.intercalate_cons_cons]
          cases n with
          | zero =>
              simpa [pieceStarts] using hslice ('\n' :: List.intercalate ['\n'] (q :: qs))
          | succ n =>
              have hnext : Text.byteSize (before ++ p ++ ['\n']) =
                  Text.byteSize before + Text.byteSize p + 1 := by
                rw [Text.byteSize_append, Text.byteSize_append]
                rfl
              have hrest := ih (before ++ p ++ ['\n']) n
              rw [hnext, List.append_assoc, List.append_assoc] at hrest
              rw [List.append_assoc p]
              exact hrest

namespace SourceFile

variable (name content : Text) (n : Nat)

theorem lineOffsets_eq_pieceStarts (f : SourceFile) :
    f.lineOffsets = (pieceStarts 0 (cutAt '\n' f.content)).toArray := by
  rw [f.lineOffsets_eq, cons_offsetsAfterFeeds]

theorem lineCount_new : (new name content).lineCount = content.count '\n' + 1 := by
  rw [lineCount, lineOffsets_eq_pieceStarts, List.size_toArray, length_pieceStarts, length_cutAt,
    new]

theorem lineText?_succ :
    (new name content).lineText? (n + 1) = ((cutAt '\n' content)[n]?).map (dropFinal '\r') := by
  have hslice := sliceBytes_pieceStarts [] (cutAt '\n' content) n
  rw [intercalate_cutAt] at hslice
  rw [← hslice, Option.map_bind, lineText?, lineStop, lineOffsets_eq_pieceStarts,
    List.getElem?_toArray, List.getElem?_toArray]
  rfl

theorem isSome_lineText?_iff :
    ((new name content).lineText? n).isSome ↔ 1 ≤ n ∧ n ≤ (new name content).lineCount := by
  cases n with
  | zero => simp [lineText?]
  | succ n =>
      rw [lineText?_succ, Option.isSome_map, isSome_getElem?, length_cutAt, lineCount_new]
      omega

end SourceFile
end LoxTokens
