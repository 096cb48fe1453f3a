import LoxTokens.Proofs.ErrorLines
import Mathlib.Data.List.Forall2

/-! # Blanking stray characters

A character that begins nothing parts its neighbours just as a space does: no segment goes on into
it (`Fits.blanked`).  With spaces in place of its stray characters a source is therefore cut at the
same places (`Cutting.blanked`), and its tokens stay what they are and where they are, but for the
bytes that a space is shorter than the character in its place (`matches_tokensFrom`). -/

namespace LoxTokens

/-- A text with spaces in place of the characters at some places. -/
def Text.blankAt (places : List Nat) (t : Text) : Text := places.foldr (fun i u => u.set i ' ') t

/-- The bytes that spaces at some places of a text save before one of its byte offsets. -/
def Text.savedBefore (places : List Nat) (t : Text) (offset : Nat) : Nat :=
  places.foldr (fun i bytes =>
    (if byteSize (t.take i) < offset then byteSize t[i]?.toList - 1 else 0) + bytes) 0

/-! ### Places and the bytes before them -/

namespace Position

/-- `q` is on the line and in the column of `p`, some bytes before it. -/
structure Earlier (bytes : Nat) (p q : Position) : Prop where
  line : q.line = p.line
  column : q.column = p.column
  offset : q.offset + bytes = p.offset

variable {p q r : Position} {m n : Nat} {c : Char} {t u : Text} {i : Nat}

theorem Earlier.refl (p : Position) : Earlier 0 p p := ⟨rfl, rfl, rfl⟩

theorem Earlier.trans (h : Earlier m p q) (h' : Earlier n q r) : Earlier (n + m) p r := by
  refine ⟨h'.line.trans h.line, h'.column.trans h.column, ?_⟩
  rw [← Nat.add_assoc, h'.offset, h.offset]

theorem Earlier.step (h : Earlier n p q) (c : Char) : Earlier n (p.step c) (q.step c) := by
  obtain ⟨hline, hcolumn, hoffset⟩ := h
  unfold Position.step
  split
  · exact ⟨congrArg (· + 1) hline, rfl, by simp only; omega⟩
  · exact ⟨hline, congrArg (· + 1) hcolumn, by simp only; omega⟩

theorem Earlier.after (h : Earlier n p q) (t : Text) : Earlier n (p.after t) (q.after t) := by
  induction t generalizing p q with
  | nil => exact h
  | cons c t ih => exact ih (h.step c)

theorem earlier_step_space (hc : c ≠ '\n') (p : Position) :
    Earlier (c.utf8Size - 1) (p.step c) (p.step ' ') := by
  have hsize := c.utf8Size_pos
  have hspace : (' ').utf8Size = 1 := rfl
  refine ⟨?_, ?_, ?_⟩
  · simp [Position.step, hc]
  · simp [Position.step, hc]
  · rw [offset_step, offset_step]
    omega

/-- A space moves the places after it only, and those by the bytes that it saves. -/
theorem earlier_set (h : t[i]? = some c) (hc : c ≠ '\n') (n : Nat) :
    Earlier (if i < n then c.utf8Size - 1 else 0) (origin.after (t.take n))
      (origin.after ((t.set i ' ').take n)) := by
  split
  · rename_i hn
    obtain ⟨before, rest, rfl, rfl⟩ : ∃ before rest, t = before ++ c :: rest ∧ before.length = i := by
      obtain ⟨hi, hget⟩ := List.getElem?_eq_some_iff.1 h
      refine ⟨t.take i, t.drop (i + 1), ?_, List.length_take_of_le hi.le⟩
      rw [← hget, ← List.drop_eq_getElem_cons hi, List.take_append_drop]
    obtain ⟨m, rfl⟩ : ∃ m, n = before.length + (m + 1) := ⟨n - before.length - 1, by omega⟩
    have hset : (before ++ c :: rest).set before.length ' ' = before ++ ' ' :: rest := by simp
    rw [hset, List.take_length_add_append, List.take_length_add_append, after_append, after_append]
    exact (earlier_step_space hc _).after _
  · rename_i hn
    rw [List.take_set_of_le (Nat.not_lt.1 hn)]
    exact .refl _

end Position

namespace Text

variable {places : List Nat} {t : Text}

theorem length_blankAt (places : List Nat) (t : Text) :
    (blankAt places t).length = t.length := by
  induction places with
  | nil => rfl
  | cons i places ih => rw [blankAt, List.foldr_cons, List.length_set]; exact ih

theorem getElem?_blankAt {i : Nat} (h : i ∉ places) : (blankAt places t)[i]? = t[i]? := by
  induction places with
  | nil => rfl
  | cons j places ih =>
      rw [List.mem_cons, not_or] at h
      rw [blankAt, List.foldr_cons, List.getElem?_set_ne (Ne.symm h.1)]
      exact ih h.2

theorem byteSize_take_lt_iff {i : Nat} (h : i < t.length) (n : Nat) :
    byteSize (t.take i) < byteSize (t.take n) ↔ i < n := by
  have hmono : ∀ m, ∀ k, byteSize (t.take m) ≤ byteSize (t.take (m + k)) := by
    intro m k
    rw [List.take_add, byteSize_append]
    exact Nat.le_add_right _ _
  constructor
  · intro hlt
    by_contra hle
    obtain ⟨k, rfl⟩ := Nat.exists_eq_add_of_le (Nat.not_lt.1 hle)
    exact absurd (hmono n k) (Nat.not_le.2 hlt)
  · intro hlt
    obtain ⟨k, rfl⟩ : ∃ k, n = i + 1 + k := Nat.exists_eq_add_of_le hlt
    have hsucc : byteSize (t.take (i + 1)) = byteSize (t.take i) + t[i].utf8Size := by
      rw [List.take_succ_eq_append_getElem h, byteSize_append]
      rfl
    have hpos := t[i].utf8Size_pos
    have hle := hmono (i + 1) k
    omega

/-- Spaces move every place back by the bytes that they save before it. -/
theorem earlier_blankAt (hdistinct : places.Nodup)
    (hplaces : ∀ i ∈ places, ∃ c, t[i]? = some c ∧ c ≠ '\n') (n : Nat) :
    Position.Earlier (savedBefore places t (byteSize (t.take n))) (Position.origin.after (t.take n))
      (Position.origin.after ((blankAt places t).take n)) := by
  induction places with
  | nil => exact .refl _
  | cons i places ih =>
      rw [List.nodup_cons] at hdistinct
      rw [List.forall_mem_cons] at hplaces
      obtain ⟨⟨c, hget, hc⟩, hrest⟩ := hplaces
      have hi : i < t.length := (List.getElem?_eq_some_iff.1 hget).1
      have hset := Position.earlier_set ((getElem?_blankAt hdistinct.1).trans hget) hc n
      have hsaved : savedBefore (i :: places) t (byteSize (t.take n)) =
          (if i < n then c.utf8Size - 1 else 0) + savedBefore places t (byteSize (t.take n)) := by
        simp only [savedBefore, List.foldr_cons, byteSize_take_lt_iff hi]
        simp [hget]
      rw [hsaved]
      exact (ih hdistinct.2 hrest).trans hset

end Text

namespace Segment

/-- A space in place of a stray character. -/
def blanked : Segment → Segment
  | stray _ => blank ' '
  | s => s

def isStray : Segment → Bool
  | stray _ => true
  | _ => false

/-- Where stray characters stand in a text whose segments begin at place `i`. -/
def strayPlaces (i : Nat) : List Segment → List Nat
  | [] => []
  | s :: ss => (if s.isStray then [i] else []) ++ strayPlaces (i + s.text.length) ss

/-- A text and the same text with spaces in place of some stray characters. -/
def Blanks : Text → Text → Prop := List.Forall₂ fun c d => d = c ∨ ¬ Opens c ∧ d = ' '

variable {s : Segment} {ss : List Segment} {t rest rest' : Text} {p q : Position} {c : Char}

/-- A segment is stray, and one character, or blanking leaves it as it is. -/
theorem isStray_cases (s : Segment) :
    (∃ c, s = stray c) ∨ s.isStray = false ∧ s.blanked = s := by
  cases s with
  | stray c => exact .inl ⟨c, rfl⟩
  | _ => exact .inr ⟨rfl, rfl⟩

theorem length_text_blanked (s : Segment) : s.blanked.text.length = s.text.length := by
  cases s <;> rfl

theorem content?_blanked (s : Segment) : s.blanked.content? = s.content? := by
  cases s <;> rfl

/-! ### No segment goes on into a stray character -/

theorem stopsAt_of_blanks {p : Char → Bool} (h : StopsAt p rest) (hspace : p ' ' = false)
    (hrest : Blanks rest rest') : StopsAt p rest' := by
  cases hrest with
  | nil => exact stopsAt_nil
  | cons hc _ =>
      rcases hc with rfl | ⟨-, rfl⟩
      · exact stopsAt_cons.2 (stopsAt_cons.1 h)
      · exact stopsAt_cons.2 hspace

theorem Blanks.head?_of_ne (hrest : Blanks rest rest') (hc : c ≠ ' ')
    (hhead : rest'.head? = some c) : rest.head? = some c := by
  cases hrest with
  | nil => cases hhead
  | cons hd _ =>
      obtain rfl := Option.some.inj hhead
      rcases hd with rfl | ⟨-, rfl⟩
      · rfl
      · exact absurd rfl hc

theorem Complete.blanks (h : s.Complete rest) (hrest : Blanks rest rest') : s.Complete rest' := by
  cases s with
  | blank | string | stray => trivial
  | comment body =>
      -- a comment stops at a line feed, and that opens a segment
      cases hrest with
      | nil => exact stopsAt_nil
      | @cons c d rest rest' hc _ =>
          replace h : StopsAt (· != '\n') (c :: rest) := h
          have hnewline : c = '\n' := by simpa using stopsAt_cons.1 h
          have hopens : Opens c := .inl (by rw [hnewline]; rfl)
          obtain rfl : d = c := hc.resolve_right fun hstray => hstray.1 hopens
          subst hnewline
          exact stopsAt_cons.2 rfl
  | number whole fraction =>
      cases fraction with
      | cons d ds => exact stopsAt_of_blanks h rfl hrest
      | nil =>
          refine ⟨stopsAt_of_blanks h.1 rfl hrest, ?_⟩
          rintro d r rfl
          cases hrest with
          | cons hpoint hr =>
              obtain rfl : '.' = _ := hpoint.resolve_right fun hspace => absurd hspace.2 (by decide)
              cases hr with
              | cons hd _ =>
                  rcases hd with rfl | ⟨-, rfl⟩
                  · exact h.2 _ _ rfl
                  · rfl
  | word letters => exact stopsAt_of_blanks h rfl hrest
  | operator o =>
      refine ⟨fun ho hhead => ?_, fun ho hhead => ?_⟩
      · exact h.1 ho (hrest.head?_of_ne (by decide) hhead)
      · exact h.2 ho (hrest.head?_of_ne (by decide) hhead)
  | unterminated body =>
      obtain rfl : rest = [] := h
      cases hrest
      rfl

theorem Fits.blanked (h : s.Fits rest) (hrest : Blanks rest rest') : s.blanked.Fits rest' := by
  rcases s.isStray_cases with ⟨c, rfl⟩ | ⟨-, hs⟩
  · exact ⟨rfl, trivial⟩
  · rw [hs]
    exact ⟨h.wellFormed, h.complete.blanks hrest⟩

theorem blanks_flatMap_text (hss : ∀ s ∈ ss, s.WellFormed) :
    Blanks (ss.flatMap text) ((ss.map Segment.blanked).flatMap text) := by
  induction ss with
  | nil => exact .nil
  | cons s ss ih =>
      rw [List.forall_mem_cons] at hss
      rw [List.map_cons, List.flatMap_cons, List.flatMap_cons]
      refine List.rel_append ?_ (ih hss.2)
      rcases s.isStray_cases with ⟨c, rfl⟩ | ⟨-, hs⟩
      · exact .cons (.inr ⟨hss.1, rfl⟩) .nil
      · rw [hs]
        exact List.forall₂_same.2 fun c _ => .inl rfl

theorem Cutting.blanked (h : Cutting ss t) :
    Cutting (ss.map Segment.blanked) ((ss.map Segment.blanked).flatMap text) := by
  induction h with
  | nil => exact .nil
  | @cons s ss rest hs hss ih =>
      have hrest := blanks_flatMap_text fun s' hs' => hss.wellFormed hs'
      rw [hss.flatMap_text] at hrest
      exact .cons (hs.blanked hrest) ih

/-! ### Where the stray characters are -/

theorem le_of_mem_strayPlaces {i j : Nat} (h : j ∈ strayPlaces i ss) : i ≤ j := by
  induction ss generalizing i with
  | nil => cases h
  | cons s ss ih =>
      rw [strayPlaces, List.mem_append] at h
      rcases h with h | h
      · split at h
        · exact (List.mem_singleton.1 h).ge
        · cases h
      · exact (Nat.le_add_right _ _).trans (ih h)

theorem pairwise_strayPlaces (i : Nat) (ss : List Segment) :
    (strayPlaces i ss).Pairwise (· < ·) := by
  induction ss generalizing i with
  | nil => exact .nil
  | cons s ss ih =>
      rcases s.isStray_cases with ⟨c, rfl⟩ | ⟨hs, -⟩
      · exact .cons (fun j hj => le_of_mem_strayPlaces hj) (ih (i + 1))
      · rw [strayPlaces, hs]
        exact ih _

/-- Spaces in the places of the stray characters blank the segments. -/
theorem blankAt_strayPlaces (before : Text) (ss : List Segment) :
    (before ++ ss.flatMap text).blankAt (strayPlaces before.length ss) =
      before ++ (ss.map blanked).flatMap text := by
  induction ss generalizing before with
  | nil => rfl
  | cons s ss ih =>
      have hrest := ih (before ++ s.text)
      rw [List.length_append, List.append_assoc, List.append_assoc] at hrest
      rw [strayPlaces, List.flatMap_cons, List.map_cons, List.flatMap_cons]
      rcases s.isStray_cases with ⟨c, rfl⟩ | ⟨hs, hblanked⟩
      · refine (congrArg (·.set before.length ' ') hrest).trans ?_
        simp [text, blanked]
      · rw [hs, hblanked]
        exact hrest

/-- Each report of a character tells the character at a place of its own and the line of the
place. -/
theorem forall₂_strayPlaces (hss : ∀ s ∈ ss, s.WellFormed) (before : Text) :
    List.Forall₂ (fun i e => ∃ c, (before ++ ss.flatMap text)[i]? = some c ∧ c ≠ '\n' ∧
        e = .unexpectedCharacter
          (Position.origin.after ((before ++ ss.flatMap text).take i)).line c)
      (strayPlaces before.length ss)
      ((errorsFrom (Position.origin.after before) ss).filter LexError.isUnexpectedCharacter) := by
  induction ss generalizing before with
  | nil => exact .nil
  | cons s ss ih =>
      rw [List.forall_mem_cons] at hss
      have hrest := ih hss.2 (before ++ s.text)
      rw [List.length_append, List.append_assoc, Position.after_append] at hrest
      rw [strayPlaces, errorsFrom_cons, List.filter_append, List.flatMap_cons]
      refine List.rel_append ?_ hrest
      cases s with
      | stray c =>
          have hc := (ne_of_not_opens hss.1).1
          have hline : ((Position.origin.after before).after [c]).line =
              (Position.origin.after before).line := by
            rw [Position.line_after, List.count_singleton, if_neg (by simpa using hc)]
            rfl
          refine .cons ⟨c, by simp [text], hc, ?_⟩ .nil
          rw [List.take_left]
          exact congrArg (LexError.unexpectedCharacter · c) hline
      | _ => exact .nil

/-! ### What a scan of the blanked source gives -/

theorem errorsFrom_blanked (hss : ∀ s ∈ ss, s.WellFormed) (hline : q.line = p.line) :
    errorsFrom q (ss.map blanked) = (errorsFrom p ss).filter (!·.isUnexpectedCharacter) := by
  induction ss generalizing p q with
  | nil => rfl
  | cons s ss ih =>
      rw [List.forall_mem_cons] at hss
      have hcount : s.blanked.text.count '\n' = s.text.count '\n' := by
        rcases s.isStray_cases with ⟨c, rfl⟩ | ⟨-, hs⟩
        · have hc := (ne_of_not_opens hss.1).1
          have hone : [c].count '\n' = 0 := by
            rw [List.count_singleton, if_neg (by simpa using hc)]
          exact hone.symm
        · rw [hs]
      have hafter : (q.after s.blanked.text).line = (p.after s.text).line := by
        rw [Position.line_after, Position.line_after, hcount, hline]
      rw [List.map_cons, errorsFrom_cons, errorsFrom_cons, List.filter_append, hafter,
        ih hss.2 hafter]
      congr 1
      cases s <;> rfl

end Segment

/-- Two tokens of one content, each end of the second some bytes before that of the first. -/
structure Token.Matches (saved : Nat → Nat) (t u : Token) : Prop where
  content : u.content = t.content
  line : u.line = t.line
  start : Position.Earlier (saved t.span.start.offset) t.span.start u.span.start
  stop : Position.Earlier (saved t.span.stop.offset) t.span.stop u.span.stop

namespace Segment

variable {source source' before before' : Text} {saved : Nat → Nat}

theorem matches_tokensFrom
    (hplaces : ∀ i, Position.Earlier (saved (Position.origin.after (source.take i)).offset)
      (Position.origin.after (source.take i)) (Position.origin.after (source'.take i)))
    (hsource : source = before ++ ss.flatMap text)
    (hsource' : source' = before' ++ (ss.map blanked).flatMap text)
    (hlength : before'.length = before.length) :
    List.Forall₂ (Token.Matches saved) (tokensFrom (Position.origin.after before) ss)
      (tokensFrom (Position.origin.after before') (ss.map blanked)) := by
  induction ss generalizing before before' with
  | nil => exact .nil
  | cons s ss ih =>
      have hnext : source = (before ++ s.text) ++ ss.flatMap text := by
        rw [hsource, List.flatMap_cons, List.append_assoc]
      have hnext' : source' = (before' ++ s.blanked.text) ++ (ss.map blanked).flatMap text := by
        rw [hsource', List.map_cons, List.flatMap_cons, List.append_assoc]
      have hlength' : (before' ++ s.blanked.text).length = (before ++ s.text).length := by
        rw [List.length_append, List.length_append, length_text_blanked, hlength]
      have hstart := hplaces before.length
      have hstop := hplaces (before ++ s.text).length
      rw [hsource, hsource', List.take_left, ← hlength, List.take_left] at hstart
      rw [hnext, hnext', List.take_left, ← hlength', List.take_left, Position.after_append,
        Position.after_append] at hstop
      have htail := ih hnext hnext' hlength'
      rw [Position.after_append, Position.after_append] at htail
      rw [List.map_cons, tokensFrom_cons, tokensFrom_cons]
      refine List.rel_append ?_ htail
      rw [token?, token?, content?_blanked]
      cases s.content? with
      | none => exact .nil
      | some x => exact .cons ⟨rfl, hstop.line, hstart, hstop⟩ .nil

end Segment

open Segment

/-- **Stray characters are no more than spaces to their neighbours.**  The characters that a scan
reports stand at places of their own, in order.  With spaces there, the source has no such error, an
open string is reported as before, and the tokens are the same, one for one: their kinds, lexemes,
literals, lines and columns, and their offsets less the bytes that the spaces before them save. -/
theorem blankAt_strays (source : Text) :
    ∃ places : List Nat, places.Pairwise (· < ·) ∧
      List.Forall₂ (fun i e => ∃ c, source[i]? = some c ∧
          e = .unexpectedCharacter (Position.origin.after (source.take i)).line c)
        places ((Scanned.ofSource source).errors.filter LexError.isUnexpectedCharacter) ∧
      (Scanned.ofSource (source.blankAt places)).errors =
        (Scanned.ofSource source).errors.filter (!·.isUnexpectedCharacter) ∧
      List.Forall₂ (Token.Matches (Text.savedBefore places source)) (Scanned.ofSource source).tokens
        (Scanned.ofSource (source.blankAt places)).tokens := by
  have hcutting := cutting_ofText source
  have hwell : ∀ s ∈ ofText source, s.WellFormed := fun s hs => hcutting.wellFormed hs
  have hblank := blankAt_strayPlaces [] (ofText source)
  have hreports := forall₂_strayPlaces hwell []
  have hordered := pairwise_strayPlaces 0 (ofText source)
  rw [List.nil_append, List.nil_append, flatMap_text_ofText, List.length_nil] at hblank
  rw [List.nil_append, flatMap_text_ofText, List.length_nil] at hreports
  generalize strayPlaces 0 (ofText source) = places at hblank hreports hordered
  have hcut : ofText (source.blankAt places) = (ofText source).map blanked := by
    rw [hblank]
    exact cutting_iff.1 hcutting.blanked
  have hchars : ∀ i ∈ places, ∃ c, source[i]? = some c ∧ c ≠ '\n' := by
    have hboth := hreports.imp (S := fun i _ => (∃ c, source[i]? = some c ∧ c ≠ '\n') ∧ True)
      fun i e ⟨c, hget, hc, _⟩ => ⟨⟨c, hget, hc⟩, trivial⟩
    exact ((List.forall₂_and_left _ _).1 hboth).1
  have hplaces : ∀ i, Position.Earlier
      (Text.savedBefore places source (Position.origin.after (source.take i)).offset)
      (Position.origin.after (source.take i))
      (Position.origin.after ((source.blankAt places).take i)) := by
    intro i
    rw [Position.offset_origin_after]
    exact Text.earlier_blankAt (hordered.imp fun h => Nat.ne_of_lt h) hchars i
  refine ⟨places, hordered, ?_, ?_, ?_⟩
  · rw [Scanned.ofSource_errors]
    exact hreports.imp fun i e ⟨c, hget, _, he⟩ => ⟨c, hget, he⟩
  · rw [Scanned.ofSource_errors, Scanned.ofSource_errors, hcut]
    exact errorsFrom_blanked hwell rfl
  · rw [Scanned.ofSource_tokens, Scanned.ofSource_tokens, hcut]
    have htokens : List.Forall₂ (Token.Matches (Text.savedBefore places source))
        (tokensFrom (Position.origin.after []) (ofText source))
        (tokensFrom (Position.origin.after []) ((ofText source).map blanked)) :=
      matches_tokensFrom hplaces (flatMap_text_ofText source).symm hblank rfl
    refine List.rel_append htokens ?_
    have hend := hplaces source.length
    rw [List.take_length, ← Text.length_blankAt places source, List.take_length] at hend
    exact .cons ⟨rfl, hend.line, hend, hend⟩ .nil

end LoxTokens
