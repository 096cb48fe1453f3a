import LoxTokens.Proofs.Tokens

/-! # Respacing

The blanks and comments between lexemes only keep them apart.  Whatever separators are written
around the lexemes of a source, and whatever the comments in them hold, the new text has the same
lexemes, each for the same token, and no errors (`respacing`). -/

namespace LoxTokens

/-- Blanks, and comments closed by a line feed, in any mixture. -/
inductive Gap : Text → Prop
  | nil : Gap []
  | blank {c : Char} {t : Text} : separates c = true → Gap t → Gap (c :: t)
  | comment {body t : Text} : '\n' ∉ body → Gap t → Gap ('/' :: '/' :: (body ++ '\n' :: t))

/-- A gap that begins with a blank. -/
structure Separator (t : Text) : Prop where
  gap : Gap t
  begins : ∃ c u, separates c = true ∧ t = c :: u

/-- The lexemes, in order, with separators between them and perhaps one after the last. -/
inductive Spaced : List Text → Text → Prop
  | nil : Spaced [] []
  | last (lexeme : Text) : Spaced [lexeme] lexeme
  | cons {lexeme gap t : Text} {lexemes : List Text} :
      Separator gap → Spaced lexemes t → Spaced (lexeme :: lexemes) (lexeme ++ (gap ++ t))

/-- The lexemes spaced out, perhaps with a gap before the first. -/
def Respaced (lexemes : List Text) (t : Text) : Prop :=
  ∃ gap u, Gap gap ∧ Spaced lexemes u ∧ t = gap ++ u

theorem spaced_intercalate (lexemes : List Text) :
    Spaced lexemes (List.intercalate [' '] lexemes) := by
  induction lexemes with
  | nil => exact .nil
  | cons lexeme lexemes ih =>
      cases lexemes with
      | nil => simpa using Spaced.last lexeme
      | cons lexeme' lexemes =>
          rw [List.intercalate_cons_cons, List.append_assoc]
          exact .cons ⟨.blank rfl .nil, ' ', [], rfl, rfl⟩ ih

namespace Segment

variable {s : Segment} {ss ss' : List Segment} {t u gap : Text} {p : Position}

/-- A segment that reports nothing: no stray character and no open string. -/
def Faultless (s : Segment) : Prop := ∀ line, s.error? line = none

theorem errorsFrom_of_faultless (h : ∀ s ∈ ss, s.Faultless) : errorsFrom p ss = [] := by
  induction ss generalizing p with
  | nil => rfl
  | cons s ss ih =>
      rw [errorsFrom_cons, h s List.mem_cons_self _,
        ih fun s' hs' => h s' (List.mem_cons_of_mem _ hs')]
      rfl

theorem faultless_of_isLexeme (h : s.isLexeme = true) : s.Faultless := by
  intro line
  cases s <;> first | rfl | cases h

theorem complete_of_isLexeme (h : s.isLexeme = true) {c : Char} (hc : separates c = true)
    (t : Text) : s.Complete (c :: t) := by
  refine s.complete_nil.append_separates hc ?_ ?_ t
  · rintro body rfl
    cases h
  · rintro body rfl
    cases h

theorem exists_cutting_gap (hgap : Gap gap) (h : Cutting ss t) :
    ∃ gs, (∀ g ∈ gs, g.isLexeme = false ∧ g.Faultless) ∧ Cutting (gs ++ ss) (gap ++ t) := by
  induction hgap with
  | nil => exact ⟨[], by simp, h⟩
  | @blank c gap hc _ ih =>
      obtain ⟨gs, hgs, hcut⟩ := ih
      refine ⟨blank c :: gs, List.forall_mem_cons.2 ⟨⟨rfl, fun _ => rfl⟩, hgs⟩, ?_⟩
      exact .cons (s := blank c) ⟨hc, trivial⟩ hcut
  | @comment body gap hbody _ ih =>
      obtain ⟨gs, hgs, hcut⟩ := ih
      refine ⟨comment body :: blank '\n' :: gs, ?_, ?_⟩
      · exact List.forall_mem_cons.2 ⟨⟨rfl, fun _ => rfl⟩,
          List.forall_mem_cons.2 ⟨⟨rfl, fun _ => rfl⟩, hgs⟩⟩
      · have hblank : Cutting (blank '\n' :: (gs ++ ss)) ('\n' :: (gap ++ t)) :=
          .cons (s := blank '\n') ⟨rfl, trivial⟩ hcut
        have hcomment : Cutting (comment body :: blank '\n' :: (gs ++ ss))
            ((comment body).text ++ '\n' :: (gap ++ t)) :=
          .cons ⟨hbody, stopsAt_cons.2 rfl⟩ hblank
        simpa [text] using hcomment

theorem filter_isLexeme_of_forall (h : ∀ s ∈ ss, s.isLexeme = false) :
    ss.filter isLexeme = [] := by
  rw [List.filter_eq_nil_iff]
  intro s hs
  rw [h s hs]
  exact Bool.false_ne_true

/-- Lexemes spaced out are cut where they were put together. -/
theorem exists_cutting_spaced {lexemes : List Text} (h : Spaced lexemes t)
    (hss : ∀ s ∈ ss, s.WellFormed ∧ s.isLexeme = true) (htext : ss.map text = lexemes) :
    ∃ ss', Cutting ss' t ∧ ss'.filter isLexeme = ss ∧ ∀ s ∈ ss', s.Faultless := by
  induction h generalizing ss with
  | nil =>
      obtain rfl := List.map_eq_nil_iff.1 htext
      exact ⟨[], .nil, rfl, by simp⟩
  | last lexeme =>
      obtain ⟨s, rfl, rfl⟩ := List.map_eq_singleton_iff.1 htext
      obtain ⟨hw, hlex⟩ := hss s List.mem_cons_self
      have hcut : Cutting [s] (s.text ++ []) := .cons ⟨hw, s.complete_nil⟩ .nil
      rw [List.append_nil] at hcut
      refine ⟨[s], hcut, by simp [hlex], ?_⟩
      exact List.forall_mem_singleton.2 (faultless_of_isLexeme hlex)
  | @cons lexeme gap t lexemes hgap _ ih =>
      obtain ⟨s, ss, rfl, rfl, hmap⟩ := List.map_eq_cons_iff.1 htext
      obtain ⟨⟨hw, hlex⟩, htail⟩ := List.forall_mem_cons.1 hss
      obtain ⟨ss', hcut, hfilter, hfault⟩ := ih htail hmap
      obtain ⟨gs, hgs, hcut'⟩ := exists_cutting_gap hgap.gap hcut
      refine ⟨s :: (gs ++ ss'), ?_, ?_, ?_⟩
      · obtain ⟨c, u, hc, rfl⟩ := hgap.begins
        exact .cons ⟨hw, complete_of_isLexeme hlex hc _⟩ hcut'
      · rw [List.filter_cons_of_pos hlex, List.filter_append, hfilter,
          filter_isLexeme_of_forall fun g hg => (hgs g hg).1, List.nil_append]
      · refine List.forall_mem_cons.2 ⟨faultless_of_isLexeme hlex, fun s' hs' => ?_⟩
        rcases List.mem_append.1 hs' with hs' | hs'
        · exact (hgs s' hs').2
        · exact hfault s' hs'

theorem filterMap_content?_filter (ss : List Segment) :
    (ss.filter isLexeme).filterMap content? = ss.filterMap content? := by
  rw [List.filterMap_filter]
  congr 1
  funext s
  cases s <;> rfl

end Segment

open Segment

/-- However the lexemes of a source are spaced out, the new text is scanned into the same tokens,
places apart. -/
theorem ofSource_of_respaced {s t : Text}
    (h : Respaced ((Scanned.ofSource s).beforeEnd.map Token.lexeme) t) :
    (Scanned.ofSource t).errors = [] ∧
      (Scanned.ofSource t).beforeEnd.map Token.content =
        (Scanned.ofSource s).beforeEnd.map Token.content := by
  obtain ⟨gap, u, hgap, hu, rfl⟩ := h
  rw [Scanned.beforeEnd_ofSource, map_lexeme_tokensFrom] at hu
  have hss : ∀ s' ∈ (ofText s).filter isLexeme, s'.WellFormed ∧ s'.isLexeme = true := by
    intro s' hs'
    obtain ⟨hmem, hlex⟩ := List.mem_filter.1 hs'
    exact ⟨(cutting_ofText s).wellFormed hmem, hlex⟩
  obtain ⟨ss, hcut, hfilter, hfault⟩ := exists_cutting_spaced hu hss rfl
  obtain ⟨gs, hgs, hcut'⟩ := exists_cutting_gap hgap hcut
  have hcutting : ofText (gap ++ u) = gs ++ ss := cutting_iff.1 hcut'
  have hlexemes : (gs ++ ss).filter isLexeme = (ofText s).filter isLexeme := by
    rw [List.filter_append, filter_isLexeme_of_forall fun g hg => (hgs g hg).1, hfilter,
      List.nil_append]
  constructor
  · rw [Scanned.ofSource_errors, hcutting]
    refine errorsFrom_of_faultless fun s' hs' => ?_
    rcases List.mem_append.1 hs' with hs' | hs'
    · exact (hgs s' hs').2
    · exact hfault s' hs'
  · rw [Scanned.beforeEnd_ofSource, Scanned.beforeEnd_ofSource, map_content_tokensFrom,
      map_content_tokensFrom, hcutting, ← filterMap_content?_filter, hlexemes,
      filterMap_content?_filter]

/-- **Respacing keeps the tokens.**  However the lexemes of a source, which may have errors, are
spaced out, the new text has no errors and gives tokens of the same kinds, lexemes and literals, in
order.  One space between lexemes is enough. -/
theorem respacing (s : Text) :
    (∀ t, Respaced ((Scanned.ofSource s).beforeEnd.map Token.lexeme) t →
        (Scanned.ofSource t).errors = [] ∧
          (Scanned.ofSource t).beforeEnd.map Token.content =
            (Scanned.ofSource s).beforeEnd.map Token.content) ∧
      (Scanned.ofSource
          (List.intercalate [' '] ((Scanned.ofSource s).beforeEnd.map Token.lexeme))).errors = [] ∧
      (Scanned.ofSource
          (List.intercalate [' '] ((Scanned.ofSource s).beforeEnd.map Token.lexeme))).beforeEnd.map
          Token.content =
        (Scanned.ofSource s).beforeEnd.map Token.content := by
  constructor
  · intro t h
    exact ofSource_of_respaced h
  · exact ofSource_of_respaced ⟨[], _, .nil, spaced_intercalate _, rfl⟩

/-- A string that holds slashes and two operators that would join, from a source with a stray
character and an open string, between comments that hold quotes and stray characters. -/
theorem respacing_comments :
    Respaced ((Scanned.ofSource "!@=\"//\"x\"".toList).beforeEnd.map Token.lexeme)
        "//\"@\n! //#\n=\t\"//\" x\r".toList ∧
      (Scanned.ofSource "//\"@\n! //#\n=\t\"//\" x\r".toList).errors = [] ∧
      (Scanned.ofSource "//\"@\n! //#\n=\t\"//\" x\r".toList).beforeEnd.map Token.content =
        (Scanned.ofSource "!@=\"//\"x\"".toList).beforeEnd.map Token.content := by
  have hlexemes : (Scanned.ofSource "!@=\"//\"x\"".toList).beforeEnd.map Token.lexeme =
      ["!".toList, "=".toList, "\"//\"".toList, "x".toList] := by
    decide +kernel
  have hrespaced : Respaced ((Scanned.ofSource "!@=\"//\"x\"".toList).beforeEnd.map Token.lexeme)
      "//\"@\n! //#\n=\t\"//\" x\r".toList := by
    rw [hlexemes]
    have hbad : '\n' ∉ "\"@".toList := by decide
    have hhash : '\n' ∉ "#".toList := by decide
    have hgap : Gap "//\"@\n".toList := .comment hbad .nil
    have hcomment : Separator " //#\n".toList := ⟨.blank rfl (.comment hhash .nil), _, _, rfl, rfl⟩
    have hblank : ∀ c, separates c = true → Separator [c] :=
      fun c hc => ⟨.blank hc .nil, c, [], hc, rfl⟩
    refine ⟨_, _, hgap, ?_, rfl⟩
    exact .cons hcomment (.cons (hblank '\t' rfl) (.cons (hblank ' ' rfl)
      (.cons (hblank '\r' rfl) .nil)))
  exact ⟨hrespaced, (respacing "!@=\"//\"x\"".toList).1 _ hrespaced⟩

end LoxTokens
