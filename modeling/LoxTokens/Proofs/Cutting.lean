import LoxTokens.Proofs.Runs

/-! # The cutting of a text

`WellFormed` says what each kind of segment may hold, and `Complete` that a segment cannot go on
into the text after it.  A `Cutting` of a text is a list of well-formed segments that make up the
text, each one complete where it stands.  `Segment.cut` takes off such a segment (`fits_of_cut`), and
whichever one stands at the beginning of a text (`cut_append_of_fits`), so `Segment.ofText` is the
one cutting of a text (`cutting_iff`), and no well-formed segment at the same place is longer
(`length_text_le_of_cut`). -/

namespace LoxTokens

namespace Operator

/-- An operator is one character, or one of four characters with `=` after it. -/
theorem text_of_head? {o : Operator} {c : Char} (h : o.text.head? = some c) :
    o.text = [c] ∨ o.text = [c, '='] ∧ c ∈ ['!', '=', '<', '>'] := by
  cases o <;> simp_all [text] <;> subst h <;> simp

/-- The first character of an operator is an operator too. -/
theorem exists_text_eq_singleton {o : Operator} {c : Char} (h : o.text.head? = some c) :
    ∃ o' : Operator, o'.text = [c] := by
  rcases text_of_head? h with h | ⟨-, h⟩
  · exact ⟨o, h⟩
  · simp only [List.mem_cons, List.not_mem_nil, or_false] at h
    rcases h with rfl | rfl | rfl | rfl
    · exact ⟨.bang, rfl⟩
    · exact ⟨.equal, rfl⟩
    · exact ⟨.less, rfl⟩
    · exact ⟨.greater, rfl⟩

theorem exists_text_eq_cons (o : Operator) : ∃ c t, o.text = c :: t := by
  cases o <;> exact ⟨_, _, rfl⟩

/-- No operator begins like a segment of another kind, comments apart. -/
theorem class_of_head? {o : Operator} {c : Char} (h : o.text.head? = some c) :
    separates c = false ∧ c ≠ '"' ∧ c.isDigit = false ∧ beginsWord c = false := by
  cases o <;> simp only [text, List.head?_cons, Option.some.injEq] at h <;> subst h <;> decide

end Operator

namespace Segment

/-- The characters that segments other than stray ones begin with. -/
def Opens (c : Char) : Prop :=
  separates c = true ∨ c = '"' ∨ c.isDigit = true ∨ beginsWord c = true ∨
    ∃ o : Operator, o.text.head? = some c

/-- What each kind of segment may hold. -/
def WellFormed : Segment → Prop
  | blank c => separates c = true
  | comment body => '\n' ∉ body
  | string body => '"' ∉ body
  | number whole fraction =>
    whole ≠ [] ∧ (∀ d ∈ whole, d.isDigit = true) ∧ ∀ d ∈ fraction, d.isDigit = true
  | word [] => False
  | word (c :: t) => beginsWord c = true ∧ ∀ d ∈ t, continuesWord d = true
  | operator _ => True
  | stray c => ¬ Opens c
  | unterminated body => '"' ∉ body

/-- Whether a segment ends where it does because of the text after it. -/
def Complete : Segment → Text → Prop
  | blank _, _ => True
  | comment _, rest => StopsAt (· != '\n') rest
  | string _, _ => True
  | number _ [], rest =>
    StopsAt Char.isDigit rest ∧ ∀ d r, rest = '.' :: d :: r → d.isDigit = false
  | number _ (_ :: _), rest => StopsAt Char.isDigit rest
  | word _, rest => StopsAt continuesWord rest
  | operator o, rest =>
    (o ∈ [.bang, .equal, .less, .greater] → rest.head? ≠ some '=') ∧
      (o = .slash → rest.head? ≠ some '/')
  | stray _, _ => True
  | unterminated _, rest => rest = []

/-- A well-formed segment that is complete before `rest`. -/
structure Fits (s : Segment) (rest : Text) : Prop where
  wellFormed : s.WellFormed
  complete : s.Complete rest

variable {c : Char} {s s' : Segment} {t rest rest' : Text}

theorem complete_nil (s : Segment) : s.Complete [] := by
  cases s with
  | number whole fraction => cases fraction <;> simp [Complete, stopsAt_nil]
  | comment | word => exact stopsAt_nil
  | operator o => exact ⟨by simp, by simp⟩
  | _ => simp [Complete]

/-- What is complete before a text is complete before the text with a blank and more after it, but
a comment goes on to the next line feed and an open string to the end. -/
theorem Complete.append_separates (h : s.Complete rest) (hc : separates c = true)
    (hcomment : ∀ body, s = comment body → c = '\n') (hopen : ∀ body, s ≠ unterminated body)
    (t : Text) : s.Complete (rest ++ c :: t) := by
  have hdigit := isDigit_of_separates hc
  cases s with
  | blank | string | stray => trivial
  | comment body => exact StopsAt.append h (by simp [hcomment body rfl]) t
  | number whole fraction =>
      cases fraction with
      | cons d ds => exact StopsAt.append h hdigit t
      | nil =>
          refine ⟨h.1.append hdigit t, ?_⟩
          intro d r e
          -- the point or the digit after it may be the new blank, but neither is one
          rcases rest with _ | ⟨x, _ | ⟨y, rest⟩⟩
          · obtain rfl := (List.cons.inj e).1
            cases hc
          · obtain rfl := (List.cons.inj (List.cons.inj e).2).1
            exact hdigit
          · obtain rfl := (List.cons.inj e).1
            obtain rfl := (List.cons.inj (List.cons.inj e).2).1
            exact h.2 y rest rfl
  | word letters => exact StopsAt.append h (continuesWord_of_separates hc) t
  | operator o =>
      cases rest with
      | nil =>
          refine ⟨fun _ e => ?_, fun _ e => ?_⟩ <;>
            obtain rfl := Option.some.inj e <;> cases hc
      | cons d rest => exact h
  | unterminated body => exact (hopen body rfl).elim

/-! ### How a text is cut by its first character -/

theorem cut_of_separates (h : separates c = true) (t : Text) :
    cut (c :: t) = some (blank c, t) := by
  simp [cut, h]

theorem cut_quote (t : Text) : cut ('"' :: t) = some (cutString t) := rfl

theorem cut_of_isDigit (h : c.isDigit = true) (t : Text) :
    cut (c :: t) = some (cutNumber (c :: t)) := by
  have hq : c ≠ '"' := by rintro rfl; cases h
  simp [cut, h, hq, separates_of_isDigit h]

theorem cut_of_beginsWord (h : beginsWord c = true) (t : Text) :
    cut (c :: t) =
      some (word (c :: t.takeWhile continuesWord), t.dropWhile continuesWord) := by
  have hq : c ≠ '"' := by rintro rfl; cases h
  simp [cut, h, hq, separates_of_beginsWord h, isDigit_of_beginsWord h]

theorem cut_slashes (t : Text) :
    cut ('/' :: '/' :: t) = some (comment (t.takeWhile (· != '\n')), t.dropWhile (· != '\n')) :=
  rfl

theorem cut_of_not (hs : separates c = false) (hq : c ≠ '"') (hd : c.isDigit = false)
    (hw : beginsWord c = false) (hc : c = '/' → t.head? ≠ some '/') :
    cut (c :: t) = some (cutOperator c t) := by
  have hc' : ¬ (c = '/' ∧ t.head? = some '/') := fun h => hc h.1 h.2
  simp [cut, hs, hq, hd, hw, hc']

/-! ### What is cut off fits -/

theorem fits_cutNumber (h : c.isDigit = true) :
    (cutNumber (c :: t)).1.Fits (cutNumber (c :: t)).2 := by
  have hne : (c :: t).takeWhile Char.isDigit ≠ [] := by simp [h]
  have hall : ∀ d ∈ (c :: t).takeWhile Char.isDigit, d.isDigit = true :=
    fun d hd => List.mem_takeWhile_imp hd
  have hstop := stopsAt_dropWhile Char.isDigit (c :: t)
  unfold cutNumber
  split
  · rename_i r hr
    rw [hr] at hstop
    split
    · rename_i hnil
      refine ⟨⟨hne, hall, by simp⟩, hstop, ?_⟩
      intro d r' e
      obtain rfl := (List.cons.inj e).2
      by_contra hd
      simp [hd] at hnil
    · rename_i hcons
      refine ⟨⟨hne, hall, fun d hd => List.mem_takeWhile_imp hd⟩, ?_⟩
      obtain ⟨d, ds, e⟩ := List.exists_cons_of_ne_nil hcons
      rw [e]
      exact stopsAt_dropWhile _ _
  · rename_i hdot
    exact ⟨⟨hne, hall, by simp⟩, hstop, fun d r e => (hdot _ e).elim⟩

theorem fits_cutString (t : Text) : (cutString t).1.Fits (cutString t).2 := by
  unfold cutString
  split
  · rename_i hnil
    refine ⟨fun h => ?_, rfl⟩
    simpa using List.dropWhile_eq_nil_iff.1 hnil _ h
  · exact ⟨notMem_takeWhile_ne _ _, trivial⟩

/-- An operator that is cut off is the longest there, unless two slashes come first. -/
theorem fits_cutOperator (hs : separates c = false) (hq : c ≠ '"') (hd : c.isDigit = false)
    (hw : beginsWord c = false) (hc : c = '/' → t.head? ≠ some '/') :
    (cutOperator c t).1.Fits (cutOperator c t).2 := by
  unfold cutOperator
  split
  · rename_i o ho
    rw [Operator.ofText?_eq_some_iff] at ho
    cases t with
    | nil => exact ⟨trivial, by simp [Complete]⟩
    | cons d r =>
        refine ⟨trivial, ?_⟩
        cases o <;> simp_all [Complete, Operator.text]
  · rename_i hnone
    split
    · rename_i o ho
      rw [Operator.ofText?_eq_some_iff] at ho
      refine ⟨trivial, fun hmem hhead => ?_, ?_⟩
      · obtain ⟨r, rfl⟩ := List.head?_eq_some_iff.1 hhead
        revert hnone
        cases o <;> simp_all [Operator.text] <;> subst ho <;> decide
      · rintro rfl
        exact hc (by simpa [Operator.text] using ho.symm)
    · rename_i hnone'
      refine ⟨?_, trivial⟩
      rintro (h | h | h | h | ⟨o, ho⟩)
      · simp [hs] at h
      · exact hq h
      · simp [hd] at h
      · simp [hw] at h
      · obtain ⟨o', ho'⟩ := Operator.exists_text_eq_singleton ho
        rw [Operator.ofText?_eq_some_iff.2 ho'] at hnone'
        cases hnone'

theorem fits_of_cut (h : cut t = some (s, rest)) : s.Fits rest := by
  cases t with
  | nil => cases h
  | cons c t =>
      by_cases hs : separates c = true
      · rw [cut_of_separates hs] at h
        obtain ⟨rfl, rfl⟩ := Prod.mk.inj (Option.some.inj h)
        exact ⟨hs, trivial⟩
      by_cases hq : c = '"'
      · subst hq
        rw [cut_quote] at h
        have hf := fits_cutString t
        rwa [Option.some.inj h] at hf
      by_cases hd : c.isDigit = true
      · rw [cut_of_isDigit hd] at h
        have hf := fits_cutNumber (t := t) hd
        rwa [Option.some.inj h] at hf
      by_cases hw : beginsWord c = true
      · rw [cut_of_beginsWord hw] at h
        obtain ⟨rfl, rfl⟩ := Prod.mk.inj (Option.some.inj h)
        exact ⟨⟨hw, fun d hd => List.mem_takeWhile_imp hd⟩, stopsAt_dropWhile _ _⟩
      by_cases hc : c = '/' ∧ t.head? = some '/'
      · obtain ⟨rfl, hhead⟩ := hc
        obtain ⟨r, rfl⟩ := List.head?_eq_some_iff.1 hhead
        rw [cut_slashes] at h
        obtain ⟨rfl, rfl⟩ := Prod.mk.inj (Option.some.inj h)
        exact ⟨notMem_takeWhile_ne _ _, stopsAt_dropWhile _ _⟩
      · rw [Bool.not_eq_true] at hs hd hw
        have hc' : c = '/' → t.head? ≠ some '/' := fun h₁ h₂ => hc ⟨h₁, h₂⟩
        rw [cut_of_not hs hq hd hw hc'] at h
        have hf := fits_cutOperator hs hq hd hw hc'
        rwa [Option.some.inj h] at hf

/-! ### What fits is cut off -/

theorem cutNumber_append_of_fits {whole fraction : Text} (h : (number whole fraction).Fits rest) :
    cutNumber ((number whole fraction).text ++ rest) = (number whole fraction, rest) := by
  obtain ⟨⟨-, hwhole, hfraction⟩, hcomplete⟩ := h
  cases fraction with
  | nil =>
      obtain ⟨hstop, hdot⟩ := hcomplete
      simp only [cutNumber, text, takeWhile_append_of_stopsAt hwhole hstop,
        dropWhile_append_of_stopsAt hwhole hstop]
      split
      · rename_i r
        have hr : r.takeWhile Char.isDigit = [] := by
          cases r with
          | nil => rfl
          | cons d r => simp [hdot d r rfl]
        rw [if_pos hr]
      · rfl
  | cons d ds =>
      have hstop : StopsAt Char.isDigit ('.' :: (d :: ds ++ rest)) := stopsAt_cons.2 rfl
      have e : (number whole (d :: ds)).text ++ rest = whole ++ '.' :: (d :: ds ++ rest) := by
        simp [text]
      simp only [cutNumber, e, takeWhile_append_of_stopsAt hwhole hstop,
        dropWhile_append_of_stopsAt hwhole hstop, takeWhile_append_of_stopsAt hfraction hcomplete,
        dropWhile_append_of_stopsAt hfraction hcomplete]
      rw [if_neg (List.cons_ne_nil d ds)]

theorem cut_number_append {whole fraction : Text} (h : (number whole fraction).WellFormed)
    (t : Text) :
    cut ((number whole fraction).text ++ t) =
      some (cutNumber ((number whole fraction).text ++ t)) := by
  obtain ⟨d, ds, rfl⟩ := List.exists_cons_of_ne_nil h.1
  have hd : d.isDigit = true := h.2.1 d (by simp)
  cases fraction <;> exact cut_of_isDigit hd _

theorem cutOperator_append_of_fits {o : Operator} (h : (operator o).Fits rest)
    (ht : o.text = c :: t) : cutOperator c (t ++ rest) = (operator o, rest) := by
  have hhead : o.text.head? = some c := by rw [ht]; rfl
  rcases Operator.text_of_head? hhead with hone | ⟨htwo, -⟩
  · obtain rfl : t = [] := by simpa [ht] using hone
    have ho : Operator.ofText? [c] = some o := Operator.ofText?_eq_some_iff.2 ht
    cases rest with
    | nil => simp [cutOperator, ho]
    | cons d r =>
        have hnone : Operator.ofText? [c, d] = none := by
          by_contra hsome
          obtain ⟨o', ho'⟩ := Option.ne_none_iff_exists'.1 hsome
          rw [Operator.ofText?_eq_some_iff] at ho'
          rcases Operator.text_of_head? (o := o') (c := c) (by rw [ho']; rfl) with e | ⟨e, hc⟩
          · simp [ho'] at e
          · have hd : d = '=' := by simpa [ho'] using e
            have hmem : o ∈ [.bang, .equal, .less, .greater] := by
              cases o <;> simp_all [Operator.text] <;> subst ht <;> simp at hc
            exact h.complete.1 hmem (by simp [hd])
        simp [cutOperator, hnone, ho]
  · obtain rfl : t = ['='] := by simpa [ht] using htwo
    have ho : Operator.ofText? [c, '='] = some o := Operator.ofText?_eq_some_iff.2 ht
    simp [cutOperator, ho]

theorem cutOperator_of_forall (h : ∀ o : Operator, o.text.head? ≠ some c) (t : Text) :
    cutOperator c t = (stray c, t) := by
  have hnone : ∀ r, Operator.ofText? (c :: r) = none := by
    intro r
    by_contra hsome
    obtain ⟨o, ho⟩ := Option.ne_none_iff_exists'.1 hsome
    rw [Operator.ofText?_eq_some_iff] at ho
    exact h o (by rw [ho]; rfl)
  simp [cutOperator, hnone]

/-- A segment that fits before `rest` is cut off there. -/
theorem cut_append_of_fits (h : s.Fits rest) : cut (s.text ++ rest) = some (s, rest) := by
  obtain ⟨hw, hc⟩ := h
  cases s with
  | blank c => exact cut_of_separates hw rest
  | comment body =>
      have hbody := ne_of_notMem hw
      show cut ('/' :: '/' :: (body ++ rest)) = _
      rw [cut_slashes, takeWhile_append_of_stopsAt hbody hc, dropWhile_append_of_stopsAt hbody hc]
  | string body =>
      have hbody := ne_of_notMem hw
      have hstop : StopsAt (· != '"') ('"' :: rest) := stopsAt_cons.2 rfl
      have e : (string body).text ++ rest = '"' :: (body ++ '"' :: rest) := by simp [text]
      rw [e, cut_quote]
      simp only [cutString, takeWhile_append_of_stopsAt hbody hstop,
        dropWhile_append_of_stopsAt hbody hstop]
  | number whole fraction =>
      rw [cut_number_append hw, cutNumber_append_of_fits ⟨hw, hc⟩]
  | word letters =>
      cases letters with
      | nil => exact hw.elim
      | cons c letters =>
          show cut (c :: (letters ++ rest)) = _
          rw [cut_of_beginsWord hw.1, takeWhile_append_of_stopsAt hw.2 hc,
            dropWhile_append_of_stopsAt hw.2 hc]
  | operator o =>
      obtain ⟨c, t, ht⟩ := o.exists_text_eq_cons
      obtain ⟨hs, hq, hd, hb⟩ := Operator.class_of_head? (o := o) (c := c) (by rw [ht]; rfl)
      have hslash : c = '/' → (t ++ rest).head? ≠ some '/' := by
        rintro rfl
        obtain rfl : o = .slash := by cases o <;> simp_all [Operator.text]
        obtain rfl : t = [] := by simpa [Operator.text] using ht.symm
        exact hc.2 rfl
      show cut (o.text ++ rest) = _
      rw [ht, List.cons_append, cut_of_not hs hq hd hb hslash,
        cutOperator_append_of_fits ⟨hw, hc⟩ ht]
  | stray c =>
      simp only [WellFormed, Opens, not_or, Bool.not_eq_true, not_exists] at hw
      obtain ⟨hs, hq, hd, hb, ho⟩ := hw
      have hslash : c = '/' → rest.head? ≠ some '/' := by
        rintro rfl
        exact (ho .slash rfl).elim
      show cut (c :: rest) = _
      rw [cut_of_not hs hq hd hb hslash, cutOperator_of_forall ho]
  | unterminated body =>
      obtain rfl : rest = [] := hc
      have hnil : body.dropWhile (· != '"') = [] := List.dropWhile_eq_nil_iff.2 (ne_of_notMem hw)
      show cut ('"' :: (body ++ [])) = _
      rw [List.append_nil, cut_quote]
      simp [cutString, hnil]

/-! ### What is cut off is the longest -/

theorem length_le_takeWhile {p : Char → Bool} {w : Text} (hw : ∀ c ∈ w, p c = true) (t : Text) :
    w.length ≤ ((w ++ t).takeWhile p).length := by
  rw [List.takeWhile_append_of_pos hw, List.length_append]
  omega

theorem length_text_cutString {body : Text} (h : '"' ∉ body) (t : Text) :
    (unterminated body).text.length ≤ (cutString (body ++ t)).1.text.length := by
  have hle := length_le_takeWhile (ne_of_notMem h) t
  unfold cutString
  split
  · simp [text]
  · simp only [text, List.length_cons, List.length_append]
    omega

theorem length_text_number (whole : Text) {fraction : Text} (h : fraction ≠ []) :
    (number whole fraction).text.length = whole.length + (fraction.length + 1) := by
  obtain ⟨d, ds, rfl⟩ := List.exists_cons_of_ne_nil h
  simp [text]

theorem length_text_cutNumber {whole fraction : Text} (h : (number whole fraction).WellFormed)
    (t : Text) :
    (number whole fraction).text.length ≤
      (cutNumber ((number whole fraction).text ++ t)).1.text.length := by
  obtain ⟨-, hwhole, hfraction⟩ := h
  cases fraction with
  | nil =>
      have hle := length_le_takeWhile hwhole t
      show whole.length ≤ (cutNumber (whole ++ t)).1.text.length
      unfold cutNumber
      split
      · split
        · exact hle
        · rename_i hne
          rw [length_text_number _ hne]
          omega
      · exact hle
  | cons d ds =>
      have hle := length_le_takeWhile hfraction t
      have hne : (d :: ds ++ t).takeWhile Char.isDigit ≠ [] := by
        rw [← List.length_pos_iff]
        exact Nat.lt_of_lt_of_le (by simp) hle
      have hstop : StopsAt Char.isDigit ('.' :: (d :: ds ++ t)) := stopsAt_cons.2 rfl
      have e : (number whole (d :: ds)).text ++ t = whole ++ '.' :: (d :: ds ++ t) := by
        simp [text]
      simp only [cutNumber, e, takeWhile_append_of_stopsAt hwhole hstop,
        dropWhile_append_of_stopsAt hwhole hstop]
      rw [if_neg hne, length_text_number _ hne, length_text_number _ (List.cons_ne_nil d ds)]
      omega

/-- No well-formed segment that begins a text is longer than the one `cut` takes off. -/
theorem length_text_le_of_cut (h : cut (s'.text ++ rest') = some (s, rest)) (hw : s'.WellFormed) :
    s'.text.length ≤ s.text.length := by
  have hpos : 1 ≤ s.text.length := List.length_pos_iff.2 (text_ne_nil_of_cut h)
  have hfit : s'.Complete rest' → s'.text.length ≤ s.text.length := by
    intro hc
    rw [cut_append_of_fits ⟨hw, hc⟩] at h
    rw [(Prod.mk.inj (Option.some.inj h)).1]
  cases s' with
  | blank c => exact hpos
  | stray c => exact hpos
  | string body => exact hfit trivial
  | comment body =>
      replace h : cut ('/' :: '/' :: (body ++ rest')) = some (s, rest) := h
      have hle := length_le_takeWhile (ne_of_notMem hw) rest'
      rw [cut_slashes] at h
      rw [← (Prod.mk.inj (Option.some.inj h)).1]
      simp only [text, List.length_cons]
      omega
  | number whole fraction =>
      have hle := length_text_cutNumber hw rest'
      rw [cut_number_append hw] at h
      rwa [Option.some.inj h] at hle
  | word letters =>
      cases letters with
      | nil => exact hw.elim
      | cons c letters =>
          replace h : cut (c :: (letters ++ rest')) = some (s, rest) := h
          have hle := length_le_takeWhile hw.2 rest'
          rw [cut_of_beginsWord hw.1] at h
          rw [← (Prod.mk.inj (Option.some.inj h)).1]
          simp only [text, List.length_cons]
          omega
  | operator o =>
      obtain ⟨c, t, ht⟩ := o.exists_text_eq_cons
      rcases Operator.text_of_head? (o := o) (c := c) (by rw [ht]; rfl) with e | ⟨e, -⟩
      · have hone : (operator o).text.length = 1 := congrArg List.length e
        omega
      · refine hfit ⟨fun hmem => ?_, ?_⟩
        · cases o <;> simp_all [Operator.text]
        · rintro rfl
          simp [Operator.text] at e
  | unterminated body =>
      replace h : cut ('"' :: (body ++ rest')) = some (s, rest) := h
      have hle := length_text_cutString hw rest'
      rw [cut_quote] at h
      rwa [Option.some.inj h] at hle

/-! ### Cuttings -/

/-- A list of segments that make up a text, each well-formed and complete where it stands. -/
inductive Cutting : List Segment → Text → Prop
  | nil : Cutting [] []
  | cons {s : Segment} {ss : List Segment} {rest : Text} :
      s.Fits rest → Cutting ss rest → Cutting (s :: ss) (s.text ++ rest)

/-- No well-formed segment that begins where `s` does is longer. -/
def Longest (s : Segment) (rest : Text) : Prop :=
  ∀ (s' : Segment) (rest' : Text), s'.WellFormed → s'.text ++ rest' = s.text ++ rest →
    s'.text.length ≤ s.text.length

theorem Fits.longest (h : s.Fits rest) : s.Longest rest := by
  intro s' rest' hw e
  have hcut := cut_append_of_fits h
  rw [← e] at hcut
  exact length_text_le_of_cut hcut hw

variable {ss ss' : List Segment}

theorem Cutting.flatMap_text (h : Cutting ss t) : ss.flatMap text = t := by
  induction h with
  | nil => rfl
  | cons _ _ ih => rw [List.flatMap_cons, ih]

theorem Cutting.fits (h : Cutting (ss ++ s :: ss') t) : s.Fits (ss'.flatMap text) := by
  induction ss generalizing t with
  | nil =>
      cases h with
      | cons hs hss => rwa [hss.flatMap_text]
  | cons s₀ ss ih =>
      cases h with
      | cons _ hss => exact ih hss

theorem Cutting.wellFormed (h : Cutting ss t) (hs : s ∈ ss) : s.WellFormed := by
  obtain ⟨before, after, rfl⟩ := List.append_of_mem hs
  exact h.fits.wellFormed

theorem ofText_nil : ofText [] = [] := by
  rw [ofText]
  rfl

theorem ofText_of_cut (h : cut t = some (s, rest)) : ofText t = s :: ofText rest := by
  rw [ofText]
  split
  · rename_i hnone
    rw [hnone] at h
    cases h
  · rename_i s₀ rest₀ hsome
    rw [hsome] at h
    obtain ⟨rfl, rfl⟩ := Prod.mk.inj (Option.some.inj h)
    rfl

theorem Cutting.text_ne_nil (h : Cutting ss t) : ∀ s ∈ ss, s.text ≠ [] := by
  induction h with
  | nil => simp
  | cons hs _ ih =>
      intro s hmem
      rcases List.mem_cons.1 hmem with rfl | hmem
      · exact text_ne_nil_of_cut (cut_append_of_fits hs)
      · exact ih s hmem

theorem cutting_ofText (t : Text) : Cutting (ofText t) t := by
  fun_induction ofText t with
  | case1 t h =>
      cases t with
      | nil => exact .nil
      | cons c t => simp [cut] at h
  | case2 t s rest h _ ih =>
      rw [← text_append_of_cut h]
      exact .cons (fits_of_cut h) ih

/-- **A text has one cutting**, and `ofText` gives it. -/
theorem cutting_iff : Cutting ss t ↔ ofText t = ss := by
  constructor
  · intro h
    induction h with
    | nil => exact ofText_nil
    | cons hs _ ih => rw [ofText_of_cut (cut_append_of_fits hs), ih]
  · rintro rfl
    exact cutting_ofText t

end Segment
end LoxTokens
