import LoxTokens.Number.Decimal
import LoxTokens.Proofs.Cutting

/-! # Texts of numbers

The general notation for numbers is an optional sign before one of three words, in capitals or not,
or before digits with at most one point and an optional power of ten (`NumberText`).  `numberValue?`
reads exactly the texts in this notation (`isSome_numberValue?_iff`).  The lexeme of a number in a
source is such a text, and it is read as the decimal that it shows (`numberValue?_number`). -/

namespace LoxTokens

/-! ### The notation -/

/-- One sign, or none. -/
def IsSign (t : Text) : Prop := t = [] ∨ t = ['+'] ∨ t = ['-']

/-- Digits, of which there is at least one. -/
def IsDigits (t : Text) : Prop := t ≠ [] ∧ ∀ c ∈ t, c.isDigit = true

/-- Digits with at most one point among them, and at least one digit. -/
inductive Mantissa : Text → Prop
  | whole {w : Text} : IsDigits w → Mantissa w
  | point {w f : Text} : (∀ c ∈ w, c.isDigit = true) → (∀ c ∈ f, c.isDigit = true) →
      w ≠ [] ∨ f ≠ [] → Mantissa (w ++ '.' :: f)

/-- A power of ten after its mark, or nothing. -/
inductive PowerPart : Text → Prop
  | none : PowerPart []
  | mark {c : Char} {s ds : Text} : c = 'e' ∨ c = 'E' → IsSign s → IsDigits ds →
      PowerPart (c :: (s ++ ds))

/-- The words for what is no finite number. -/
def numberWords : List Text := ["inf".toList, "infinity".toList, "nan".toList]

/-- A number without a sign. -/
inductive UnsignedText : Text → Prop
  | word {t : Text} : Text.lower t ∈ numberWords → UnsignedText t
  | decimal {m p : Text} : Mantissa m → PowerPart p → UnsignedText (m ++ p)

/-- A number in the general notation. -/
inductive NumberText : Text → Prop
  | signed {s t : Text} : IsSign s → UnsignedText t → NumberText (s ++ t)

variable {c : Char} {t p whole fraction tail : Text} {d : Decimal}

/-! ### The power of ten -/

/-- The decimal times the power of ten that stands after it. -/
def Decimal.scaled? (d : Decimal) : Text → Option Decimal
  | [] => some d
  | e :: power => if e = 'e' || e = 'E' then (signedValue? power).map d.shift else none

theorem isDigits_iff : (t ≠ [] && t.all Char.isDigit) = true ↔ IsDigits t := by
  rw [Bool.and_eq_true, decide_eq_true_eq, List.all_eq_true, IsDigits]

theorem isSome_signedValue?_iff :
    (signedValue? t).isSome ↔ ∃ s ds, IsSign s ∧ IsDigits ds ∧ t = s ++ ds := by
  have hsome : ∀ {ds : Text} {n : Int}, (if ds ≠ [] && ds.all Char.isDigit then some n
      else none).isSome ↔ IsDigits ds := by
    intro ds n
    rw [← isDigits_iff]
    split <;> simp_all
  constructor
  · intro h
    unfold signedValue? at h
    split at h
    next negative ds hmatch =>
      rw [hsome] at h
      split at hmatch
      next ds' => exact ⟨['+'], ds', .inr (.inl rfl), by simp_all⟩
      next ds' => exact ⟨['-'], ds', .inr (.inr rfl), by simp_all⟩
      next => exact ⟨[], t, .inl rfl, by simp_all⟩
  · rintro ⟨s, ds, rfl | rfl | rfl, hds, rfl⟩
    · obtain ⟨c, ds, rfl⟩ := List.exists_cons_of_ne_nil hds.1
      have hc := hds.2 c List.mem_cons_self
      have hplus : c ≠ '+' := by rintro rfl; cases hc
      have hminus : c ≠ '-' := by rintro rfl; cases hc
      simpa [signedValue?, hplus, hminus] using isDigits_iff.2 hds
    · exact hsome.2 hds
    · exact hsome.2 hds

/-- A decimal is scaled by what is a power part, and by nothing else. -/
theorem isSome_scaled?_iff : (d.scaled? p).isSome ↔ PowerPart p := by
  constructor
  · intro h
    cases p with
    | nil => exact .none
    | cons c p =>
        rw [Decimal.scaled?] at h
        split at h
        next hc =>
          rw [Option.isSome_map, isSome_signedValue?_iff] at h
          obtain ⟨s, ds, hs, hds, rfl⟩ := h
          exact .mark (by simpa using hc) hs hds
        next => cases h
  · intro h
    cases h with
    | none => rfl
    | @mark c s ds hc hs hds =>
        have hmark : (c = 'e' || c = 'E') = true := by simpa using hc
        rw [Decimal.scaled?, if_pos hmark, Option.isSome_map, isSome_signedValue?_iff]
        exact ⟨s, ds, hs, hds, rfl⟩

theorem PowerPart.head_ne (h : PowerPart p) : ∀ c ∈ p.head?, c.isDigit = false ∧ c ≠ '.' := by
  cases h with
  | none => simp
  | mark hc _ _ =>
      intro c' hc'
      obtain rfl := Option.some.inj hc'
      rcases hc with rfl | rfl <;> decide

theorem PowerPart.stopsAt (h : PowerPart p) : StopsAt Char.isDigit p :=
  fun c hc => (h.head_ne c hc).1

/-! ### Numbers without a sign -/

theorem magnitudeValue?_whole (hwhole : IsDigits whole) (htail : StopsAt Char.isDigit tail)
    (hpoint : tail.head? ≠ some '.') :
    magnitudeValue? (whole ++ tail) =
      ((Decimal.ofParts whole []).scaled? tail).map Decimal.round := by
  simp only [magnitudeValue?, takeWhile_append_of_stopsAt hwhole.2 htail,
    dropWhile_append_of_stopsAt hwhole.2 htail]
  split
  next => exact (hpoint rfl).elim
  next =>
    simp only [hwhole.1, decide_false, Bool.false_and, Bool.false_eq_true, if_false]
    cases tail with
    | nil => rfl
    | cons c tail =>
        simp only [Decimal.scaled?]
        split <;> simp [Option.map_map, Function.comp_def]

theorem magnitudeValue?_point (hwhole : ∀ c ∈ whole, c.isDigit = true)
    (hfraction : ∀ c ∈ fraction, c.isDigit = true) (hne : whole ≠ [] ∨ fraction ≠ [])
    (htail : StopsAt Char.isDigit tail) :
    magnitudeValue? (whole ++ '.' :: (fraction ++ tail)) =
      ((Decimal.ofParts whole fraction).scaled? tail).map Decimal.round := by
  have hpoint : StopsAt Char.isDigit ('.' :: (fraction ++ tail)) := stopsAt_cons.2 rfl
  have hdigits : (whole = [] && fraction = []) = false := by
    rw [Bool.and_eq_false_iff, decide_eq_false_iff_not, decide_eq_false_iff_not]
    exact hne
  simp only [magnitudeValue?, takeWhile_append_of_stopsAt hwhole hpoint,
    dropWhile_append_of_stopsAt hwhole hpoint, takeWhile_append_of_stopsAt hfraction htail,
    dropWhile_append_of_stopsAt hfraction htail, hdigits, Bool.false_eq_true, if_false]
  cases tail with
  | nil => rfl
  | cons c tail =>
      simp only [Decimal.scaled?]
      split <;> simp [Option.map_map, Function.comp_def]

theorem magnitudeValue?_of_no_digit (hwhole : t.takeWhile Char.isDigit = [])
    (hfraction : ∀ r, t = '.' :: r → r.takeWhile Char.isDigit = []) :
    (magnitudeValue? t).isSome ↔ Text.lower t ∈ numberWords := by
  have hdrop : t.dropWhile Char.isDigit = t := by
    have happend := List.takeWhile_append_dropWhile (p := Char.isDigit) (l := t)
    rwa [hwhole, List.nil_append] at happend
  have hwords : ((if ["inf".toList, "infinity".toList].contains (Text.lower t) then
      some infinityMagnitude else if Text.lower t = "nan".toList then
        some (infinityMagnitude + twoTo 51) else none).isSome) ↔ Text.lower t ∈ numberWords := by
    simp only [numberWords, List.contains_cons, List.contains_nil, Bool.or_false, Bool.or_eq_true,
      beq_iff_eq, List.mem_cons, List.not_mem_nil, or_false]
    split
    next h => exact iff_of_true rfl (or_assoc.1 (.inl h))
    next h =>
      split
      next h' => exact iff_of_true rfl (.inr (.inr h'))
      next h' => exact iff_of_false (by simp) fun hor => (or_assoc.2 hor).elim h h'
  simp only [magnitudeValue?, hwhole, hdrop]
  split
  next r =>
    simp only [hfraction r rfl, decide_true, Bool.and_self, if_true]
    exact hwords
  next =>
    simp only [decide_true, Bool.and_self, if_true]
    exact hwords

theorem no_digit_of_word (h : Text.lower t ∈ numberWords) :
    t.takeWhile Char.isDigit = [] ∧ t.head? ≠ some '.' := by
  have hdigit : ∀ {c : Char}, c.isDigit = true → c.toLower = c := by
    intro c hc
    simp only [Char.isDigit, Bool.and_eq_true, decide_eq_true_eq, UInt32.le_iff_toNat_le,
      ge_iff_le] at hc
    have h9 : '9'.val.toNat = 57 := rfl
    have hA : 'A'.val.toNat = 65 := rfl
    have hcapital : ¬ (c.val ≥ 'A'.val ∧ c.val ≤ 'Z'.val) := by
      simp only [UInt32.le_iff_toNat_le, ge_iff_le]
      omega
    exact dif_neg hcapital
  have hhead : ∀ c ∈ t.head?, c.toLower = 'i' ∨ c.toLower = 'n' := by
    intro c hc
    obtain ⟨r, rfl⟩ := List.head?_eq_some_iff.1 hc
    simp only [numberWords, Text.lower, List.map_cons, List.mem_cons, List.not_mem_nil,
      or_false] at h
    rcases h with h | h | h
    · exact .inl (List.cons.inj h).1
    · exact .inl (List.cons.inj h).1
    · exact .inr (List.cons.inj h).1
  constructor
  · cases t with
    | nil => rfl
    | cons c t =>
        have hc : c.isDigit = false := by
          by_contra hne
          have hlower := hdigit (Bool.not_eq_false _ ▸ hne)
          rcases hhead c rfl with h | h
          all_goals
            rw [hlower] at h
            subst h
            exact hne rfl
        simp [hc]
  · intro hpoint
    rcases hhead '.' hpoint with h | h <;> cases h

/-- The texts that are read as numbers without a sign. -/
theorem isSome_magnitudeValue?_iff : (magnitudeValue? t).isSome ↔ UnsignedText t := by
  constructor
  · intro h
    have hsplit := List.takeWhile_append_dropWhile (p := Char.isDigit) (l := t)
    have hwhole : ∀ c ∈ t.takeWhile Char.isDigit, c.isDigit = true :=
      fun c hc => List.mem_takeWhile_imp hc
    have hstop := stopsAt_dropWhile Char.isDigit t
    by_cases hpoint : (t.dropWhile Char.isDigit).head? = some '.'
    · obtain ⟨r, hr⟩ := List.head?_eq_some_iff.1 hpoint
      have hsplit' := List.takeWhile_append_dropWhile (p := Char.isDigit) (l := r)
      have hfraction : ∀ c ∈ r.takeWhile Char.isDigit, c.isDigit = true :=
        fun c hc => List.mem_takeWhile_imp hc
      by_cases hne : t.takeWhile Char.isDigit ≠ [] ∨ r.takeWhile Char.isDigit ≠ []
      · rw [← hsplit, hr, ← hsplit', magnitudeValue?_point hwhole hfraction hne
          (stopsAt_dropWhile _ _), Option.isSome_map, isSome_scaled?_iff] at h
        rw [← hsplit, hr, ← hsplit', ← List.cons_append, ← List.append_assoc]
        exact .decimal (.point hwhole hfraction hne) h
      · rw [not_or, not_not, not_not] at hne
        rw [hne.1, List.nil_append] at hsplit
        rw [magnitudeValue?_of_no_digit hne.1] at h
        · exact .word h
        · intro r' hr'
          rw [hr, hr'] at hsplit
          rw [← (List.cons.inj hsplit).2, hne.2]
    · by_cases hne : t.takeWhile Char.isDigit = []
      · rw [hne, List.nil_append] at hsplit
        rw [magnitudeValue?_of_no_digit hne] at h
        · exact .word h
        · rintro r rfl
          rw [hsplit] at hpoint
          exact (hpoint rfl).elim
      · rw [← hsplit, magnitudeValue?_whole ⟨hne, hwhole⟩ hstop hpoint, Option.isSome_map,
          isSome_scaled?_iff] at h
        rw [← hsplit]
        exact .decimal (.whole ⟨hne, hwhole⟩) h
  · intro h
    cases h with
    | word h =>
        obtain ⟨hwhole, hpoint⟩ := no_digit_of_word h
        refine (magnitudeValue?_of_no_digit hwhole ?_).2 h
        rintro r rfl
        exact (hpoint rfl).elim
    | decimal hm hp =>
        cases hm with
        | whole hw =>
            have hpoint : ∀ {q : Text}, PowerPart q → q.head? ≠ some '.' :=
              fun hq h => (hq.head_ne _ h).2 rfl
            rw [magnitudeValue?_whole hw hp.stopsAt (hpoint hp), Option.isSome_map,
              isSome_scaled?_iff]
            exact hp
        | point hw hf hne =>
            rw [List.append_assoc, List.cons_append, magnitudeValue?_point hw hf hne hp.stopsAt,
              Option.isSome_map, isSome_scaled?_iff]
            exact hp

/-! ### Numbers with their sign -/

theorem not_unsignedText_sign (hc : c = '+' ∨ c = '-') : ¬ UnsignedText (c :: t) := by
  intro h
  have hlower : c.toLower = c ∧ c.isDigit = false := by rcases hc with rfl | rfl <;> decide
  have hword : Text.lower (c :: t) ∈ numberWords := by
    rw [← isSome_magnitudeValue?_iff, magnitudeValue?_of_no_digit] at h
    · exact h
    · simp [hlower.2]
    · rintro r heq
      rcases hc with rfl | rfl <;> cases heq
  simp only [Text.lower, List.map_cons, hlower.1, numberWords, List.mem_cons, List.not_mem_nil,
    or_false] at hword
  rcases hc with rfl | rfl
  all_goals rcases hword with h | h | h <;> cases h

/-- **The texts that are read as numbers** are those in the general notation. -/
theorem isSome_numberValue?_iff : (numberValue? t).isSome ↔ NumberText t := by
  constructor
  · intro h
    unfold numberValue? at h
    split at h
    all_goals rw [Option.isSome_map, isSome_magnitudeValue?_iff] at h
    next t => exact .signed (s := ['-']) (.inr (.inr rfl)) h
    next t => exact .signed (s := ['+']) (.inr (.inl rfl)) h
    next => exact .signed (s := []) (.inl rfl) h
  · rintro ⟨rfl | rfl | rfl, h⟩
    · rw [List.nil_append]
      unfold numberValue?
      split
      next => exact (not_unsignedText_sign (.inr rfl) h).elim
      next => exact (not_unsignedText_sign (.inl rfl) h).elim
      next => rwa [Option.isSome_map, isSome_magnitudeValue?_iff]
    · exact (Option.isSome_map ..).trans (isSome_magnitudeValue?_iff.2 h)
    · exact (Option.isSome_map ..).trans (isSome_magnitudeValue?_iff.2 h)

theorem numberValue?_cons (hc : c.isDigit = true) :
    numberValue? (c :: t) = (magnitudeValue? (c :: t)).map (Binary64.ofMagnitude false) := by
  unfold numberValue?
  split
  next heq =>
    obtain rfl := (List.cons.inj heq).1
    cases hc
  next heq =>
    obtain rfl := (List.cons.inj heq).1
    cases hc
  next => rfl

/-! ### Number lexemes -/

/-- The lexeme of a number is read as the decimal it shows. -/
theorem numberValue?_number (h : (Segment.number whole fraction).WellFormed) :
    numberValue? (Segment.number whole fraction).text =
      some (.ofMagnitude false (Decimal.ofParts whole fraction).round) := by
  obtain ⟨hne, hwhole, hfraction⟩ := h
  have hread : magnitudeValue? (Segment.number whole fraction).text =
      some (Decimal.ofParts whole fraction).round := by
    cases fraction with
    | nil =>
        have hpoint : ([] : Text).head? ≠ some '.' := by simp
        have hvalue := magnitudeValue?_whole ⟨hne, hwhole⟩ stopsAt_nil hpoint
        rwa [List.append_nil] at hvalue
    | cons d ds =>
        have hvalue := magnitudeValue?_point hwhole hfraction (.inl hne) stopsAt_nil
        rwa [List.append_nil] at hvalue
  obtain ⟨c, ds, rfl⟩ := List.exists_cons_of_ne_nil hne
  have hc := hwhole c List.mem_cons_self
  obtain ⟨t, ht⟩ : ∃ t, (Segment.number (c :: ds) fraction).text = c :: t := by
    cases fraction <;> exact ⟨_, rfl⟩
  rw [ht] at hread ⊢
  rw [numberValue?_cons hc, hread]
  rfl

end LoxTokens
