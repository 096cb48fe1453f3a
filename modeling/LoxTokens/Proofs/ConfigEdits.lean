import LoxTokens.Proofs.ConfigSettings

/-! # Changes that no setting notices

Keys come in any order, and what a document says beside the settings does not count.  `Edited` relates
documents that differ in such ways only: in the order of keys, wherever they stand, and in keys, tables
and items that are no settings.  Every such change keeps what is set (`Edited.same`), and so the
configuration (`ofToml_settings`). -/

namespace LoxTokens

open Toml

variable {k : Text} {v w : Value} {es es' entries : List (Text × Value)}
  {items : List Value}

/-! ### The order of keys -/

/-- Values that differ in the order of keys only, in any table within them. -/
inductive Toml.Value.Reordered : Value → Value → Prop where
  | refl (v : Value) : Reordered v v
  | trans {u v w : Value} (h : Reordered u v) (h' : Reordered v w) : Reordered u w
  | keys {es es' : List (Text × Value)} (h : es.Perm es') : Reordered (.table es) (.table es')
  | entry {v w : Value} (before : List (Text × Value)) (k : Text) (after : List (Text × Value))
      (h : Reordered v w) :
      Reordered (.table (before ++ (k, v) :: after)) (.table (before ++ (k, w) :: after))
  | item {v w : Value} (before after : List Value) (h : Reordered v w) :
      Reordered (.array (before ++ v :: after)) (.array (before ++ w :: after))

namespace Toml.Value.Reordered

theorem symm (h : Reordered v w) : Reordered w v := by
  induction h with
  | refl v => exact .refl v
  | trans _ _ ih ih' => exact .trans ih' ih
  | keys h => exact .keys h.symm
  | entry before k after _ ih => exact .entry before k after ih
  | item before after _ ih => exact .item before after ih

theorem exists_table (h : Reordered (.table es) w) : ∃ es', w = .table es' ∧
    es'.length = es.length ∧ ∀ k v, (k, v) ∈ es → ∃ v', (k, v') ∈ es' ∧ Reordered v v' := by
  generalize hv : Value.table es = v at h
  induction h generalizing es with
  | refl v =>
      cases hv
      exact ⟨es, rfl, rfl, fun k v hv => ⟨v, hv, .refl v⟩⟩
  | trans _ _ ih ih' =>
      obtain ⟨middle, rfl, hlength, hmiddle⟩ := ih hv
      obtain ⟨es', rfl, hlength', hes'⟩ := ih' rfl
      refine ⟨es', rfl, hlength'.trans hlength, ?_⟩
      intro k v hv
      obtain ⟨v', hv', h⟩ := hmiddle k v hv
      obtain ⟨v'', hv'', h'⟩ := hes' k v' hv'
      exact ⟨v'', hv'', h.trans h'⟩
  | keys h =>
      cases hv
      exact ⟨_, rfl, h.length_eq.symm, fun k v hv => ⟨v, h.subset hv, .refl v⟩⟩
  | @entry v w before k after h _ =>
      cases hv
      refine ⟨_, rfl, by simp, ?_⟩
      intro k' v' hv'
      simp only [List.mem_append, List.mem_cons, Prod.mk.injEq] at hv' ⊢
      obtain hv' | ⟨rfl, rfl⟩ | hv' := hv'
      · exact ⟨v', .inl hv', .refl v'⟩
      · exact ⟨w, .inr (.inl ⟨rfl, rfl⟩), h⟩
      · exact ⟨v', .inr (.inr hv'), .refl v'⟩
  | item => cases hv

theorem exists_array (h : Reordered (.array items) w) : ∃ items' : List Value, w = .array items' ∧
    items'.length = items.length ∧
      ∀ (i : Nat) (v : Value), items[i]? = some v → ∃ v', items'[i]? = some v' ∧ Reordered v v' := by
  generalize hv : Value.array items = v at h
  induction h generalizing items with
  | refl v =>
      cases hv
      exact ⟨items, rfl, rfl, fun i v hv => ⟨v, hv, .refl v⟩⟩
  | trans _ _ ih ih' =>
      obtain ⟨middle, rfl, hlength, hmiddle⟩ := ih hv
      obtain ⟨items', rfl, hlength', hitems'⟩ := ih' rfl
      refine ⟨items', rfl, hlength'.trans hlength, ?_⟩
      intro i v hv
      obtain ⟨v', hv', h⟩ := hmiddle i v hv
      obtain ⟨v'', hv'', h'⟩ := hitems' i v' hv'
      exact ⟨v'', hv'', h.trans h'⟩
  | keys => cases hv
  | entry => cases hv
  | @item v w before after h _ =>
      cases hv
      refine ⟨_, rfl, by simp, ?_⟩
      intro i v' hv'
      obtain hi | hi := Nat.lt_or_ge i before.length
      · rw [List.getElem?_append_left hi] at hv' ⊢
        exact ⟨v', hv', .refl v'⟩
      · rw [List.getElem?_append_right hi] at hv' ⊢
        cases hplace : i - before.length with
        | zero =>
            rw [hplace] at hv'
            cases hv'
            exact ⟨w, rfl, h⟩
        | succ j =>
            rw [hplace] at hv'
            exact ⟨v', hv', .refl v'⟩

theorem eq_of_not_isSection (hv : ¬ Config.IsSection v) (h : Reordered v w) : w = v := by
  induction h with
  | refl => rfl
  | trans _ _ ih ih' =>
      obtain rfl := ih hv
      exact ih' hv
  | keys h => exact absurd (.inl ⟨_, rfl⟩) hv
  | entry => exact absurd (.inl ⟨_, rfl⟩) hv
  | item => exact absurd (.inr ⟨_, rfl⟩) hv

theorem exists_mem (h : Reordered (.table es) (.table es')) (hv : (k, v) ∈ es) :
    ∃ v', (k, v') ∈ es' ∧ Reordered v v' := by
  obtain ⟨_, htable, -, hes'⟩ := h.exists_table
  cases htable
  exact hes' k v hv

theorem eq_nil_table (h : Reordered (.table []) w) : w = .table [] := by
  obtain ⟨es', rfl, hlength, -⟩ := h.exists_table
  rw [List.eq_nil_of_length_eq_zero hlength]

theorem eq_nil_array (h : Reordered (.array []) w) : w = .array [] := by
  obtain ⟨items', rfl, hlength, -⟩ := h.exists_array
  rw [List.eq_nil_of_length_eq_zero hlength]

theorem exists_singleton (h : Reordered (.table [(k, v)]) w) :
    ∃ v', w = .table [(k, v')] ∧ Reordered v v' := by
  obtain ⟨es', rfl, hlength, hes'⟩ := h.exists_table
  obtain ⟨e, rfl⟩ := List.length_eq_one_iff.1 hlength
  obtain ⟨v', hmem, hv'⟩ := hes' k v List.mem_cons_self
  obtain rfl := List.mem_singleton.1 hmem
  exact ⟨v', rfl, hv'⟩

theorem mem_of_not_isSection (h : Reordered (.table es) (.table es'))
    (hsection : ¬ Config.IsSection v) (hv : (k, v) ∈ es) : (k, v) ∈ es' := by
  obtain ⟨v', hv', hvv'⟩ := h.exists_mem hv
  rwa [hvv'.eq_of_not_isSection hsection] at hv'

end Toml.Value.Reordered

/-! ### What is said about a setting -/

namespace Config

variable {name : Text} {c : Config} {s : Setting}

theorem Spells.reordered (h : v.Reordered w) (hv : Spells name v) : Spells name w := by
  obtain rfl | rfl | rfl := hv
  · exact .inl (h.eq_of_not_isSection (by simp [IsSection]))
  · obtain ⟨v', rfl, hv'⟩ := h.exists_singleton
    obtain rfl := hv'.eq_nil_table
    exact .inr (.inl rfl)
  · obtain ⟨v', rfl, hv'⟩ := h.exists_singleton
    obtain rfl := hv'.eq_nil_array
    exact .inr (.inr rfl)

theorem Setting.Shows.reordered (h : v.Reordered w) (hv : s.Shows v c) : s.Shows w c := by
  cases s with
  | prompt =>
      obtain rfl := hv
      exact h.eq_of_not_isSection (by simp [IsSection])
  | historySize =>
      obtain rfl := hv
      exact h.eq_of_not_isSection (by simp [IsSection])
  | historyFile =>
      obtain ⟨f, rfl, hf⟩ := hv
      exact ⟨f, h.eq_of_not_isSection (by simp [IsSection]), hf⟩
  | format => exact Spells.reordered h hv
  | level => exact Spells.reordered h hv

theorem Setting.Holds.reordered {part part' : Value} (h : part.Reordered part')
    (hv : s.Holds part v) : ∃ v', s.Holds part' v' ∧ v.Reordered v' := by
  cases hv with
  | key hv =>
      obtain ⟨es', rfl, -, hes'⟩ := h.exists_table
      obtain ⟨v', hv', hvv'⟩ := hes' _ v hv
      exact ⟨v', .key hv', hvv'⟩
  | place hv =>
      obtain ⟨items', rfl, -, hitems'⟩ := h.exists_array
      obtain ⟨v', hv', hvv'⟩ := hitems' _ v hv
      exact ⟨v', .place hv', hvv'⟩

theorem Setting.SetTo.reordered (h : (Value.table es).Reordered (.table es')) (hv : s.SetTo es v) :
    ∃ v', s.SetTo es' v' ∧ v.Reordered v' := by
  obtain ⟨part, hpart, hv⟩ := hv
  obtain ⟨part', hpart', hparts⟩ := h.exists_mem hpart
  obtain ⟨v', hv', hvv'⟩ := hv.reordered hparts
  exact ⟨v', ⟨part', hpart', hv'⟩, hvv'⟩

/-- Changes of a document that touch no setting. -/
inductive Edited : List (Text × Value) → List (Text × Value) → Prop where
  | symm {es es' : List (Text × Value)} (h : Edited es es') : Edited es' es
  | trans {es middle es' : List (Text × Value)} (h : Edited es middle) (h' : Edited middle es') :
      Edited es es'
  | reordered {es es' : List (Text × Value)} (h : (Value.table es).Reordered (.table es')) :
      Edited es es'
  /-- A key or a table of its own. -/
  | other {name : Text} (before : List (Text × Value)) (v : Value) (after : List (Text × Value))
      (h : name ∉ sectionNames) : Edited (before ++ after) (before ++ (name, v) :: after)
  /-- A section in which nothing is set. -/
  | empty {name : Text} (before after : List (Text × Value)) (h : name ∈ sectionNames) :
      Edited (before ++ after) (before ++ (name, .table []) :: after)
  /-- A key or a table within a section. -/
  | within {name k : Text} (before first : List (Text × Value)) (v : Value)
      (last after : List (Text × Value))
      (h : ∀ setting : Setting, setting.sectionName = name → setting.key ≠ k) :
      Edited (before ++ (name, .table (first ++ last)) :: after)
        (before ++ (name, .table (first ++ (k, v) :: last)) :: after)
  /-- Items behind those that are settings. -/
  | behind {name : Text} (before : List (Text × Value)) (items more : List Value)
      (after : List (Text × Value))
      (h : ∀ setting : Setting, setting.sectionName = name → setting.position < items.length) :
      Edited (before ++ (name, .array items) :: after)
        (before ++ (name, .array (items ++ more)) :: after)

/-- Both documents set the same settings to the same values, up to the order of keys, and the sections
that have no shape of a section are the same. -/
structure Same (es es' : List (Text × Value)) : Prop where
  sections : ∀ name ∈ sectionNames, ∀ v, ¬ IsSection v → ((name, v) ∈ es ↔ (name, v) ∈ es')
  forth : ∀ (setting : Setting) (v : Value), setting.SetTo es v →
    ∃ v', setting.SetTo es' v' ∧ v.Reordered v'
  back : ∀ (setting : Setting) (v' : Value), setting.SetTo es' v' →
    ∃ v, setting.SetTo es v ∧ v'.Reordered v

theorem Same.symm (h : Same es es') : Same es' es :=
  ⟨fun name hname v hv => (h.sections name hname v hv).symm, h.back, h.forth⟩

theorem Same.trans {middle : List (Text × Value)} (h : Same es middle) (h' : Same middle es') :
    Same es es' := by
  have hforth {es middle es' : List (Text × Value)} (h : Same es middle) (h' : Same middle es')
      (setting : Setting) (v : Value) (hv : setting.SetTo es v) :
      ∃ v', setting.SetTo es' v' ∧ v.Reordered v' := by
    obtain ⟨w, hw, hvw⟩ := h.forth setting v hv
    obtain ⟨v', hv', hwv'⟩ := h'.forth setting w hw
    exact ⟨v', hv', hvw.trans hwv'⟩
  refine ⟨?_, hforth h h', hforth h'.symm h.symm⟩
  exact fun name hname v hv => (h.sections name hname v hv).trans (h'.sections name hname v hv)

/-- Documents with the same sections that are none, and the same settings. -/
theorem Same.of_iff
    (hsections : ∀ name ∈ sectionNames, ∀ v, ¬ IsSection v → ((name, v) ∈ es ↔ (name, v) ∈ es'))
    (hset : ∀ (setting : Setting) (v : Value), setting.SetTo es v ↔ setting.SetTo es' v) :
    Same es es' :=
  ⟨hsections, fun setting v hv => ⟨v, (hset setting v).1 hv, .refl v⟩,
    fun setting v hv => ⟨v, (hset setting v).2 hv, .refl v⟩⟩

theorem Same.of_reordered (h : (Value.table es).Reordered (.table es')) : Same es es' := by
  refine ⟨?_, fun _ _ hv => hv.reordered h, fun _ _ hv => hv.reordered h.symm⟩
  exact fun name _ v hv => ⟨h.mem_of_not_isSection hv, h.symm.mem_of_not_isSection hv⟩

theorem Setting.setTo_append (es es' : List (Text × Value)) :
    s.SetTo (es ++ es') v ↔ s.SetTo es v ∨ s.SetTo es' v := by
  simp only [SetTo, List.mem_append, or_and_right, exists_or]

theorem Setting.setTo_cons (part : Value) (es : List (Text × Value)) :
    s.SetTo ((name, part) :: es) v ↔
      s.sectionName = name ∧ s.Holds part v ∨ s.SetTo es v := by
  simp only [SetTo, List.mem_cons, Prod.mk.injEq, or_and_right, exists_or, and_assoc,
    exists_and_left, exists_eq_left]

theorem Same.of_insert {part : Value} (before after : List (Text × Value))
    (hsection : name ∈ sectionNames → IsSection part)
    (h : ∀ (setting : Setting) (v : Value), setting.sectionName = name → ¬ setting.Holds part v) :
    Same (before ++ after) (before ++ (name, part) :: after) := by
  apply Same.of_iff
  · intro name' hname' v hv
    have hne : ¬ (name' = name ∧ v = part) := by
      rintro ⟨rfl, rfl⟩
      exact hv (hsection hname')
    simp only [List.mem_append, List.mem_cons, Prod.mk.injEq, hne, false_or]
  · intro setting v
    have hnone : ¬ (setting.sectionName = name ∧ setting.Holds part v) :=
      fun ⟨hname, hv⟩ => h setting v hname hv
    simp only [Setting.setTo_append, Setting.setTo_cons, hnone, false_or]

theorem Same.of_replace {part part' : Value} (before after : List (Text × Value))
    (hsection : IsSection part) (hsection' : IsSection part')
    (h : ∀ (setting : Setting) (v : Value), setting.sectionName = name →
      (setting.Holds part v ↔ setting.Holds part' v)) :
    Same (before ++ (name, part) :: after) (before ++ (name, part') :: after) := by
  apply Same.of_iff
  · intro name' hname' v hv
    have hne : v ≠ part := fun heq => hv (heq ▸ hsection)
    have hne' : v ≠ part' := fun heq => hv (heq ▸ hsection')
    simp only [List.mem_append, List.mem_cons, Prod.mk.injEq, hne, hne', and_false]
  · intro setting v
    have hsame : (setting.sectionName = name ∧ setting.Holds part v) ↔
        (setting.sectionName = name ∧ setting.Holds part' v) :=
      and_congr_right (h setting v)
    simp only [Setting.setTo_append, Setting.setTo_cons, hsame]

/-- No change of an edit touches a setting. -/
theorem Edited.same (h : Edited es es') : Same es es' := by
  induction h with
  | symm _ ih => exact ih.symm
  | trans _ _ ih ih' => exact ih.trans ih'
  | reordered h => exact .of_reordered h
  | other before v after h =>
      apply Same.of_insert
      · exact fun hname => absurd hname h
      · rintro setting _ rfl
        exact absurd setting.sectionName_mem h
  | empty before after h =>
      apply Same.of_insert
      · exact fun _ => .inl ⟨[], rfl⟩
      · intro setting v _ hv
        rw [Setting.holds_table] at hv
        cases hv
  | within before first v last after h =>
      apply Same.of_replace
      · exact .inl ⟨_, rfl⟩
      · exact .inl ⟨_, rfl⟩
      · intro setting w hname
        have hkey := h setting hname
        rw [Setting.holds_table, Setting.holds_table]
        simp [hkey]
  | behind before items more after h =>
      apply Same.of_replace
      · exact .inr ⟨_, rfl⟩
      · exact .inr ⟨_, rfl⟩
      · intro setting w hname
        have hplace : (items ++ more)[setting.position]? = items[setting.position]? :=
          List.getElem?_append_left (h setting hname)
        rw [Setting.holds_array, Setting.holds_array, hplace]

end Config
end LoxTokens
