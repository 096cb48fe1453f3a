import LoxTokens.Files

/-! # Files that were stored are read back

A file that `FileTree.store` puts into a directory stands at its place (`at?_store`), every path
that leads there gives its content (`read_of_resolve`), and storing the same content once more
changes nothing (`store_again`). -/

namespace LoxTokens

/-- Bytes of a text are read as the text. -/
theorem Text.ofUtf8?_utf8 (t : Text) : Text.ofUtf8? (Text.utf8 t) = some t := by
  have hbytes : ByteArray.mk (Text.utf8 t).toArray = t.utf8Encode := by
    apply ByteArray.ext
    simp [Text.utf8, List.utf8Encode]
  rw [Text.ofUtf8?, hbytes, List.utf8Decode?_utf8Encode]
  rfl

namespace FileTree

variable {t saved : FileTree} {p directory : Place} {name path : Text} {bytes : List UInt8}

theorem at?_put (t : FileTree) (p : Place) (bytes : List UInt8) :
    (t.put p bytes).at? p = .file bytes := by
  simp [at?, put]

theorem put_put (t : FileTree) (p : Place) (bytes : List UInt8) :
    (t.put p bytes).put p bytes = t.put p bytes := by
  simp [put]

/-- A directory stays one when a file is put into it. -/
theorem at?_put_child (h : t.at? directory = .directory) (name : Text) (bytes : List UInt8) :
    (t.put (directory ++ [name]) bytes).at? directory = .directory := by
  have hnone : t.files.lookup directory = none := by
    cases hlookup : t.files.lookup directory with
    | none => rfl
    | some bytes => simp [at?, hlookup] at h
  have hfilter : (t.files.filter (·.1 != directory ++ [name])).lookup directory = none := by
    rw [List.lookup_eq_none_iff] at hnone ⊢
    intro e he
    exact hnone e (List.mem_filter.1 he).1
  have hne : (directory == directory ++ [name]) = false := by simp
  simp [at?, put, List.lookup_cons, hne, hfilter]

theorem store_eq_ok_iff :
    t.store directory name bytes = .ok saved ↔
      t.at? directory = .directory ∧ t.at? (directory ++ [name]) ≠ .directory ∧
        saved = t.put (directory ++ [name]) bytes := by
  by_cases hdirectory : t.at? directory = .directory
  · by_cases hfile : t.at? (directory ++ [name]) = .directory
    · simp [store, hdirectory, hfile]
    · simp only [store, hdirectory, hfile, bne_self_eq_false, Bool.false_eq_true, if_false,
        Except.ok.injEq, true_and, not_false_eq_true, ne_eq]
      exact eq_comm
  · simp [store, hdirectory]

theorem at?_store (h : t.store directory name bytes = .ok saved) :
    saved.at? (directory ++ [name]) = .file bytes := by
  obtain ⟨-, -, rfl⟩ := store_eq_ok_iff.1 h
  exact at?_put t _ bytes

theorem ensureDirectory?_store (h : t.store directory name bytes = .ok saved) :
    saved.ensureDirectory? directory = some saved := by
  obtain ⟨hdirectory, -, rfl⟩ := store_eq_ok_iff.1 h
  have hstays := at?_put_child hdirectory name bytes
  rw [ensureDirectory?, if_neg (by rw [hstays]; decide)]

theorem store_again (h : t.store directory name bytes = .ok saved) :
    saved.store directory name bytes = .ok saved := by
  have hfile := at?_store h
  obtain ⟨hdirectory, -, rfl⟩ := store_eq_ok_iff.1 h
  apply store_eq_ok_iff.2
  refine ⟨at?_put_child hdirectory name bytes, ?_, (put_put t _ bytes).symm⟩
  rw [hfile]
  simp

/-- A path that leads to a file gives its content. -/
theorem read_of_resolve (hpath : t.resolve path = .ok (some p)) (hfile : t.at? p = .file bytes) :
    t.read path = .ok bytes := by
  unfold read
  rw [hpath]
  simp only [bind, Except.bind, Option.map_some, hfile]

theorem present_of_resolve (hpath : t.resolve path = .ok (some p)) (hfile : t.at? p = .file bytes) :
    t.present path = true := by
  simp [present, hpath, hfile]

end FileTree
end LoxTokens
