import TwoPhaseLocking.Host.Files

/-!
Writing a file and reading it back: a write changes only the place the path names, so the path
then names the file written and its text reads back as itself (`readText_write`).
-/
namespace TwoPhaseLocking

theorem ByteArray.toList_loop (bs : ByteArray) (i : Nat) (r : List UInt8) :
    ByteArray.toList.loop bs i r = r.reverse ++ bs.data.toList.drop i := by
  fun_induction ByteArray.toList.loop bs i r with
  | case1 i r h ih =>
    rw [ih, List.reverse_cons, List.append_assoc]
    congr 1
    have hi : i < bs.data.toList.length := by simpa using h
    rw [List.drop_eq_getElem_cons hi]
    simp [ByteArray.get!, getElem!_pos bs.data i h]
  | case2 i r h =>
    have hi : bs.data.toList.length ≤ i := by simpa using h
    simp [List.drop_eq_nil_of_le hi]

theorem ByteArray.toList_eq_data (bs : ByteArray) : bs.toList = bs.data.toList := by
  simp [ByteArray.toList, ByteArray.toList_loop]

/-- A text read back from its bytes is itself. -/
theorem fromUTF8?_bytes (text : String) :
    String.fromUTF8? ⟨text.toUTF8.toList.toArray⟩ = some text := by
  rw [ByteArray.toList_eq_data, Array.toArray_toList]
  simp [String.fromUTF8?, text.isValidUTF8]
  rfl

namespace Files

variable {fs : Files} {p q : Path} {c : Content}

@[simp] theorem cwd_put : (fs.put p c).cwd = fs.cwd := by
  unfold put
  split <;> rfl

theorem file?_put_self : (fs.put p c).file? p = some c := by
  unfold put
  split
  · rename_i hp
    -- the entry found is the first at the place, and it is the one replaced
    have hpred : ((fun x : Path × Content => x.1 == p) ∘
        fun e => if e.1 == p then (p, c) else e) = (·.1 == p) := by
      funext ⟨k, v⟩
      by_cases hk : k = p <;> simp [hk]
    obtain ⟨e, he⟩ : ∃ e, fs.files.find? (·.1 == p) = some e :=
      Option.isSome_iff_exists.mp (by simpa [isFile, file?] using hp)
    have hep : e.1 = p := by simpa using List.find?_some he
    simp only [file?, List.find?_map, hpred, he]
    simp [hep]
  · rename_i hp
    have hnone : fs.files.find? (·.1 == p) = none := by
      refine List.find?_eq_none.mpr fun ⟨k, v⟩ he hk => ?_
      simp only [beq_iff_eq] at hk
      subst hk
      simp [isFile, file?] at hp
      exact hp v he
    simp [file?, List.find?_append, hnone]

theorem file?_put_of_ne (h : q ≠ p) : (fs.put p c).file? q = fs.file? q := by
  unfold put
  split
  · -- replacing the entries at another place changes nothing that the search for this one sees
    have hpred : ((fun x : Path × Content => x.1 == q) ∘
        fun e => if e.1 == p then (p, c) else e) = (·.1 == q) := by
      funext ⟨k, v⟩
      by_cases hk : k = p
      · subst hk
        simp
      · simp [hk]
    simp only [file?, List.find?_map, hpred]
    cases hf : fs.files.find? (·.1 == q) with
    | none => rfl
    | some e =>
      have heq : e.1 = q := by simpa using List.find?_some hf
      simp [heq, h]
  · simp [file?, List.find?_append, Ne.symm h]

theorem mem_keys_put {k : Path} (h : k ∈ fs.files.map Prod.fst) :
    k ∈ (fs.put p c).files.map Prod.fst := by
  unfold put
  split
  · obtain ⟨e, he, rfl⟩ := List.mem_map.mp h
    refine List.mem_map.mpr ⟨_, List.mem_map_of_mem he, ?_⟩
    by_cases hk : e.1 = p <;> simp [hk]
  · simp only [List.map_append]
    exact List.mem_append_left _ h

theorem isDir_put (h : fs.isDir q = true) : (fs.put p c).isDir q = true := by
  have hdirs : (fs.put p c).dirs = fs.dirs := by
    unfold put
    split <;> rfl
  simp only [isDir, Bool.or_eq_true, List.any_eq_true] at h ⊢
  rw [hdirs]
  rcases h with ((h | h) | ⟨e, he, hq⟩) | h
  · exact .inl (.inl (.inl h))
  · exact .inl (.inl (.inr h))
  · obtain ⟨e', he', hkey⟩ := List.mem_map.mp (mem_keys_put (p := p) (c := c)
      (List.mem_map_of_mem (f := Prod.fst) he))
    exact .inl (.inr ⟨e', he', by rw [hkey]; exact hq⟩)
  · exact .inr h

/-- A walk through directories goes the same way once a file is written at a place that is
not a directory. -/
theorem walk_put (hp : Files.entry? fs p ≠ some .dir) (here : Path) (cs : List String) {d : Path}
    (h : fs.walk here cs = .ok d) : (fs.put p c).walk here cs = .ok d := by
  induction cs generalizing here with
  | nil => simpa [walk] using h
  | cons x cs ih =>
    simp only [walk] at h ⊢
    by_cases h1 : x = "."
    · rw [if_pos h1] at h ⊢
      exact ih here h
    rw [if_neg h1] at h ⊢
    by_cases h2 : x = ".."
    · rw [if_pos h2] at h ⊢
      exact ih _ h
    rw [if_neg h2] at h ⊢
    split at h
    · cases h
    split at h
    · rename_i hfile hdir
      -- the walk passes only through directories, and the place written is none
      have hne : here ++ [x] ≠ p := by
        rintro rfl
        simp [isFile, entry?, Option.isSome_iff_ne_none] at hfile hp
        simp_all
      rw [if_neg (by simpa [isFile, file?_put_of_ne hne] using hfile), if_pos (isDir_put hdir)]
      exact ih _ h
    · cases h

theorem target_put {s : String} {t : Target} (h : fs.target s = .ok t) (hd : t.dots = false)
    (hp : t.entry ≠ some .dir) :
    (fs.put t.place c).target s = .ok { t with entry := some (.file c) } := by
  unfold target at h ⊢
  dsimp only at h
  simp only [cwd_put]
  split at h
  · split at h
    · cases h
      simp at hd
    · cases h
  · cases hw : fs.walk (if s.startsWith "/" = true then [] else fs.cwd) _ with
    | error e =>
      rw [hw] at h
      cases h
    | ok dir =>
      rw [hw] at h
      simp only [bind, Except.bind] at h
      split at h
      · cases h
        simp at hd
      split at h
      · cases h
        simp at hd
      rename_i h1 h2
      cases h
      rw [walk_put hp _ _ hw]
      simp only [bind, Except.bind, h1, h2, if_false, entry?, file?_put_self]
      rfl

/-- Writing succeeds exactly when the path names a place that is not a directory, and it puts
the content there. -/
theorem write_eq_ok_iff {s : String} {fs' : Files} :
    fs.write s c = .ok fs' ↔ ∃ t, fs.target s = .ok t ∧ t.dots = false ∧ t.wantsDir = false ∧
      t.entry ≠ some .dir ∧ fs' = fs.put t.place c := by
  unfold write
  cases ht : fs.target s with
  | error e => simp [bind, Except.bind]
  | ok t =>
    simp only [bind, Except.bind, Except.ok.injEq, exists_eq_left']
    -- the place must be neither reached by dots, nor asked for as a directory, nor one
    cases hd : t.dots <;> cases hw : t.wantsDir <;> simp only [Bool.or_self, Bool.or_true,
      Bool.true_or, if_true, Bool.false_eq_true, if_false]
    · split
      · rename_i he
        simp [throw, throwThe, MonadExceptOf.throw, he]
      · rename_i he
        simpa [pure, Except.pure, eq_comm] using fun _ => he
    all_goals simp [throw, throwThe, MonadExceptOf.throw]

/-- Whether a write succeeds does not depend on what is written. -/
theorem write_content {s : String} {fs' : Files} (h : fs.write s c = .ok fs') (c' : Content) :
    ∃ fs'', fs.write s c' = .ok fs'' := by
  obtain ⟨t, ht, hd, hw, hdir, -⟩ := write_eq_ok_iff.mp h
  exact ⟨_, write_eq_ok_iff.mpr ⟨t, ht, hd, hw, hdir, rfl⟩⟩

theorem stat_write {s : String} {fs' : Files} (h : fs.write s c = .ok fs') :
    ∃ place, fs'.stat s = .ok (place, .file c) := by
  obtain ⟨t, ht, hd, hw, hdir, rfl⟩ := write_eq_ok_iff.mp h
  refine ⟨t.place, ?_⟩
  simp [stat, target_put ht hd hdir, bind, Except.bind, hw]
  rfl

theorem present_write {s : String} {fs' : Files} (h : fs.write s c = .ok fs') :
    fs'.present s = true := by
  obtain ⟨place, hst⟩ := stat_write h
  rw [present, hst]
  rfl

/-- Text written to a file reads back as itself. -/
theorem readText_write {s text : String} {fs' : Files}
    (h : fs.write s (.bytes text.toUTF8.toList) = .ok fs') : fs'.readText s = .ok text := by
  obtain ⟨place, hst⟩ := stat_write h
  simp only [readText, hst, bind, Except.bind]
  rw [fromUTF8?_bytes]
  rfl

end Files
end TwoPhaseLocking
