import TwoPhaseLocking.ItemMap

/-!
Sorted item maps. Every operation keeps the keys strictly ascending, so a key has at most one
entry: an entry is in the map exactly when lookup finds it, filtering acts on lookups entry by
entry, and two sorted maps with the same lookups are one map.
-/
namespace TwoPhaseLocking
namespace ItemMap

variable {α β : Type}

/-- The keys of the entries are strictly ascending. -/
def Sorted (m : ItemMap α) : Prop := m.entries.Pairwise fun a b => a.1 < b.1

theorem sorted_empty : (empty : ItemMap α).Sorted := List.Pairwise.nil

theorem mem_insertEntry {k : String} {v : α} {l : List (String × α)} {e : String × α}
    (h : e ∈ insertEntry k v l) : e = (k, v) ∨ e ∈ l := by
  induction l with
  | nil => simpa [insertEntry] using h
  | cons e' rest ih =>
    unfold insertEntry at h
    split at h
    · simpa using h
    · split at h
      · rcases List.mem_cons.mp h with rfl | h
        · exact .inl rfl
        · exact .inr (List.mem_cons_of_mem _ h)
      · rcases List.mem_cons.mp h with rfl | h
        · exact .inr List.mem_cons_self
        · rcases ih h with rfl | h
          · exact .inl rfl
          · exact .inr (List.mem_cons_of_mem _ h)

theorem sorted_insertEntry (k : String) (v : α) {l : List (String × α)}
    (h : l.Pairwise fun a b => a.1 < b.1) : (insertEntry k v l).Pairwise fun a b => a.1 < b.1 := by
  induction l with
  | nil => simp [insertEntry]
  | cons e rest ih =>
    obtain ⟨k', v'⟩ := e
    rw [List.pairwise_cons] at h
    unfold insertEntry
    split
    · rename_i hlt
      refine List.Pairwise.cons (fun b hb => ?_) (List.Pairwise.cons h.1 h.2)
      rcases List.mem_cons.mp hb with rfl | hb
      · exact hlt
      · exact String.lt_trans hlt (h.1 b hb)
    · split
      · rename_i heq
        subst heq
        exact List.Pairwise.cons h.1 h.2
      · rename_i hnlt hne
        -- the new key goes further in: it is above `k'`
        have hgt : k' < k := Std.lt_of_le_of_ne (String.not_lt.mp hnlt) (Ne.symm hne)
        refine List.Pairwise.cons (fun b hb => ?_) (ih h.2)
        rcases mem_insertEntry hb with rfl | hb
        · exact hgt
        · exact h.1 b hb

theorem Sorted.insert {m : ItemMap α} (h : m.Sorted) (k : String) (v : α) :
    (m.insert k v).Sorted := sorted_insertEntry k v h

theorem Sorted.erase {m : ItemMap α} (h : m.Sorted) (k : String) : (m.erase k).Sorted :=
  h.sublist List.filter_sublist

theorem Sorted.set {m : ItemMap α} (h : m.Sorted) (k : String) (v : Option α) : (m.set k v).Sorted := by
  cases v with
  | none => exact h.erase k
  | some v => exact h.insert k v

theorem Sorted.filterMap {m : ItemMap α} (h : m.Sorted) (f : String → α → Option β) :
    (m.filterMap f).Sorted := by
  unfold Sorted ItemMap.filterMap
  rw [List.pairwise_filterMap]
  refine h.imp fun {a b} hab => ?_
  intro a' ha' b' hb'
  obtain ⟨x, -, rfl⟩ := Option.map_eq_some_iff.mp ha'
  obtain ⟨y, -, rfl⟩ := Option.map_eq_some_iff.mp hb'
  exact hab

theorem mem_entries_of_get? {m : ItemMap α} {k : String} {v : α} (h : m.get? k = some v) :
    (k, v) ∈ m.entries := by
  unfold get? at h
  obtain ⟨e, he, rfl⟩ := Option.map_eq_some_iff.mp h
  have hk : e.1 = k := by simpa using List.find?_some he
  rw [← hk]
  exact List.mem_of_find?_eq_some he

theorem exists_entry_of_mem_getD {m : ItemMap (List α)} {k : String} {x : α}
    (h : x ∈ (m.get? k).getD []) : ∃ v, (k, v) ∈ m.entries ∧ x ∈ v := by
  cases hg : m.get? k with
  | none => rw [hg] at h; cases h
  | some v => rw [hg] at h; exact ⟨v, mem_entries_of_get? hg, h⟩

theorem Sorted.mem_entries_iff {m : ItemMap α} (h : m.Sorted) {k : String} {v : α} :
    (k, v) ∈ m.entries ↔ m.get? k = some v := by
  obtain ⟨l⟩ := m
  unfold get?
  simp only
  induction l with
  | nil => simp
  | cons e rest ih =>
    obtain ⟨k', v'⟩ := e
    have hs : rest.Pairwise fun a b => a.1 < b.1 := (List.pairwise_cons.mp h).2
    by_cases hk : k' = k
    · subst hk
      -- no later entry has the key of the head
      have hnot : (k', v) ∉ rest := fun hm =>
        String.lt_irrefl k' ((List.pairwise_cons.mp h).1 (k', v) hm)
      simp only [List.mem_cons, Prod.mk.injEq, true_and, List.find?_cons, beq_self_eq_true,
        Option.map_some, Option.some.injEq]
      constructor
      · rintro (rfl | hm)
        · rfl
        · exact absurd hm hnot
      · rintro rfl; exact .inl rfl
    · have hne : (k, v) ≠ (k', v') := fun he => hk (Prod.mk.inj he).1.symm
      rw [List.find?_cons_of_neg (by simpa using hk), List.mem_cons]
      simp only [hne, false_or]
      exact ih hs

theorem Sorted.get?_filterMap {m : ItemMap α} (h : m.Sorted) (f : String → α → Option β)
    (k : String) : (m.filterMap f).get? k = (m.get? k).bind (f k) := by
  cases hv : (m.filterMap f).get? k with
  | none =>
    cases hm : m.get? k with
    | none => rfl
    | some v =>
      have he := h.mem_entries_iff.mpr hm
      cases hf : f k v with
      | none => simp [hf]
      | some w =>
        have : (k, w) ∈ (m.filterMap f).entries :=
          List.mem_filterMap.mpr ⟨(k, v), he, by simp [hf]⟩
        rw [(h.filterMap f).mem_entries_iff.mp this] at hv
        cases hv
  | some w =>
    have he := (h.filterMap f).mem_entries_iff.mpr hv
    obtain ⟨⟨k', v⟩, hmem, hkv⟩ := List.mem_filterMap.mp he
    obtain ⟨w', hw', hpair⟩ := Option.map_eq_some_iff.mp hkv
    obtain ⟨rfl, rfl⟩ := Prod.mk.inj hpair
    simp [h.mem_entries_iff.mp hmem, hw']

@[simp] theorem get?_set (m : ItemMap α) (k k2 : String) (v : Option α) :
    (m.set k v).get? k2 = if k = k2 then v else m.get? k2 := by
  cases v with
  | none => simp [set]
  | some v => simp [set]

theorem mem_values_flatten {m : ItemMap (List α)} {x : α} :
    x ∈ m.values.flatten ↔ ∃ e ∈ m.entries, x ∈ e.2 := by
  simp only [values, List.mem_flatten, List.mem_map]
  constructor
  · rintro ⟨l, ⟨e, he, rfl⟩, hx⟩
    exact ⟨e, he, hx⟩
  · rintro ⟨e, he, hx⟩
    exact ⟨e.2, ⟨e, he, rfl⟩, hx⟩

theorem Sorted.mem_values_flatten_iff {m : ItemMap (List α)} (h : m.Sorted) {x : α} :
    x ∈ m.values.flatten ↔ ∃ k, x ∈ (m.get? k).getD [] := by
  rw [mem_values_flatten]
  constructor
  · rintro ⟨e, he, hx⟩
    exact ⟨e.1, by rw [h.mem_entries_iff.mp he]; exact hx⟩
  · rintro ⟨k, hx⟩
    obtain ⟨v, he, hv⟩ := exists_entry_of_mem_getD hx
    exact ⟨_, he, hv⟩

theorem eq_of_pairwise_of_mem_iff : ∀ {l l' : List (String × α)},
    (l.Pairwise fun a b => a.1 < b.1) → (l'.Pairwise fun a b => a.1 < b.1) →
    (∀ e, e ∈ l ↔ e ∈ l') → l = l'
  | [], [], _, _, _ => rfl
  | [], e :: _, _, _, hmem => absurd ((hmem e).mpr List.mem_cons_self) List.not_mem_nil
  | e :: _, [], _, _, hmem => absurd ((hmem e).mp List.mem_cons_self) List.not_mem_nil
  | e :: rest, e' :: rest', h, h', hmem => by
    rw [List.pairwise_cons] at h h'
    -- the two heads are the least entries of one set of entries
    have he : e = e' := by
      rcases List.mem_cons.mp ((hmem e).mp List.mem_cons_self) with he | he
      · exact he
      rcases List.mem_cons.mp ((hmem e').mpr List.mem_cons_self) with he' | he'
      · exact he'.symm
      exact absurd (String.lt_trans (h.1 e' he') (h'.1 e he)) (String.lt_irrefl _)
    subst he
    have hrest : ∀ x, x ∈ rest ↔ x ∈ rest' := by
      intro x
      have hx := hmem x
      simp only [List.mem_cons] at hx
      constructor
      · intro hm
        rcases hx.mp (.inr hm) with rfl | hm'
        · exact absurd (h.1 _ hm) (String.lt_irrefl _)
        · exact hm'
      · intro hm
        rcases hx.mpr (.inr hm) with rfl | hm'
        · exact absurd (h'.1 _ hm) (String.lt_irrefl _)
        · exact hm'
    rw [eq_of_pairwise_of_mem_iff h.2 h'.2 hrest]

/-- Two sorted maps with the same lookups have the same entries. -/
theorem Sorted.ext {m m' : ItemMap α} (h : m.Sorted) (h' : m'.Sorted)
    (hget : ∀ k, m.get? k = m'.get? k) : m = m' := by
  have hmem : ∀ e, e ∈ m.entries ↔ e ∈ m'.entries := fun ⟨k, v⟩ => by
    rw [h.mem_entries_iff, h'.mem_entries_iff, hget]
  obtain ⟨l⟩ := m
  obtain ⟨l'⟩ := m'
  exact congrArg ItemMap.mk (eq_of_pairwise_of_mem_iff h h' hmem)

end ItemMap
end TwoPhaseLocking
