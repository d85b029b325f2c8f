import TwoPhaseLocking.Transaction.Serial
import TwoPhaseLocking.Proofs.ItemMap

/-!
Running operations against a store that never fails. Reads leave such a store as it is, so a run
of operations depends on the store only through the values of the items it reads; every value
staged for commit is a value read from the store unless a write of the transaction staged it;
and a commit writes the staged values one after another.
-/
namespace TwoPhaseLocking

namespace Store

variable {s : Store}

theorem write_of_budget (h : s.budget = none) (k : String) (v : Int) :
    s.write k v = .ok { s with items := s.items.insert k v } := by
  simp [write, spend, h, Except.map]

/-- The store with the given values written in order, whatever the budget. -/
def putAll (s : Store) (kvs : List (String × Int)) : Store :=
  { s with items := kvs.foldl (fun m p => m.insert p.1 p.2) s.items }

end Store

namespace ItemMap

variable {α : Type}

theorem get?_foldl_insert_of_not_mem (l : List (String × α)) (m : ItemMap α) {k : String}
    (hk : ∀ v, (k, v) ∉ l) : (l.foldl (fun m p => m.insert p.1 p.2) m).get? k = m.get? k := by
  induction l generalizing m with
  | nil => rfl
  | cons p l ih =>
    rw [List.foldl_cons, ih _ fun v hv => hk v (List.mem_cons_of_mem _ hv), get?_insert]
    have hpk : p.1 ≠ k := fun he => hk p.2 (by rw [← he]; exact List.mem_cons_self)
    simp [hpk]

theorem get?_foldl_insert_of_mem {l : List (String × α)} (m : ItemMap α) {k : String} {v : α}
    (hl : l.Pairwise fun a b => a.1 < b.1) (hkv : (k, v) ∈ l) :
    (l.foldl (fun m p => m.insert p.1 p.2) m).get? k = some v := by
  induction l generalizing m with
  | nil => cases hkv
  | cons p l ih =>
    rw [List.pairwise_cons] at hl
    rw [List.foldl_cons]
    rcases List.mem_cons.mp hkv with rfl | hkv
    · -- no later entry has the key of the head
      rw [get?_foldl_insert_of_not_mem _ _ fun v' hv' => String.lt_irrefl _ (hl.1 (k, v') hv')]
      simp
    · exact ih _ hl.2 hkv

theorem Sorted.foldl_insert {m : ItemMap α} (h : m.Sorted) (l : List (String × α)) :
    (l.foldl (fun m p => m.insert p.1 p.2) m).Sorted := by
  induction l generalizing m with
  | nil => exact h
  | cons p l ih => exact ih (h.insert _ _)

end ItemMap

namespace Staging

variable {w w' w₁ : Staging} {tx : TxId} {o : Operation} {ops : List Operation}
  {s s' s₁ s₂ : Store} {i : String} {v : Int}

theorem execute_read (hb : s.budget = none) (hk : o.kind = .read) :
    w.execute tx o s =
      .ok ({ w with toCommit := w.toCommit.insert o.item (s.value o.item) }, s) := by
  unfold execute
  rw [hk]
  simp [Store.read_unlimited _ _ hb, bind, Except.bind, pure, Except.pure]

theorem execute_write (hk : o.kind = .write) :
    w.execute tx o s =
      match w.computed.get? o.item with
      | some v => .ok ({ w with toCommit := w.toCommit.insert o.item v }, s)
      | none => .error (.missingWriteValue tx o.item) := by
  obtain ⟨tx', item, kind⟩ := o
  subst hk
  rfl

theorem execute_compute {e : Expression} (hk : o.kind = .compute e) :
    w.execute tx o s =
      (w.evaluate tx o.item e).map fun v => ({ w with computed := w.computed.insert o.item v }, s) := by
  simp only [execute, hk]
  cases w.evaluate tx o.item e <;> rfl

theorem execute_store (hb : s.budget = none) (h : w.execute tx o s = .ok (w', s')) : s' = s := by
  cases hk : o.kind with
  | read =>
    rw [execute_read hb hk] at h
    exact (Prod.mk.inj (Except.ok.inj h)).2.symm
  | write =>
    rw [execute_write hk] at h
    split at h
    · exact (Prod.mk.inj (Except.ok.inj h)).2.symm
    · cases h
  | compute e =>
    rw [execute_compute hk] at h
    cases he : w.evaluate tx o.item e with
    | error => rw [he] at h; cases h
    | ok x =>
      rw [he] at h
      exact (Prod.mk.inj (Except.ok.inj h)).2.symm

/-- An operation sees the store only through the value of the item it reads. -/
theorem execute_congr (hb₁ : s₁.budget = none) (hb₂ : s₂.budget = none)
    (hv : o.kind = .read → s₁.value o.item = s₂.value o.item)
    (h : w.execute tx o s₁ = .ok (w', s₁)) : w.execute tx o s₂ = .ok (w', s₂) := by
  cases hk : o.kind with
  | read =>
    rw [execute_read hb₁ hk] at h
    rw [execute_read hb₂ hk, ← hv hk, (Prod.mk.inj (Except.ok.inj h)).1]
  | write =>
    rw [execute_write hk] at h
    rw [execute_write hk]
    split at h
    · rw [(Prod.mk.inj (Except.ok.inj h)).1]
    · cases h
  | compute e =>
    rw [execute_compute hk] at h
    rw [execute_compute hk]
    cases he : w.evaluate tx o.item e with
    | error => rw [he] at h; cases h
    | ok x =>
      rw [he] at h
      rw [← (Prod.mk.inj (Except.ok.inj h)).1]
      rfl

theorem executeAll_cons (h : w.execute tx o s = .ok (w₁, s₁)) (ops : List Operation) :
    w.executeAll tx (o :: ops) s = w₁.executeAll tx ops s₁ := by
  rw [executeAll, h]

theorem executeAll_append (h : w.executeAll tx ops s = .ok (w₁, s₁)) (ops' : List Operation) :
    w.executeAll tx (ops ++ ops') s = w₁.executeAll tx ops' s₁ := by
  induction ops generalizing w s with
  | nil =>
    rw [executeAll] at h
    obtain ⟨rfl, rfl⟩ := Prod.mk.inj (Except.ok.inj h)
    rfl
  | cons o ops ih =>
    rw [executeAll] at h
    split at h
    · rename_i w₂ s₂ he
      rw [List.cons_append, executeAll_cons he]
      exact ih h
    · cases h

theorem executeAll_singleton (h : w.execute tx o s = .ok (w', s')) :
    w.executeAll tx [o] s = .ok (w', s') := by
  rw [executeAll_cons h]
  rfl

theorem executeAll_store (hb : s.budget = none) (h : w.executeAll tx ops s = .ok (w', s')) :
    s' = s := by
  induction ops generalizing w with
  | nil =>
    rw [executeAll] at h
    exact (Prod.mk.inj (Except.ok.inj h)).2.symm
  | cons o ops ih =>
    rw [executeAll] at h
    split at h
    · rename_i w₂ s₂ he
      obtain rfl := execute_store hb he
      exact ih h
    · cases h

theorem executeAll_congr (hb₁ : s₁.budget = none) (hb₂ : s₂.budget = none)
    (hv : ∀ o ∈ ops, o.kind = .read → s₁.value o.item = s₂.value o.item)
    (h : w.executeAll tx ops s₁ = .ok (w', s₁)) : w.executeAll tx ops s₂ = .ok (w', s₂) := by
  induction ops generalizing w with
  | nil =>
    rw [executeAll] at h ⊢
    rw [(Prod.mk.inj (Except.ok.inj h)).1]
  | cons o ops ih =>
    rw [executeAll] at h
    split at h
    · rename_i w₂ s₃ he
      obtain rfl := execute_store hb₁ he
      rw [executeAll_cons (execute_congr hb₁ hb₂ (hv o List.mem_cons_self) he)]
      exact ih (fun o' ho' => hv o' (List.mem_cons_of_mem _ ho')) h
    · cases h

/-- A value staged for commit was staged before the run, or by a write of the run, or read from
the store. -/
theorem toCommit_executeAll (hb : s.budget = none) (h : w.executeAll tx ops s = .ok (w', s'))
    (hv : w'.toCommit.get? i = some v) :
    w.toCommit.get? i = some v ∨
      ∃ o ∈ ops, o.item = i ∧ (o.kind = .write ∨ (o.kind = .read ∧ v = s.value i)) := by
  induction ops generalizing w with
  | nil =>
    rw [executeAll] at h
    rw [← (Prod.mk.inj (Except.ok.inj h)).1] at hv
    exact .inl hv
  | cons o ops ih =>
    rw [executeAll] at h
    split at h
    · rename_i w₂ s₂ he
      obtain rfl := execute_store hb he
      rcases ih h with hw₂ | ⟨o', ho', hi, hk⟩
      · -- the value was staged by `o`, or was there before it
        cases hk : o.kind with
        | read =>
          rw [execute_read hb hk] at he
          rw [← (Prod.mk.inj (Except.ok.inj he)).1, ItemMap.get?_insert] at hw₂
          split at hw₂
          · rename_i hoi
            exact .inr ⟨o, List.mem_cons_self, hoi, .inr ⟨hk, by rw [← hoi]; exact (Option.some.inj hw₂).symm⟩⟩
          · exact .inl hw₂
        | write =>
          rw [execute_write hk] at he
          split at he
          · rw [← (Prod.mk.inj (Except.ok.inj he)).1, ItemMap.get?_insert] at hw₂
            split at hw₂
            · rename_i hoi
              exact .inr ⟨o, List.mem_cons_self, hoi, .inl hk⟩
            · exact .inl hw₂
          · cases he
        | compute e =>
          rw [execute_compute hk] at he
          cases hev : w.evaluate tx o.item e with
          | error => rw [hev] at he; cases he
          | ok x =>
            rw [hev] at he
            rw [← (Prod.mk.inj (Except.ok.inj he)).1] at hw₂
            exact .inl hw₂
      · exact .inr ⟨o', List.mem_cons_of_mem _ ho', hi, hk⟩
    · cases h

theorem sorted_executeAll (hs : w.toCommit.Sorted) (h : w.executeAll tx ops s = .ok (w', s')) :
    w'.toCommit.Sorted := by
  induction ops generalizing w s with
  | nil =>
    rw [executeAll] at h
    rw [← (Prod.mk.inj (Except.ok.inj h)).1]
    exact hs
  | cons o ops ih =>
    rw [executeAll] at h
    split at h
    · rename_i w₂ s₂ he
      refine ih ?_ h
      unfold execute at he
      split at he
      · simp only [bind, Except.bind] at he
        split at he
        · cases he
        · obtain ⟨rfl, -⟩ := Prod.mk.inj (Except.ok.inj he)
          exact hs.insert _ _
      · split at he
        · obtain ⟨rfl, -⟩ := Prod.mk.inj (Except.ok.inj he)
          exact hs.insert _ _
        · cases he
      · simp only [bind, Except.bind] at he
        split at he
        · cases he
        · obtain ⟨rfl, -⟩ := Prod.mk.inj (Except.ok.inj he)
          exact hs
    · cases h

theorem commit_go_of_budget (hb : s.budget = none) (l : List (String × Int)) :
    commit.go l s = (s.putAll l, .ok ()) := by
  induction l generalizing s with
  | nil => rfl
  | cons p l ih =>
    obtain ⟨k, x⟩ := p
    rw [commit.go, Store.write_of_budget hb]
    exact ih hb

theorem commit_of_budget (hb : s.budget = none) :
    w.commit s = (s.putAll w.toCommit.entries, .ok w.toCommit.size) := by
  unfold commit
  rw [commit_go_of_budget hb]
  rfl

end Staging

namespace Transaction

variable {t : Transaction} {s σ : Store} {w : Staging}

/-- A transaction alone, on a store that never fails, writes the values its operations stage. -/
theorem runAlone_of_executeAll (hb : s.budget = none)
    (h : ({} : Staging).executeAll t.id t.ops s = .ok (w, s)) :
    t.runAlone s = .ok (s.putAll w.toCommit.entries) := by
  unfold runAlone
  rw [h]
  simp only
  rw [Staging.commit_of_budget hb]
  rfl

theorem runSerially_append {C : List Transaction} (h : runSerially C s = .ok σ)
    (D : List Transaction) : runSerially (C ++ D) s = runSerially D σ := by
  induction C generalizing s with
  | nil =>
    rw [runSerially] at h
    obtain rfl := Except.ok.inj h
    rfl
  | cons c C ih =>
    rw [runSerially] at h
    split at h
    · rename_i s' hs'
      rw [List.cons_append, runSerially, hs']
      exact ih h
    · cases h

end Transaction
end TwoPhaseLocking
