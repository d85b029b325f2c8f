import TwoPhaseLocking.Deadlock.Graph

/-!
The cycle search is complete: a search that finds no back edge lists every vertex before all of
its successors (`Closed`), which no graph with a cycle allows. In a well-formed graph its depth
bound is never reached.
-/
namespace TwoPhaseLocking
namespace WaitGraph

/-- The vertices ascend strictly, and every successor is a vertex. -/
structure WellFormed (g : WaitGraph) : Prop where
  sorted : g.adj.Pairwise fun a b => a.1 < b.1
  succClosed : ∀ e ∈ g.adj, ∀ w ∈ e.2, w ∈ g.vertices

variable {g : WaitGraph}

/-! ### Updating a successor list -/

theorem mem_modify {f : List TxId → List TxId} {v : TxId} {l : List (TxId × List TxId)}
    {e : TxId × List TxId} (h : e ∈ modify f v l) :
    e ∈ l ∨ e.1 = v ∧ (e.2 = f [] ∨ ∃ s, (v, s) ∈ l ∧ e.2 = f s) := by
  induction l with
  | nil => simp_all [modify]
  | cons e' rest ih =>
    unfold modify at h
    split at h
    · rcases List.mem_cons.mp h with rfl | h
      · exact .inr ⟨rfl, .inl rfl⟩
      · exact .inl h
    · split at h
      · rename_i heq
        rcases List.mem_cons.mp h with rfl | h
        · exact .inr ⟨heq.symm, .inr ⟨e'.2, by rw [heq]; exact List.mem_cons_self, rfl⟩⟩
        · exact .inl (List.mem_cons_of_mem _ h)
      · rcases List.mem_cons.mp h with rfl | h
        · exact .inl List.mem_cons_self
        · rcases ih h with h | ⟨hk, hv | ⟨s, hs, hv⟩⟩
          · exact .inl (List.mem_cons_of_mem _ h)
          · exact .inr ⟨hk, .inl hv⟩
          · exact .inr ⟨hk, .inr ⟨s, List.mem_cons_of_mem _ hs, hv⟩⟩

theorem sorted_modify (f : List TxId → List TxId) (v : TxId) {l : List (TxId × List TxId)}
    (h : l.Pairwise fun a b => a.1 < b.1) : (modify f v l).Pairwise fun a b => a.1 < b.1 := by
  induction l with
  | nil => simp [modify]
  | cons e rest ih =>
    obtain ⟨u, s⟩ := e
    rw [List.pairwise_cons] at h
    unfold modify
    split
    · rename_i hlt
      refine List.Pairwise.cons (fun b hb => ?_) (List.Pairwise.cons h.1 h.2)
      rcases List.mem_cons.mp hb with rfl | hb
      · exact hlt
      · exact Nat.lt_trans hlt (h.1 b hb)
    · split
      · rename_i heq
        subst heq
        exact List.Pairwise.cons h.1 h.2
      · rename_i hnlt hne
        refine List.Pairwise.cons (fun b hb => ?_) (ih h.2)
        rcases mem_modify hb with hb | ⟨hb, -⟩
        · exact h.1 b hb
        · show u < b.1
          rw [hb]
          exact Nat.lt_of_le_of_ne (Nat.not_lt.mp hnlt) (Ne.symm hne)

theorem mem_keys_modify {f : List TxId → List TxId} {v x : TxId} {l : List (TxId × List TxId)} :
    x ∈ (modify f v l).map (·.1) ↔ x = v ∨ x ∈ l.map (·.1) := by
  induction l with
  | nil => simp [modify]
  | cons e rest ih =>
    unfold modify
    split
    · simp
    · split
      · rename_i heq; simp [heq]
      · simp only [List.map_cons, List.mem_cons, ih, or_left_comm]

theorem succ_modify (f : List TxId → List TxId) (v : TxId) (h : g.WellFormed) (u : TxId) :
    (⟨modify f v g.adj⟩ : WaitGraph).succ u = if u = v then f (g.succ v) else g.succ u := by
  obtain ⟨l⟩ := g
  have hs : l.Pairwise fun a b => a.1 < b.1 := h.sorted
  unfold succ
  simp only
  clear h
  induction l with
  | nil =>
    by_cases huv : u = v
    · subst huv; simp [modify]
    · simp [modify, huv, Ne.symm huv]
  | cons e rest ih =>
    obtain ⟨w, s⟩ := e
    rw [List.pairwise_cons] at hs
    have hrest : ∀ x ∈ rest, w < x.1 := hs.1
    simp only [modify]
    split
    · rename_i hlt
      -- `v` is new: no entry of the old list has it
      have hnone : (((w, s) :: rest).find? (·.1 = v)).map (·.2) = none := by
        rw [Option.map_eq_none_iff, List.find?_eq_none]
        intro x hx
        rcases List.mem_cons.mp hx with rfl | hx
        · simpa using Nat.ne_of_gt hlt
        · simpa using Nat.ne_of_gt (Nat.lt_trans hlt (hrest x hx))
      by_cases huv : u = v
      · subst huv; simp [hnone]
      · simp [huv, Ne.symm huv]
    · split
      · rename_i heq
        subst heq
        by_cases huv : u = v
        · subst huv; simp
        · simp [huv, Ne.symm huv]
      · rename_i hnlt hne
        by_cases huw : w = u
        · subst huw
          simp [Ne.symm hne]
        · simp only [List.find?_cons, huw, decide_false]
          rw [ih hs.2]
          by_cases huv : u = v
          · subst huv; simp [huw]
          · simp [huv]

theorem WellFormed.modify (h : g.WellFormed) (f : List TxId → List TxId) (v : TxId)
    (hf : ∀ s, ∀ w ∈ f s, w ∈ s ∨ w ∈ g.vertices) :
    (⟨modify f v g.adj⟩ : WaitGraph).WellFormed where
  sorted := sorted_modify f v h.sorted
  succClosed e he w hw := by
    have hold : w ∈ g.vertices := by
      rcases mem_modify he with he | ⟨-, hv | ⟨s, hs, hv⟩⟩
      · exact h.succClosed e he w hw
      · rw [hv] at hw
        rcases hf [] w hw with hw | hw
        · cases hw
        · exact hw
      · rw [hv] at hw
        rcases hf s w hw with hw | hw
        · exact h.succClosed _ hs w hw
        · exact hw
    unfold vertices at hold ⊢
    exact mem_keys_modify.mpr (.inr hold)

theorem succ_subset_vertices (h : g.WellFormed) {v w : TxId} (hw : w ∈ g.succ v) :
    w ∈ g.vertices := by
  unfold succ at hw
  cases hf : g.adj.find? (·.1 = v) with
  | none => simp [hf] at hw
  | some e =>
    rw [hf] at hw
    exact h.succClosed e (List.mem_of_find?_eq_some hf) w hw

/-! ### Adding vertices and edges -/

theorem WellFormed.addVertex (h : g.WellFormed) (v : TxId) : (g.addVertex v).WellFormed :=
  h.modify id v fun _ _ hw => .inl hw

theorem succ_addVertex (h : g.WellFormed) (v u : TxId) : (g.addVertex v).succ u = g.succ u := by
  unfold addVertex
  rw [succ_modify id v h]
  split
  · rename_i huv; subst huv; rfl
  · rfl

theorem mem_vertices_addVertex {v x : TxId} :
    x ∈ (g.addVertex v).vertices ↔ x = v ∨ x ∈ g.vertices :=
  mem_keys_modify

theorem WellFormed.addEdge (h : g.WellFormed) (a b : TxId) : (g.addEdge a b).WellFormed := by
  unfold WaitGraph.addEdge
  split
  · exact h
  · refine (h.addVertex b).modify _ a fun s w hw => ?_
    rcases (IdSet.mem_insert _ _ _).mp hw with rfl | hw
    · exact .inr (mem_vertices_addVertex.mpr (.inl rfl))
    · exact .inl hw

theorem succ_addEdge (h : g.WellFormed) (a b u : TxId) :
    (g.addEdge a b).succ u = if a ≠ b ∧ u = a then IdSet.insert b (g.succ a) else g.succ u := by
  unfold addEdge
  split
  · rename_i hab
    simp [hab]
  · rename_i hab
    rw [succ_modify _ a (h.addVertex b)]
    simp only [succ_addVertex h]
    by_cases hua : u = a
    · subst hua; simp [hab]
    · simp [hua]

/-! ### Finishing orders -/

/-- A list of finished vertices, the latest first, in which every vertex comes before all of
its successors. -/
def Closed (g : WaitGraph) (order : List TxId) : Prop :=
  ∀ pre v post, order = pre ++ v :: post → ∀ w ∈ g.succ v, w ∈ post

theorem closed_nil : g.Closed [] := fun pre v post h => by simp at h

theorem Closed.cons {order : List TxId} (h : g.Closed order) {v : TxId}
    (hv : ∀ w ∈ g.succ v, w ∈ order) : g.Closed (v :: order) := by
  intro pre x post heq
  cases pre with
  | nil =>
    obtain ⟨rfl, rfl⟩ := List.cons.inj heq
    exact hv
  | cons y pre =>
    exact h pre x post (List.cons.inj heq).2

theorem Closed.tail {v : TxId} {order : List TxId} (h : g.Closed (v :: order)) : g.Closed order :=
  fun pre x post heq => h (v :: pre) x post (by rw [heq]; rfl)

theorem Closed.head {v : TxId} {order : List TxId} (h : g.Closed (v :: order)) :
    ∀ w ∈ g.succ v, w ∈ order :=
  h [] v order rfl

/-- No non-empty set of vertices of a finishing order gives each member a predecessor in the
set: its member finished first would have one finished before it. -/
theorem Closed.eq_nil_of_supported {order D : List TxId} (h : g.Closed order)
    (hD : ∀ w ∈ D, w ∈ order) (hsup : ∀ w ∈ D, ∃ u ∈ D, w ∈ g.succ u) : D = [] := by
  induction order with
  | nil => exact List.eq_nil_iff_forall_not_mem.mpr fun w hw => by simpa using hD w hw
  | cons v order ih =>
    by_cases hin : ∀ w ∈ D, w ∈ order
    · exact ih h.tail hin
    · exfalso
      obtain ⟨w, hwD, hwo⟩ : ∃ w ∈ D, w ∉ order := by simpa using hin
      obtain ⟨u, huD, hwu⟩ := hsup w hwD
      rcases List.mem_cons.mp (hD u huD) with rfl | huo
      · exact hwo (h.head w hwu)
      · obtain ⟨pre, post, rfl⟩ := List.append_of_mem huo
        exact hwo (List.mem_append_right _ (List.mem_cons_of_mem _ (h (v :: pre) u post rfl w hwu)))

/-! ### The search -/

theorem length_lt_of_not_mem {path : List TxId} {v : TxId} (hpn : path.Nodup)
    (hpV : ∀ u ∈ path, u ∈ g.vertices) (hv : v ∈ g.vertices) (hvp : v ∉ path) :
    path.length < g.vertices.length := by
  have := List.Nodup.length_le_of_subset (List.nodup_cons.mpr ⟨hvp, hpn⟩) fun u hu => by
    rcases List.mem_cons.mp hu with rfl | hu
    · exact hv
    · exact hpV u hu
  simp only [List.length_cons] at this
  omega

/-- Following the successors `ns` of `v`: when the searches from them end without a back edge,
`v` is finished after all of them. -/
theorem visitSucc_ok (h : g.WellFormed) {fuel : Nat} {v : TxId} {path : List TxId}
    (hvisit : ∀ n done done', g.visit fuel n path done = .ok done' → n ∈ g.vertices → n ∉ path →
      g.Closed done → (∃ new, done' = new ++ done) ∧ n ∈ done' ∧ g.Closed done') :
    ∀ (ns done done' : List TxId), g.visitSucc fuel v path done ns = .ok done' →
      (∀ n ∈ ns, n ∈ g.vertices) → g.Closed done →
      ∃ mid, done' = v :: mid ∧ (∃ new, mid = new ++ done) ∧ (∀ n ∈ ns, n ∈ mid) ∧ g.Closed mid
  | [], done, done', hv, _, hc => by
    rw [visitSucc] at hv
    obtain rfl := (Except.ok.inj hv).symm
    exact ⟨done, rfl, ⟨[], rfl⟩, by simp, hc⟩
  | n :: ns, done, done', hv, hns, hc => by
    have hns' : ∀ m ∈ ns, m ∈ g.vertices := fun m hm => hns m (List.mem_cons_of_mem _ hm)
    rw [visitSucc] at hv
    split at hv
    · cases hv
    · rename_i hp
      split at hv
      · rename_i hd
        obtain ⟨mid, rfl, ⟨new, rfl⟩, hmid, hcm⟩ := visitSucc_ok h hvisit ns done done' hv hns' hc
        refine ⟨_, rfl, ⟨new, rfl⟩, fun m hm => ?_, hcm⟩
        rcases List.mem_cons.mp hm with rfl | hm
        · exact List.mem_append_right _ (by simpa using hd)
        · exact hmid m hm
      · split at hv
        · cases hv
        · rename_i done₁ hv₁
          obtain ⟨⟨new₁, rfl⟩, hn₁, hc₁⟩ :=
            hvisit n done done₁ hv₁ (hns n List.mem_cons_self) (by simpa using hp) hc
          obtain ⟨mid, rfl, ⟨new₂, rfl⟩, hmid, hcm⟩ := visitSucc_ok h hvisit ns _ done' hv hns' hc₁
          refine ⟨_, rfl, ⟨new₂ ++ new₁, by simp⟩, fun m hm => ?_, hcm⟩
          rcases List.mem_cons.mp hm with rfl | hm
          · exact List.mem_append_right _ hn₁
          · exact hmid m hm

/-- A search from `v` that ends without a back edge finishes `v`, adds finished vertices in
front, and keeps the finishing order, as long as the depth bound leaves room for the path. -/
theorem visit_ok (h : g.WellFormed) : ∀ (fuel : Nat) (v : TxId) (path done done' : List TxId),
    g.visit fuel v path done = .ok done' → v ∈ g.vertices → v ∉ path → path.Nodup →
    (∀ u ∈ path, u ∈ g.vertices) → path.length + fuel = g.vertices.length → g.Closed done →
    (∃ new, done' = new ++ done) ∧ v ∈ done' ∧ g.Closed done'
  | 0, v, path, done, done', _, hv, hvp, hpn, hpV, hlen, _ => by
    have := length_lt_of_not_mem hpn hpV hv hvp
    omega
  | fuel + 1, v, path, done, done', hvis, hv, hvp, hpn, hpV, hlen, hc => by
    rw [visit] at hvis
    have hpn' : (v :: path).Nodup := List.nodup_cons.mpr ⟨hvp, hpn⟩
    have hpV' : ∀ u ∈ v :: path, u ∈ g.vertices := fun u hu => by
      rcases List.mem_cons.mp hu with rfl | hu
      · exact hv
      · exact hpV u hu
    have hlen' : (v :: path).length + fuel = g.vertices.length := by simp; omega
    obtain ⟨mid, rfl, ⟨new, rfl⟩, hsucc, hcm⟩ := visitSucc_ok h
      (fun n done done' hn hnV hnp hc => visit_ok h fuel n (v :: path) done done' hn hnV hnp hpn'
        hpV' hlen' hc)
      (g.succ v) done done' hvis (fun n hn => succ_subset_vertices h hn) hc
    exact ⟨⟨v :: new, rfl⟩, List.mem_cons_self, hcm.cons hsucc⟩

/-- Searches started from the vertices `vs` that find no back edge leave every one of them in a
finishing order. -/
theorem searchFrom_none (h : g.WellFormed) : ∀ (vs done : List TxId), g.searchFrom done vs = none →
    (∀ v ∈ vs, v ∈ g.vertices) → g.Closed done →
    ∃ order, g.Closed order ∧ (∀ v ∈ done, v ∈ order) ∧ ∀ v ∈ vs, v ∈ order
  | [], done, _, _, hc => ⟨done, hc, fun _ hv => hv, by simp⟩
  | v :: vs, done, hs, hvs, hc => by
    have hvs' : ∀ u ∈ vs, u ∈ g.vertices := fun u hu => hvs u (List.mem_cons_of_mem _ hu)
    rw [searchFrom] at hs
    split at hs
    · rename_i hd
      obtain ⟨order, hco, hdone, hrest⟩ := searchFrom_none h vs done hs hvs' hc
      refine ⟨order, hco, hdone, fun x hx => ?_⟩
      rcases List.mem_cons.mp hx with rfl | hx
      · exact hdone x (by simpa using hd)
      · exact hrest x hx
    · split at hs
      · cases hs
      · rename_i done₁ hv₁
        have hlen : ([] : List TxId).length + g.adj.length = g.vertices.length := by simp [vertices]
        obtain ⟨⟨new, rfl⟩, hvin, hc₁⟩ := visit_ok h _ v [] done done₁ hv₁
          (hvs v List.mem_cons_self) (by simp) List.nodup_nil (by simp) hlen hc
        obtain ⟨order, hco, hdone, hrest⟩ := searchFrom_none h vs _ hs hvs' hc₁
        refine ⟨order, hco, fun x hx => hdone x (List.mem_append_right _ hx), fun x hx => ?_⟩
        rcases List.mem_cons.mp hx with rfl | hx
        · exact hdone _ hvin
        · exact hrest x hx

/-- A search that reports no back edge lists every vertex in a finishing order. -/
theorem exists_closed_of_findCycle?_eq_none (h : g.WellFormed) (hn : g.findCycle? = none) :
    ∃ order, g.Closed order ∧ ∀ v ∈ g.vertices, v ∈ order := by
  obtain ⟨order, hc, -, hv⟩ := searchFrom_none h g.vertices [] hn (fun _ hv => hv) closed_nil
  exact ⟨order, hc, hv⟩

/-- If every member of a non-empty set of vertices has a predecessor in the set (a cycle is one
such set), the search reports a back edge. -/
theorem findCycle?_isSome_of_supported (h : g.WellFormed) {D : List TxId} (hD : D ≠ [])
    (hsup : ∀ w ∈ D, ∃ u ∈ D, w ∈ g.succ u) : g.findCycle?.isSome := by
  cases hn : g.findCycle? with
  | some _ => rfl
  | none =>
    obtain ⟨order, hc, hv⟩ := exists_closed_of_findCycle?_eq_none h hn
    have hDo : ∀ w ∈ D, w ∈ order := fun w hw => by
      obtain ⟨u, -, hwu⟩ := hsup w hw
      exact hv w (succ_subset_vertices h hwu)
    exact absurd (hc.eq_nil_of_supported hDo hsup) hD

/-! ### Back edges are edges -/

theorem visitSucc_error {fuel : Nat} {v : TxId} {path : List TxId}
    (hvisit : ∀ n done e, g.visit fuel n path done = .error e → e.2 ∈ g.succ e.1) :
    ∀ (ns done : List TxId) (e : TxId × TxId), g.visitSucc fuel v path done ns = .error e →
      (∀ n ∈ ns, n ∈ g.succ v) → e.2 ∈ g.succ e.1
  | [], done, e, hv, _ => by
    rw [visitSucc] at hv
    cases hv
  | n :: ns, done, e, hv, hns => by
    have hns' : ∀ m ∈ ns, m ∈ g.succ v := fun m hm => hns m (List.mem_cons_of_mem _ hm)
    rw [visitSucc] at hv
    split at hv
    · cases hv
      exact hns n List.mem_cons_self
    · split at hv
      · exact visitSucc_error hvisit ns done e hv hns'
      · split at hv
        · rename_i e' hv'
          obtain rfl := Except.error.inj hv
          exact hvisit n done e' hv'
        · exact visitSucc_error hvisit ns _ e hv hns'

theorem visit_error : ∀ (fuel : Nat) (v : TxId) (path done : List TxId) (e : TxId × TxId),
    g.visit fuel v path done = .error e → e.2 ∈ g.succ e.1
  | 0, _, _, _, _, hv => by
    rw [visit] at hv
    cases hv
  | fuel + 1, v, path, done, e, hv => by
    rw [visit] at hv
    exact visitSucc_error (fun n done e hn => visit_error fuel n (v :: path) done e hn)
      (g.succ v) done e hv fun _ hn => hn

theorem searchFrom_some : ∀ (vs done : List TxId) (e : TxId × TxId),
    g.searchFrom done vs = some e → e.2 ∈ g.succ e.1
  | [], _, _, hs => by
    rw [searchFrom] at hs
    cases hs
  | v :: vs, done, e, hs => by
    rw [searchFrom] at hs
    split at hs
    · exact searchFrom_some vs done e hs
    · split at hs
      · rename_i e' hv
        obtain rfl := Option.some.inj hs
        exact visit_error _ v [] done e' hv
      · exact searchFrom_some vs _ e hs

theorem mem_succ_of_findCycle? {u v : TxId} (h : g.findCycle? = some (u, v)) : v ∈ g.succ u :=
  searchFrom_some _ _ _ h

end WaitGraph
end TwoPhaseLocking
