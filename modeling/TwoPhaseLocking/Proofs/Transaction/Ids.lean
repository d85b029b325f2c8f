import TwoPhaseLocking.Transaction.Basic

/-!
The transaction ids a site hands out: consecutive ids `site * 10000 + n` until the sequence or
the 32-bit range runs out, then refusals that leave the generator where it was
(`IdGen.draws_new`).
-/
namespace TwoPhaseLocking
namespace IdGen

/-- How many more ids the generator hands out: the sequence number stays below 10000 and the id
within 32 bits. -/
def room (g : IdGen) : Nat := min (idSpan - g.next) (u32Max + 1 - (g.site * idSpan + g.next))

/-- How many ids a fresh generator of site `s` hands out: 9999, fewer when the ids of the site
run past the 32-bit range, none when the site itself does. -/
def capacity (s : SiteId) : Nat :=
  if s * idSpan ≤ u32Max then min 9999 (u32Max - s * idSpan) else 0

/-- The answers of `n` draws in a row, and the generator after them; a refused draw leaves the
generator as it was. -/
def draws (g : IdGen) : Nat → List (Except Error TxId) × IdGen
  | 0 => ([], g)
  | n + 1 =>
    match g.draw with
    | .ok (id, g') => ((.ok id) :: (g'.draws n).1, (g'.draws n).2)
    | .error e => ((.error e) :: (g.draws n).1, (g.draws n).2)

theorem draw_eq (g : IdGen) :
    g.draw = if 0 < g.room then .ok (g.site * idSpan + g.next, { g with next := g.next + 1 })
      else .error (.idsExhausted g.site) := by
  have hc : (g.next < idSpan ∧ g.site * idSpan + g.next ≤ u32Max) ↔ 0 < g.room := by
    simp only [room, idSpan, u32Max]
    -- `omega` reads only `Nat`, not the abbreviation for site ids
    unfold SiteId
    omega
  simp only [draw, hc]

theorem room_advance (g : IdGen) : { g with next := g.next + 1 }.room = g.room - 1 := by
  simp only [room, idSpan, u32Max]
  unfold SiteId
  omega

@[simp] theorem room_new (s : SiteId) : (new s).room = capacity s := by
  unfold capacity
  split
  all_goals
    simp only [room, new, idSpan, u32Max] at *
    unfold SiteId at *
    omega

/-- Draws in a row from any generator: the first `room` give consecutive ids, the rest are
refused and leave the generator alone. -/
theorem draws_eq (g : IdGen) (n : Nat) :
    g.draws n =
      ((List.range n).map fun k =>
          if k < g.room then .ok (g.site * idSpan + (g.next + k)) else .error (.idsExhausted g.site),
        { g with next := g.next + min n g.room }) := by
  induction n generalizing g with
  | zero => simp [draws]
  | succ n ih =>
    rw [draws, draw_eq, List.range_succ_eq_map, List.map_cons, List.map_map]
    by_cases hr : 0 < g.room
    · -- the draw succeeds; the rest runs from the advanced generator, which has one less room
      simp only [hr, if_true, ih, room_advance]
      refine Prod.ext (List.cons_eq_cons.mpr ⟨by simp, List.map_congr_left fun k _ => ?_⟩) ?_
      · by_cases hk : k < g.room - 1
        · simp only [Function.comp, hk, if_true, show k + 1 < g.room by omega]
          unfold TxId SiteId
          exact congrArg Except.ok (by omega)
        · simp [Function.comp, hk, show ¬k + 1 < g.room by omega]
      · simp only
        congr 1
        omega
    · -- the draw is refused, and so is every later one
      have h0 : g.room = 0 := by omega
      simp only [ih, h0, Nat.lt_irrefl, ↓reduceIte, Nat.not_lt_zero, Nat.zero_le, Nat.min_eq_right,
        Nat.add_zero, Nat.le_add_left, Prod.mk.injEq, List.cons.injEq, List.map_inj_left,
        List.mem_range, Function.comp_apply, implies_true, and_self]

theorem lt_capacity_iff (s : SiteId) (k : Nat) :
    k < capacity s ↔ k + 1 < idSpan ∧ s * idSpan + (k + 1) ≤ u32Max := by
  unfold capacity
  split
  all_goals
    simp only [idSpan, u32Max] at *
    unfold SiteId at *
    omega

theorem draws_new_eq (s : SiteId) (n : Nat) :
    (new s).draws n =
      ((List.range n).map fun k =>
          if k < capacity s then .ok (s * idSpan + (k + 1)) else .error (.idsExhausted s),
        ⟨s, min n (capacity s) + 1⟩) := by
  rw [draws_eq, room_new]
  simp only [new, Nat.add_comm 1]

theorem mem_draws_new {s : SiteId} {n : Nat} {id : TxId} :
    .ok id ∈ ((new s).draws n).1 ↔ ∃ k, k < n ∧ k < capacity s ∧ id = s * idSpan + (k + 1) := by
  rw [draws_new_eq]
  simp only [List.mem_map, List.mem_range]
  constructor
  · rintro ⟨k, hk, heq⟩
    by_cases hc : k < capacity s
    · rw [if_pos hc] at heq
      exact ⟨k, hk, hc, (Except.ok.inj heq).symm⟩
    · rw [if_neg hc] at heq
      cases heq
  · rintro ⟨k, hk, hc, rfl⟩
    exact ⟨k, hk, by rw [if_pos hc]⟩

/-- What every id handed out by a fresh generator says about its site. -/
theorem siteOf_of_mem_draws_new {s : SiteId} {n : Nat} {id : TxId}
    (h : .ok id ∈ ((new s).draws n).1) :
    siteOf id = s ∧ 1 ≤ id % idSpan ∧ id % idSpan ≤ 9999 ∧ id ≤ u32Max := by
  obtain ⟨k, -, hc, rfl⟩ := mem_draws_new.mp h
  have hk := (lt_capacity_iff s k).mp hc
  simp only [siteOf, idSpan, u32Max] at hk ⊢
  unfold SiteId TxId at *
  omega

/-- The ids of a site. Draws in a row from a fresh generator of site `s` give
`s * 10000 + 1`, `s * 10000 + 2`, ... for as long as the capacity of the site lasts, and are
refused from then on, each refusal leaving the generator where it was. Every id handed out
names `s` as its site, has a sequence number from 1 to 9999 and fits in 32 bits; so ids of two
sites never meet, and an id leads back to the site that made it. -/
theorem draws_new (s : SiteId) (n : Nat) :
    (new s).draws n =
      ((List.range n).map fun k =>
          if k < capacity s then .ok (s * idSpan + (k + 1)) else .error (.idsExhausted s),
        ⟨s, min n (capacity s) + 1⟩) ∧
    (∀ id, .ok id ∈ ((new s).draws n).1 →
      siteOf id = s ∧ 1 ≤ id % idSpan ∧ id % idSpan ≤ 9999 ∧ id ≤ u32Max) ∧
    (∀ s' n' id, .ok id ∈ ((new s).draws n).1 → .ok id ∈ ((new s').draws n').1 → s = s') := by
  refine ⟨draws_new_eq s n, fun id h => siteOf_of_mem_draws_new h, fun s' n' id h h' => ?_⟩
  exact (siteOf_of_mem_draws_new h).1.symm.trans (siteOf_of_mem_draws_new h').1

/-- Site 429496 is the last whose ids fit in 32 bits at all, and only 7295 of them do: the last
is 4294967295, the greatest 32-bit number, and the draw after it is refused. -/
theorem last_site_ids :
    ((new 429496).draws 7296).1[7294]? = some (.ok 4294967295) ∧
      ((new 429496).draws 7296).1[7295]? = some (.error (.idsExhausted 429496)) := by
  rw [(draws_new 429496 7296).1]
  have hc : capacity 429496 = 7295 := by decide
  simp [hc, idSpan]

end IdGen
end TwoPhaseLocking
