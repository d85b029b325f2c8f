import TwoPhaseLocking.System.Basic

/-!
The shared state seen one site at a time. Setting a site's state, taking its abort flag and
delivering a call to it change that site's control block and no other one, and leave the
coordinator and the store alone. With every site bound, the notices of the coordinator are its
calls, one notice each; the calls that wake a site are its aborts and unblocks.
-/
namespace TwoPhaseLocking

namespace SiteControl

@[simp] theorem site_receive (c : SiteControl) (k : SiteCall) : (c.receive k).site = c.site := by
  cases k <;> by_cases h : c.state = .blocked <;> simp [receive, requestAbort, releaseBlock, h]

theorem receive_unblock_blocked {c : SiteControl} (h : c.state = .blocked) :
    c.receive .unblock = { c with state := .running } := by
  simp [receive, releaseBlock, h]

theorem receive_abort_blocked {c : SiteControl} (h : c.state = .blocked) :
    c.receive .abort = { c with state := .running, abortRequested := true } := by
  simp [receive, releaseBlock, requestAbort, h]

@[simp] theorem receive_write (c : SiteControl) : c.receive .write = c := rfl

end SiteControl

namespace World

variable {w : World} {c : SiteControl} {s s' : SiteId}

def HasControl (w : World) (s : SiteId) : Prop := ∃ c ∈ w.controls, c.site = s

@[simp] theorem site_control (w : World) (s : SiteId) : (w.control s).site = s := by
  unfold control
  cases h : w.controls.find? (·.site = s) with
  | none => rfl
  | some c =>
    simp only [Option.getD_some]
    simpa using List.find?_some h

theorem find?_map_setControl_ne (l : List SiteControl) (c : SiteControl) (hs : c.site ≠ s) :
    (l.map fun d => if d.site = c.site then c else d).find? (·.site = s) =
      l.find? (·.site = s) := by
  induction l with
  | nil => rfl
  | cons d l ih =>
    by_cases hd : d.site = c.site
    · simp [hd, hs, ih]
    · simp only [List.map_cons, hd, if_false, List.find?_cons, ih]

theorem find?_map_setControl_self {l : List SiteControl} (hc : ∃ d ∈ l, d.site = c.site) :
    (l.map fun d => if d.site = c.site then c else d).find? (·.site = c.site) = some c := by
  induction l with
  | nil => simp at hc
  | cons d l ih =>
    by_cases hd : d.site = c.site
    · simp [hd]
    · obtain ⟨d', hd', hd's⟩ := hc
      have hl : ∃ d ∈ l, d.site = c.site := by
        rcases List.mem_cons.mp hd' with rfl | hd'
        · exact absurd hd's hd
        · exact ⟨d', hd', hd's⟩
      simp [hd, ih hl]

theorem control_setControl (h : w.HasControl c.site) (s : SiteId) :
    (w.setControl c).control s = if c.site = s then c else w.control s := by
  unfold control setControl
  split
  · rename_i hs
    subst hs
    rw [find?_map_setControl_self h]
    rfl
  · rename_i hs
    rw [find?_map_setControl_ne _ _ hs]

theorem hasControl_setControl : (w.setControl c).HasControl s ↔ w.HasControl s := by
  unfold HasControl setControl
  constructor
  · rintro ⟨d, hd, rfl⟩
    obtain ⟨d', hd', rfl⟩ := List.mem_map.mp hd
    by_cases h : d'.site = c.site
    · simp only [h, if_true]
      exact ⟨d', hd', h⟩
    · simp only [h, if_false]
      exact ⟨d', hd', rfl⟩
  · rintro ⟨d, hd, rfl⟩
    refine ⟨if d.site = c.site then c else d, List.mem_map_of_mem hd, ?_⟩
    split
    · rename_i h
      exact h.symm
    · rfl

/-! ### One site's control block -/

theorem control_setState (h : w.HasControl s) (st : SiteState) (s' : SiteId) :
    (w.setState s st).control s' = if s = s' then { w.control s with state := st } else w.control s' := by
  unfold setState
  rw [control_setControl (by simpa using h)]
  simp

theorem hasControl_setState (st : SiteState) : (w.setState s st).HasControl s' ↔ w.HasControl s' :=
  hasControl_setControl

@[simp] theorem takeAbort_fst (w : World) (s : SiteId) :
    (w.takeAbort s).1 = (w.control s).abortRequested := rfl

theorem takeAbort_eq_pair (w : World) (s : SiteId) :
    w.takeAbort s = ((w.control s).abortRequested, (w.takeAbort s).2) := rfl

theorem control_takeAbort (h : w.HasControl s) (s' : SiteId) :
    (w.takeAbort s).2.control s' =
      if s = s' then { w.control s with abortRequested := false } else w.control s' := by
  unfold takeAbort SiteControl.takeAbort
  rw [control_setControl (by simpa using h)]
  simp

theorem hasControl_takeAbort : (w.takeAbort s).2.HasControl s' ↔ w.HasControl s' :=
  hasControl_setControl

theorem control_of_controls {w w' : World} (h : w.controls = w'.controls) (s : SiteId) :
    w.control s = w'.control s := by
  unfold control
  rw [h]

theorem controls_deliver (w : World) (s : SiteId) (k : SiteCall) :
    (w.deliver s k).controls = (w.setControl ((w.control s).receive k)).controls := by
  unfold deliver
  dsimp only
  split <;> rfl

theorem control_deliver (h : w.HasControl s) (k : SiteCall) (s' : SiteId) :
    (w.deliver s k).control s' = if s = s' then (w.control s).receive k else w.control s' := by
  have hc : w.HasControl ((w.control s).receive k).site := by
    rw [SiteControl.site_receive, site_control]
    exact h
  rw [control_of_controls (controls_deliver w s k), control_setControl hc]
  simp

theorem hasControl_deliver (k : SiteCall) : (w.deliver s k).HasControl s' ↔ w.HasControl s' := by
  unfold HasControl
  rw [controls_deliver]
  exact hasControl_setControl

/-! ### What a site's own steps leave alone -/

@[simp] theorem coord_setState (w : World) (s : SiteId) (st : SiteState) :
    (w.setState s st).coord = w.coord := rfl

@[simp] theorem store_setState (w : World) (s : SiteId) (st : SiteState) :
    (w.setState s st).store = w.store := rfl

@[simp] theorem coord_takeAbort (w : World) (s : SiteId) : (w.takeAbort s).2.coord = w.coord := rfl

@[simp] theorem store_takeAbort (w : World) (s : SiteId) : (w.takeAbort s).2.store = w.store := rfl

@[simp] theorem coord_deliver (w : World) (s : SiteId) (k : SiteCall) :
    (w.deliver s k).coord = w.coord := by
  unfold deliver
  dsimp only
  split <;> rfl

@[simp] theorem store_deliver (w : World) (s : SiteId) (k : SiteCall) :
    (w.deliver s k).store = w.store := by
  unfold deliver
  dsimp only
  split <;> rfl

end World

/-! ### Notices -/

namespace Coordinator

theorem notices_of_bound (c : Coordinator Unit) {calls : List (SiteId × SiteCall)}
    (h : ∀ p ∈ calls, c.endpoint? p.1 = some ()) :
    c.notices calls = calls.map fun p => ⟨p.1, (), p.2⟩ := by
  induction calls with
  | nil => rfl
  | cons p calls ih =>
    obtain ⟨s, k⟩ := p
    have hs : c.endpoint? s = some () := h (s, k) List.mem_cons_self
    simp only [notices, List.filterMap_cons, hs, Option.map_some, List.map_cons] at ih ⊢
    rw [ih fun q hq => h q (List.mem_cons_of_mem _ hq)]

end Coordinator

namespace Notice

/-- The calls among `ns` that wake site `s`: its aborts and unblocks, in order. -/
def wakeups (ns : List (Notice Unit)) (s : SiteId) : List SiteCall :=
  (ns.filter fun n => n.site = s ∧ n.call ≠ .write).map (·.call)

@[simp] theorem wakeups_nil (s : SiteId) : wakeups [] s = [] := rfl

@[simp] theorem wakeups_append (ns ns' : List (Notice Unit)) (s : SiteId) :
    wakeups (ns ++ ns') s = wakeups ns s ++ wakeups ns' s := by
  simp [wakeups, List.filter_append]

@[simp] theorem wakeups_cons (n : Notice Unit) (ns : List (Notice Unit)) (s : SiteId) :
    wakeups (n :: ns) s =
      (if n.site = s ∧ n.call ≠ .write then [n.call] else []) ++ wakeups ns s := by
  unfold wakeups
  by_cases h : n.site = s ∧ n.call ≠ .write <;> simp [h]

theorem wakeups_release {sites : List SiteId} (hnd : sites.Nodup) (s : SiteId) :
    wakeups ((sites.flatMap fun s => [(s, SiteCall.write), (s, .unblock)]).map
      fun p => ⟨p.1, (), p.2⟩) s = if s ∈ sites then [.unblock] else [] := by
  induction sites with
  | nil => simp
  | cons s' sites ih =>
    obtain ⟨hs', hnd⟩ := List.nodup_cons.mp hnd
    simp only [List.flatMap_cons, List.map_append, wakeups_append, ih hnd]
    by_cases h : s' = s
    · subst h
      simp [hs']
    · simp [h, Ne.symm h]

/-- A check that found a deadlock wakes the victim's site with an abort, then each site the
abort granted. -/
theorem wakeups_check (victim : SiteId) (sites : List SiteId) (hnd : sites.Nodup) (s : SiteId) :
    wakeups (((victim, SiteCall.abort) :: sites.map (·, SiteCall.unblock)).map
      fun p => ⟨p.1, (), p.2⟩) s =
      (if victim = s then [.abort] else []) ++ if s ∈ sites then [.unblock] else [] := by
  rw [List.map_cons, wakeups_cons]
  congr 1
  · by_cases h : victim = s <;> simp [h]
  · induction sites with
    | nil => simp
    | cons s' sites ih =>
      obtain ⟨hs', hnd⟩ := List.nodup_cons.mp hnd
      simp only [List.map_cons, wakeups_cons, ih hnd]
      by_cases h : s' = s
      · subst h
        simp [hs']
      · simp [h, Ne.symm h]

end Notice
end TwoPhaseLocking
