import TwoPhaseLocking.Proofs.Script.Line

/-!
What a whole script reads as: silent lines, then blocks, each a marker that draws the next id
and a body of operation lines. The reader accepts exactly the scripts of this form and, on a
refusal, names the first line no reading gets past (`Script.parse_reads`).
-/
namespace TwoPhaseLocking
namespace Script

open Text

/-! ### The grammar of a script -/

/-- The body of the transaction `tx`, line by line: silent lines are skipped and every other
line is an operation of `tx`. -/
inductive Body (tx : TxId) : List (List Char) → List Operation → Prop
  | nil : Body tx [] []
  | silent {l : List Char} {ls : List (List Char)} {ops : List Operation} :
      Silent l → Body tx ls ops → Body tx (l :: ls) ops
  | op {l : List Char} {ls : List (List Char)} {ops : List Operation} {k : OpKind}
      {item : String} : OpLine l (k, item) → Body tx ls ops → Body tx (l :: ls) (⟨tx, item, k⟩ :: ops)

/-- Blocks, each a marker and a body, between two generators: each marker draws the next id. -/
inductive Blocks : IdGen → List (List Char) → List Transaction → IdGen → Prop
  | nil {g : IdGen} : Blocks g [] [] g
  | cons {g g₁ g' : IdGen} {m : List Char} {body rest : List (List Char)} {id : TxId}
      {ops : List Operation} {txs : List Transaction} :
      Marker m → g.draw = .ok (id, g₁) → Body id body ops → Blocks g₁ rest txs g' →
      Blocks g (m :: (body ++ rest)) (⟨id, ops⟩ :: txs) g'

/-- A script: silent lines, then blocks. -/
inductive Reads : IdGen → List (List Char) → List Transaction → IdGen → Prop
  | blocks {g g' : IdGen} {ls : List (List Char)} {txs : List Transaction} :
      Blocks g ls txs g' → Reads g ls txs g'
  | silent {g g' : IdGen} {l : List Char} {ls : List (List Char)} {txs : List Transaction} :
      Silent l → Reads g ls txs g' → Reads g (l :: ls) txs g'

/-- What is left to read, with the transaction being read: with none, a script; with one, the
rest of its body and then blocks. -/
def Continues : Option Transaction → IdGen → List (List Char) → List Transaction → IdGen → Prop
  | none, g, ls, txs, g' => Reads g ls txs g'
  | some t, g, ls, txs, g' => ∃ body rest ops txs', ls = body ++ rest ∧ Body t.id body ops ∧
      Blocks g rest txs' g' ∧ txs = { t with ops := t.ops ++ ops } :: txs'

variable {tx : TxId} {g g' : IdGen} {l : List Char} {ls : List (List Char)}
  {ops : List Operation} {txs : List Transaction}

/-! ### Inversion -/

theorem Blocks.marker (h : Blocks g (l :: ls) txs g') : Marker l := by
  cases h with
  | cons hm => exact hm

theorem Body.not_marker (h : Body tx (l :: ls) ops) (hm : Marker l) : False := by
  cases h with
  | silent hs => exact hs.not_marker hm
  | op ho => exact ho.not_marker hm

theorem body_nil_iff : Body tx [] ops ↔ ops = [] := by
  constructor
  · intro h
    cases h
    rfl
  · rintro rfl
    exact .nil

theorem blocks_nil_iff : Blocks g [] txs g' ↔ txs = [] ∧ g' = g := by
  constructor
  · intro h
    cases h
    exact ⟨rfl, rfl⟩
  · rintro ⟨rfl, rfl⟩
    exact .nil

theorem reads_nil_iff : Reads g [] txs g' ↔ txs = [] ∧ g' = g := by
  constructor
  · intro h
    cases h with
    | blocks hb => exact blocks_nil_iff.mp hb
  · intro h
    exact .blocks (blocks_nil_iff.mpr h)

/-- Blocks that start at a marker: the marker draws an id, and a transaction with that id and no
operations is being read. -/
theorem blocks_cons_iff (hm : Marker l) : Blocks g (l :: ls) txs g' ↔
    ∃ id g₁, g.draw = .ok (id, g₁) ∧ Continues (some { id }) g₁ ls txs g' := by
  constructor
  · intro h
    cases h with
    | cons _ hdraw hbody hblocks => exact ⟨_, _, hdraw, _, _, _, _, rfl, hbody, hblocks, rfl⟩
  · rintro ⟨id, g₁, hdraw, body, rest, ops, txs', rfl, hbody, hblocks, rfl⟩
    exact .cons hm hdraw hbody hblocks

/-! ### One transaction for each marker -/

theorem Body.countP_opensTransaction (h : Body tx ls ops) : ls.countP opensTransaction = 0 := by
  induction h with
  | nil => rfl
  | silent hs _ ih =>
    have hf : ¬opensTransaction _ = true := fun h => hs.not_marker (opensTransaction_eq_true_iff.mp h)
    rw [List.countP_cons, ih, if_neg hf]
  | op ho _ ih =>
    have hf : ¬opensTransaction _ = true := fun h => ho.not_marker (opensTransaction_eq_true_iff.mp h)
    rw [List.countP_cons, ih, if_neg hf]

theorem Blocks.length_eq_countP (h : Blocks g ls txs g') :
    txs.length = ls.countP opensTransaction := by
  induction h with
  | nil => rfl
  | cons hm _ hbody _ ih =>
    rw [List.countP_cons, List.countP_append, hbody.countP_opensTransaction, ← ih,
      if_pos (opensTransaction_eq_true_iff.mpr hm)]
    simp

theorem Reads.length_eq_countP (h : Reads g ls txs g') :
    txs.length = ls.countP opensTransaction := by
  induction h with
  | blocks hb => exact hb.length_eq_countP
  | silent hs _ ih =>
    have hf : ¬opensTransaction _ = true := fun h => hs.not_marker (opensTransaction_eq_true_iff.mp h)
    rw [List.countP_cons, if_neg hf, ih]
    rfl

/-! ### One line at a time -/

section Step

variable {cur : Option Transaction}

theorem continues_nil : Continues cur g [] txs g' ↔ txs = cur.toList ∧ g' = g := by
  cases cur with
  | none => exact reads_nil_iff
  | some t =>
    constructor
    · rintro ⟨body, rest, ops, txs', hsplit, hbody, hblocks, rfl⟩
      obtain ⟨rfl, rfl⟩ := List.append_eq_nil_iff.mp hsplit.symm
      obtain rfl := body_nil_iff.mp hbody
      obtain ⟨rfl, rfl⟩ := blocks_nil_iff.mp hblocks
      simp
    · rintro ⟨rfl, rfl⟩
      exact ⟨[], [], [], [], rfl, .nil, .nil, by simp⟩

theorem continues_silent (hs : Silent l) :
    Continues cur g (l :: ls) txs g' ↔ Continues cur g ls txs g' := by
  cases cur with
  | none =>
    constructor
    · intro h
      cases h with
      | blocks hb => exact absurd hb.marker hs.not_marker
      | silent _ h => exact h
    · exact .silent hs
  | some t =>
    constructor
    · rintro ⟨body, rest, ops, txs', hsplit, hbody, hblocks, rfl⟩
      -- the silent line is the body's first line: blocks start at a marker
      cases body with
      | nil =>
        rw [List.nil_append] at hsplit
        rw [← hsplit] at hblocks
        exact absurd hblocks.marker hs.not_marker
      | cons l' body =>
        obtain ⟨rfl, rfl⟩ := List.cons.inj hsplit
        cases hbody with
        | silent _ hbody => exact ⟨body, rest, ops, txs', rfl, hbody, hblocks, rfl⟩
        | op ho => exact absurd hs ho.not_silent
    · rintro ⟨body, rest, ops, txs', rfl, hbody, hblocks, rfl⟩
      exact ⟨l :: body, rest, ops, txs', rfl, .silent hs hbody, hblocks, rfl⟩

theorem continues_marker (hm : Marker l) : Continues cur g (l :: ls) txs g' ↔
    ∃ id g₁ txs', g.draw = .ok (id, g₁) ∧ Continues (some { id }) g₁ ls txs' g' ∧
      txs = cur.toList ++ txs' := by
  cases cur with
  | none =>
    constructor
    · intro h
      cases h with
      | blocks hb =>
        obtain ⟨id, g₁, hdraw, hc⟩ := (blocks_cons_iff hm).mp hb
        exact ⟨id, g₁, txs, hdraw, hc, rfl⟩
      | silent hs => exact absurd hm hs.not_marker
    · rintro ⟨id, g₁, txs', hdraw, hc, rfl⟩
      exact .blocks ((blocks_cons_iff hm).mpr ⟨id, g₁, hdraw, hc⟩)
  | some t =>
    constructor
    · rintro ⟨body, rest, ops, txs', hsplit, hbody, hblocks, rfl⟩
      -- a marker ends the body, which is then empty
      cases body with
      | nil =>
        obtain rfl := body_nil_iff.mp hbody
        rw [List.nil_append] at hsplit
        rw [← hsplit] at hblocks
        obtain ⟨id, g₁, hdraw, hc⟩ := (blocks_cons_iff hm).mp hblocks
        exact ⟨id, g₁, txs', hdraw, hc, by simp⟩
      | cons l' body =>
        obtain ⟨rfl, -⟩ := List.cons.inj hsplit
        exact (hbody.not_marker hm).elim
    · rintro ⟨id, g₁, txs', hdraw, hc, rfl⟩
      exact ⟨[], l :: ls, [], txs', rfl, .nil, (blocks_cons_iff hm).mpr ⟨id, g₁, hdraw, hc⟩,
        by simp⟩

theorem not_continues_none (hs : ¬Silent l) (hm : ¬Marker l) :
    ¬Continues none g (l :: ls) txs g' := by
  intro h
  cases h with
  | blocks hb => exact hm hb.marker
  | silent hs' => exact hs hs'

theorem continues_some_other {t : Transaction} (hs : ¬Silent l) (hm : ¬Marker l) :
    Continues (some t) g (l :: ls) txs g' ↔
      ∃ k item, OpLine l (k, item) ∧ Continues (some (t.push k item)) g ls txs g' := by
  constructor
  · rintro ⟨body, rest, ops, txs', hsplit, hbody, hblocks, rfl⟩
    cases body with
    | nil =>
      rw [List.nil_append] at hsplit
      rw [← hsplit] at hblocks
      exact absurd hblocks.marker hm
    | cons l' body =>
      obtain ⟨rfl, rfl⟩ := List.cons.inj hsplit
      cases hbody with
      | silent hs' => exact absurd hs' hs
      | @op _ _ ops k item ho hbody =>
        exact ⟨k, item, ho, body, rest, ops, txs', rfl, hbody, hblocks,
          by simp [Transaction.push]⟩
  · rintro ⟨k, item, ho, body, rest, ops, txs', rfl, hbody, hblocks, rfl⟩
    exact ⟨l :: body, rest, ⟨t.id, item, k⟩ :: ops, txs', rfl, .op ho hbody, hblocks,
      by simp [Transaction.push]⟩

/-! The same steps, one for each branch of the reader. -/

theorem continues_marker_draw {id : TxId} {g₁ : IdGen} (hm : Marker l)
    (hd : g.draw = .ok (id, g₁)) : Continues cur g (l :: ls) txs g' ↔
      ∃ txs', Continues (some { id }) g₁ ls txs' g' ∧ txs = cur.toList ++ txs' := by
  rw [continues_marker hm]
  constructor
  · rintro ⟨id', g₁', txs', hdraw, hc, rfl⟩
    rw [hd] at hdraw
    cases hdraw
    exact ⟨txs', hc, rfl⟩
  · rintro ⟨txs', hc, rfl⟩
    exact ⟨id, g₁, txs', hd, hc, rfl⟩

theorem not_continues_marker_error {e : Error} (hm : Marker l) (hd : g.draw = .error e) :
    ¬Continues cur g (l :: ls) txs g' := by
  intro hc
  obtain ⟨id, g₁, -, hdraw, -⟩ := (continues_marker hm).mp hc
  rw [hd] at hdraw
  cases hdraw

theorem continues_some_op {t : Transaction} {k : OpKind} {item : String} (hs : ¬Silent l)
    (hm : ¬Marker l) (ho : operation? l = .ok (k, item)) :
    Continues (some t) g (l :: ls) txs g' ↔ Continues (some (t.push k item)) g ls txs g' := by
  rw [continues_some_other hs hm]
  constructor
  · rintro ⟨k', item', hop, hc⟩
    rw [← operation?_eq_ok_iff, ho] at hop
    cases hop
    exact hc
  · intro hc
    exact ⟨k, item, operation?_eq_ok_iff.mp ho, hc⟩

theorem not_continues_some_error {t : Transaction} {f : LineFault} (hs : ¬Silent l)
    (hm : ¬Marker l) (ho : operation? l = .error f) : ¬Continues (some t) g (l :: ls) txs g' := by
  intro hc
  obtain ⟨k, item, hop, -⟩ := (continues_some_other hs hm).mp hc
  rw [← operation?_eq_ok_iff, ho] at hop
  cases hop

end Step

/-! ### The reader's loop -/

/-- The reader finishes exactly the numbered lines whose trimmed text is what is left to read,
and returns the transactions finished before them followed by those the lines read as. -/
theorem readLines_eq_ok_iff (nls : List (Nat × List Char)) (gen g' : IdGen)
    (done txs : List Transaction) (cur : Option Transaction) :
    readLines gen done cur nls = (.ok txs, g') ↔
      ∃ txs₀, txs = done.reverse ++ txs₀ ∧ Continues cur gen (nls.map fun p => trim p.2) txs₀ g' := by
  -- induction on the lines, with everything the reader carries generalized
  induction nls generalizing gen done cur txs with
  | nil =>
    rw [List.map_nil]
    simp only [readLines, continues_nil, Prod.mk.injEq, Except.ok.injEq]
    constructor
    · rintro ⟨rfl, rfl⟩
      exact ⟨_, rfl, rfl, rfl⟩
    · rintro ⟨txs₀, rfl, rfl, rfl⟩
      exact ⟨rfl, rfl⟩
  | cons p nls ih =>
    obtain ⟨n, raw⟩ := p
    rw [List.map_cons]
    simp only [readLines]
    by_cases hs : isSilent (trim raw) = true
    · rw [if_pos hs, ih]
      simp only [continues_silent (isSilent_eq_true_iff.mp hs)]
    rw [if_neg hs]
    have hs' : ¬Silent (trim raw) := fun h => hs (isSilent_eq_true_iff.mpr h)
    by_cases hm : opensTransaction (trim raw) = true
    · rw [if_pos hm]
      have hmk := opensTransaction_eq_true_iff.mp hm
      cases hd : gen.draw with
      | error e => simp [not_continues_marker_error hmk hd]
      | ok r =>
        obtain ⟨id, g₁⟩ := r
        simp only [ih, continues_marker_draw hmk hd]
        -- the finished transaction joins `done`, which the result lists reversed
        constructor
        · rintro ⟨txs₁, rfl, hc⟩
          exact ⟨cur.toList ++ txs₁, by cases cur <;> simp, txs₁, hc, rfl⟩
        · rintro ⟨txs₀, rfl, txs', hc, rfl⟩
          exact ⟨txs', by cases cur <;> simp, hc⟩
    rw [if_neg hm]
    have hm' : ¬Marker (trim raw) := fun h => hm (opensTransaction_eq_true_iff.mpr h)
    cases cur with
    | none => simp [not_continues_none hs' hm']
    | some t =>
      dsimp only
      cases ho : operation? (trim raw) with
      | error f => simp [not_continues_some_error hs' hm' ho]
      | ok r =>
        obtain ⟨k, item⟩ := r
        simp only [ih, continues_some_op hs' hm' ho]

/-! ### Where the reader stops -/

/-- A refusal at the `k`-th of the lines `ls`: the lines before it are read, leaving the
generator `g₀`, and no reading takes in the lines up to and including it. -/
def FailsAt (cur : Option Transaction) (gen g₀ : IdGen) (ls : List (List Char)) (k : Nat) :
    Prop :=
  (∃ txs, Continues cur gen (ls.take k) txs g₀) ∧
    ∀ txs g', ¬Continues cur gen (ls.take (k + 1)) txs g'

theorem failsAt_zero {cur : Option Transaction} {gen : IdGen}
    (h : ∀ txs g', ¬Continues cur gen [l] txs g') : FailsAt cur gen gen (l :: ls) 0 :=
  ⟨⟨cur.toList, continues_nil.mpr ⟨rfl, rfl⟩⟩, by simpa using h⟩

/-- A refusal further on is still one after a line that, read, leaves the reader in the state
`cur'` and `gen'`. -/
theorem failsAt_succ {cur cur' : Option Transaction} {gen gen' g₀ : IdGen} {k : Nat}
    (f : List Transaction → List Transaction)
    (hstep : ∀ ls txs g', Continues cur gen (l :: ls) txs g' ↔
      ∃ txs', Continues cur' gen' ls txs' g' ∧ txs = f txs')
    (h : FailsAt cur' gen' g₀ ls k) : FailsAt cur gen g₀ (l :: ls) (k + 1) := by
  obtain ⟨⟨txs, hc⟩, hnot⟩ := h
  refine ⟨⟨f txs, ?_⟩, fun txs g' hc => ?_⟩
  · rw [List.take_succ_cons, hstep]
    exact ⟨txs, hc, rfl⟩
  · rw [List.take_succ_cons, hstep] at hc
    obtain ⟨txs', hc', -⟩ := hc
    exact hnot txs' g' hc'

theorem failsAt_succ_of_iff {cur cur' : Option Transaction} {gen gen' g₀ : IdGen} {k : Nat}
    (hstep : ∀ ls txs g', Continues cur gen (l :: ls) txs g' ↔ Continues cur' gen' ls txs g')
    (h : FailsAt cur' gen' g₀ ls k) : FailsAt cur gen g₀ (l :: ls) (k + 1) := by
  refine failsAt_succ id (fun ls txs g' => ?_) h
  rw [hstep]
  constructor
  · intro hc
    exact ⟨txs, hc, rfl⟩
  · rintro ⟨txs', hc, rfl⟩
    exact hc

/-- When the reader refuses numbered lines, the error carries the number of the line where no
reading is possible any more, and the generator is where the lines before it left it. -/
theorem readLines_eq_error (nls : List (Nat × List Char)) (gen g₀ : IdGen)
    (done : List Transaction) (cur : Option Transaction) (e : Error)
    (h : readLines gen done cur nls = (.error e, g₀)) :
    ∃ k n raw msg, nls[k]? = some (n, raw) ∧ e = .script n msg ∧
      FailsAt cur gen g₀ (nls.map fun p => trim p.2) k := by
  induction nls generalizing gen done cur with
  | nil => simp [readLines] at h
  | cons p nls ih =>
    obtain ⟨n, raw⟩ := p
    rw [List.map_cons]
    simp only [readLines] at h
    by_cases hs : isSilent (trim raw) = true
    · rw [if_pos hs] at h
      obtain ⟨k, n', raw', msg, hk, he, hfail⟩ := ih gen done cur h
      exact ⟨k + 1, n', raw', msg, by simpa using hk, he,
        failsAt_succ_of_iff (fun _ _ _ => continues_silent (isSilent_eq_true_iff.mp hs)) hfail⟩
    rw [if_neg hs] at h
    have hs' : ¬Silent (trim raw) := fun h => hs (isSilent_eq_true_iff.mpr h)
    by_cases hm : opensTransaction (trim raw) = true
    · rw [if_pos hm] at h
      have hmk := opensTransaction_eq_true_iff.mp hm
      cases hd : gen.draw with
      | error e' =>
        -- the marker itself cannot draw
        simp only [hd, Prod.mk.injEq, Except.error.injEq] at h
        obtain ⟨rfl, rfl⟩ := h
        exact ⟨0, n, raw, e'.message, rfl, rfl,
          failsAt_zero fun _ _ => not_continues_marker_error hmk hd⟩
      | ok r =>
        obtain ⟨id, g₁⟩ := r
        simp only [hd] at h
        obtain ⟨k, n', raw', msg, hk, he, hfail⟩ := ih g₁ _ _ h
        exact ⟨k + 1, n', raw', msg, by simpa using hk, he,
          failsAt_succ (cur.toList ++ ·) (fun _ _ _ => continues_marker_draw hmk hd) hfail⟩
    rw [if_neg hm] at h
    have hm' : ¬Marker (trim raw) := fun h => hm (opensTransaction_eq_true_iff.mpr h)
    cases cur with
    | none =>
      -- an operation before the first marker
      simp only [Prod.mk.injEq, Except.error.injEq] at h
      obtain ⟨rfl, rfl⟩ := h
      exact ⟨0, n, raw, _, rfl, rfl, failsAt_zero fun _ _ => not_continues_none hs' hm'⟩
    | some t =>
      dsimp only at h
      cases ho : operation? (trim raw) with
      | error f =>
        simp only [ho, Prod.mk.injEq, Except.error.injEq] at h
        obtain ⟨rfl, rfl⟩ := h
        exact ⟨0, n, raw, f.message, rfl, rfl,
          failsAt_zero fun _ _ => not_continues_some_error hs' hm' ho⟩
      | ok r =>
        obtain ⟨k', item⟩ := r
        simp only [ho] at h
        obtain ⟨k, n', raw', msg, hk, he, hfail⟩ := ih gen done _ h
        exact ⟨k + 1, n', raw', msg, by simpa using hk, he,
          failsAt_succ_of_iff (fun _ _ _ => continues_some_op hs' hm' ho) hfail⟩

/-! ### Scripts -/

theorem numbered_map_trim (xs : List (List Char)) :
    (((xs.zipIdx 1).map fun (l, n) => (n, l)).map fun p => trim p.2) = xs.map trim := by
  calc _ = (xs.zipIdx 1).map (fun p => trim p.1) := by simp only [List.map_map]; rfl
    _ = ((xs.zipIdx 1).map Prod.fst).map trim := by rw [List.map_map]; rfl
    _ = xs.map trim := by rw [List.zipIdx_map_fst]

theorem numbered_getElem?_eq_some (xs : List (List Char)) {k n : Nat} {raw : List Char} :
    ((xs.zipIdx 1).map fun (l, n) => (n, l))[k]? = some (n, raw) ↔
      xs[k]? = some raw ∧ n = k + 1 := by
  simp only [List.getElem?_map, List.getElem?_zipIdx, Option.map_map, Option.map_eq_some_iff,
    Function.comp_apply, Prod.mk.injEq, exists_eq_right_right, and_congr_right_iff]
  intro _
  omega

/-- A script is read exactly when its trimmed lines are silent lines followed by blocks, and
then as the blocks say: one transaction for each marker, with the id the marker drew and the
operations of its body in order. A refused script names, counting from 1, the line from which no
reading is possible: the lines before it read, leaving the generator that is handed back, and no
reading takes in that line. -/
theorem parse_reads (text : String) (g : IdGen) :
    (∀ txs g', parse text g = (.ok txs, g') ↔ Reads g ((lines text.toList).map trim) txs g') ∧
    (∀ e, (parse text g).1 = .error e → ∃ n msg, e = .script n msg ∧ 1 ≤ n ∧
      n ≤ (lines text.toList).length ∧
      (∃ txs, Reads g (((lines text.toList).map trim).take (n - 1)) txs (parse text g).2) ∧
      ∀ txs g', ¬Reads g (((lines text.toList).map trim).take n) txs g') ∧
    (∀ txs g', parse text g = (.ok txs, g') →
      txs.length = ((lines text.toList).map trim).countP opensTransaction) := by
  have hmap := numbered_map_trim (lines text.toList)
  have hok : ∀ txs g', parse text g = (.ok txs, g') ↔
      Reads g ((lines text.toList).map trim) txs g' := by
    intro txs g'
    rw [parse, readLines_eq_ok_iff, hmap]
    simp only [List.reverse_nil, List.nil_append, exists_eq_left']
    rfl
  refine ⟨hok, fun e he => ?_, fun txs g' h => ((hok txs g').mp h).length_eq_countP⟩
  obtain ⟨k, n, raw, msg, hk, rfl, ⟨txs, hpre⟩, hnot⟩ :=
    readLines_eq_error _ g (parse text g).2 [] none e (Prod.ext he rfl)
  rw [hmap] at hpre hnot
  obtain ⟨hraw, rfl⟩ := (numbered_getElem?_eq_some _).mp hk
  have hlen : k < (lines text.toList).length := (List.getElem?_eq_some_iff.mp hraw).1
  refine ⟨k + 1, msg, rfl, by omega, by omega, ⟨txs, ?_⟩, hnot⟩
  rw [Nat.add_sub_cancel]
  exact hpre

/-- A script of one transaction with a read, a compute and a write, numbered from site 1. -/
theorem one_block_reads :
    parse "transaction\nr(x)\nm x = x + 1;\nw(x)" (IdGen.new 1) =
      (.ok [⟨10001, [⟨10001, "x", .read⟩, ⟨10001, "x", .compute ⟨"x", .add, "1"⟩⟩,
        ⟨10001, "x", .write⟩]⟩], ⟨1, 2⟩) := by
  have hls : (lines "transaction\nr(x)\nm x = x + 1;\nw(x)".toList).map trim =
      "transaction".toList :: (["r(x)".toList, "m x = x + 1;".toList, "w(x)".toList] ++ []) := by
    decide
  rw [(parse_reads _ _).1, hls]
  refine .blocks (.cons (opensTransaction_eq_true_iff.mp rfl) rfl ?_ .nil)
  exact .op (operation?_eq_ok_iff.mp rfl) (.op (operation?_eq_ok_iff.mp rfl)
    (.op (operation?_eq_ok_iff.mp rfl) .nil))

end Script
end TwoPhaseLocking
