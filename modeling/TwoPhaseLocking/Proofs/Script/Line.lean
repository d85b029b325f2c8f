import Mathlib.Data.List.TakeWhile
import TwoPhaseLocking.Transaction.Script

/-!
The grammar of one script line, stated with decompositions of the line instead of the reader's
positions, and the operation lines the reader accepts proved to be exactly those of the grammar
(`Script.operation?_eq_ok_iff`).
-/
namespace TwoPhaseLocking
namespace Script

open Text

/-! ### First and last positions -/

theorem firstIndex?_cons (c x : Char) (l : List Char) :
    firstIndex? c (x :: l) = if x = c then some 0 else (firstIndex? c l).map (· + 1) := by
  unfold firstIndex?
  by_cases h : x = c
  · simp [h]
  · simp only [List.idxOf_cons, List.length_cons, h, if_false]
    have : (x == c) = false := by simpa using h
    simp only [this, cond_false, Nat.add_lt_add_iff_right]
    split <;> rfl

theorem findIdx?_eq_some_iff {α : Type} {p : α → Bool} {l : List α} {j : Nat} :
    l.findIdx? p = some j ↔
      ∃ a x b, l = a ++ x :: b ∧ (∀ y ∈ a, p y = false) ∧ p x = true ∧ j = a.length := by
  induction l generalizing j with
  | nil => simp
  | cons z l ih =>
    rw [List.findIdx?_cons]
    by_cases hz : p z = true
    · simp only [hz, if_true, Option.some.injEq]
      constructor
      · rintro rfl
        exact ⟨[], z, l, rfl, by simp, hz, rfl⟩
      · rintro ⟨a, x, b, hl, ha, -, rfl⟩
        cases a with
        | nil => rfl
        | cons y a =>
          obtain ⟨rfl, -⟩ := List.cons.inj hl
          simp [ha z List.mem_cons_self] at hz
    · simp only [hz, Bool.false_eq_true, if_false, Option.map_eq_some_iff, ih]
      constructor
      · rintro ⟨i, ⟨a, x, b, rfl, ha, hx, rfl⟩, rfl⟩
        refine ⟨z :: a, x, b, rfl, ?_, hx, rfl⟩
        intro y hy
        rcases List.mem_cons.mp hy with rfl | hy
        · simpa using hz
        · exact ha y hy
      · rintro ⟨a, x, b, hl, ha, hx, rfl⟩
        cases a with
        | nil =>
          obtain ⟨rfl, -⟩ := List.cons.inj hl
          exact absurd hx hz
        | cons y a =>
          obtain ⟨rfl, rfl⟩ := List.cons.inj hl
          exact ⟨a.length, ⟨a, x, b, rfl, fun y hy => ha y (List.mem_cons_of_mem _ hy), hx, rfl⟩,
            rfl⟩

theorem firstIndex?_eq_findIdx? (c : Char) (l : List Char) :
    firstIndex? c l = l.findIdx? (· == c) := by
  induction l with
  | nil => rfl
  | cons x l ih =>
    rw [firstIndex?_cons, List.findIdx?_cons, ih]
    by_cases h : x = c <;> simp [h]

theorem firstIndex?_eq_some_iff {c : Char} {l : List Char} {i : Nat} :
    firstIndex? c l = some i ↔ ∃ a b, l = a ++ c :: b ∧ c ∉ a ∧ i = a.length := by
  rw [firstIndex?_eq_findIdx?, findIdx?_eq_some_iff]
  constructor
  · rintro ⟨a, x, b, rfl, ha, hx, rfl⟩
    obtain rfl : x = c := by simpa using hx
    exact ⟨a, b, rfl, fun h => by simpa using ha x h, rfl⟩
  · rintro ⟨a, b, rfl, hna, rfl⟩
    refine ⟨a, c, b, rfl, fun y hy => ?_, by simp, rfl⟩
    have hyc : y ≠ c := fun h => hna (h ▸ hy)
    simpa using hyc

theorem lastIndex?_eq_some_iff {c : Char} {l : List Char} {i : Nat} :
    lastIndex? c l = some i ↔ ∃ a b, l = a ++ c :: b ∧ c ∉ b ∧ i = a.length := by
  unfold lastIndex?
  simp only [Option.map_eq_some_iff, firstIndex?_eq_some_iff]
  constructor
  · rintro ⟨j, ⟨a, b, hl, hna, rfl⟩, rfl⟩
    have hl' : l = b.reverse ++ c :: a.reverse := by
      rw [← List.reverse_reverse l, hl]
      simp
    refine ⟨b.reverse, a.reverse, hl', by simpa using hna, ?_⟩
    rw [hl']
    simp only [List.length_append, List.length_reverse, List.length_cons]
    omega
  · rintro ⟨a, b, rfl, hnb, rfl⟩
    refine ⟨b.length, ⟨b.reverse, a.reverse, by simp, by simpa using hnb, by simp⟩, ?_⟩
    simp only [List.length_append, List.length_cons]
    omega

/-! ### Calls -/

/-- The item of a call stands between the first `(` and the last `)`, trimmed, when something
stands between them. -/
theorem bracketed?_eq_some_iff {l item : List Char} :
    bracketed? l = some item ↔
      ∃ a b d, l = a ++ '(' :: (b ++ ')' :: d) ∧ '(' ∉ a ∧ ')' ∉ d ∧ b ≠ [] ∧ trim b = item := by
  unfold bracketed?
  constructor
  · intro h
    split at h
    · rename_i o c ho hc
      split at h
      · rename_i hoc
        obtain ⟨a, r, hl, hna, rfl⟩ := firstIndex?_eq_some_iff.mp ho
        obtain ⟨p, d, hl', hnd, rfl⟩ := lastIndex?_eq_some_iff.mp hc
        -- what follows the first `(` is the rest of `p`, then the last `)`
        have hr : r = p.drop (a.length + 1) ++ ')' :: d := by
          have := congrArg (List.drop (a.length + 1)) hl'
          rw [List.drop_append_of_le_length (by omega), hl] at this
          simpa using this
        refine ⟨a, p.drop (a.length + 1), d, by rw [hl, hr], hna, hnd, ?_, ?_⟩
        · intro hnil
          have := congrArg List.length hnil
          simp only [List.length_drop, List.length_nil] at this
          omega
        · have hdrop : l.drop (a.length + 1) = r := by rw [hl]; simp
          rw [← Option.some.inj h, hdrop, hr,
            List.take_left' (by simp only [List.length_drop]; omega)]
      · cases h
    · cases h
  · rintro ⟨a, b, d, rfl, hna, hnd, hb, rfl⟩
    have ho : firstIndex? '(' (a ++ '(' :: (b ++ ')' :: d)) = some a.length :=
      firstIndex?_eq_some_iff.mpr ⟨a, _, rfl, hna, rfl⟩
    have hc : lastIndex? ')' (a ++ '(' :: (b ++ ')' :: d)) = some (a.length + 1 + b.length) :=
      lastIndex?_eq_some_iff.mpr ⟨a ++ '(' :: b, d, by simp, hnd, by simp; omega⟩
    have hblen : 0 < b.length := List.length_pos_iff.mpr hb
    simp only [ho, hc, show a.length + 1 < a.length + 1 + b.length by omega, if_true]
    have hdrop : (a ++ '(' :: (b ++ ')' :: d)).drop (a.length + 1) = b ++ ')' :: d := by simp
    rw [hdrop, show a.length + 1 + b.length - a.length - 1 = b.length by omega, List.take_left' rfl]

/-! ### Computes -/

/-- Dropping the `;` at the end leaves a text that does not end with `;`, and all that was
dropped is `;`. -/
theorem dropSemicolons_eq_iff {v body : List Char} :
    dropSemicolons v = body ↔
      ∃ semis, v = body ++ semis ∧ (∀ c ∈ semis, c = ';') ∧ body.getLast? ≠ some ';' := by
  unfold dropSemicolons
  constructor
  · rintro rfl
    refine ⟨(v.reverse.takeWhile (· = ';')).reverse, ?_, fun c hc => ?_, ?_⟩
    · rw [← List.reverse_append, List.takeWhile_append_dropWhile, List.reverse_reverse]
    · simpa using List.mem_takeWhile_imp (List.mem_reverse.mp hc)
    · -- the search stopped at a character that is not `;`
      rw [List.getLast?_reverse]
      have hnot := List.head?_dropWhile_not (· = ';') v.reverse
      intro h
      rw [h] at hnot
      simp at hnot
  · rintro ⟨semis, rfl, hsemis, hlast⟩
    have hdrop : semis.reverse.dropWhile (· = ';') = [] :=
      List.dropWhile_eq_nil_iff.mpr fun c hc => by simpa using hsemis c (List.mem_reverse.mp hc)
    rw [List.reverse_append, List.dropWhile_append, hdrop]
    simp only [List.isEmpty_nil, if_true]
    rw [← List.head?_reverse] at hlast
    -- the text left does not start, reversed, with `;`
    cases hb : body.reverse with
    | nil =>
      obtain rfl : body = [] := List.reverse_eq_nil_iff.mp hb
      rfl
    | cons x t =>
      rw [hb] at hlast
      have hx : x ≠ ';' := fun h => hlast (by rw [h]; rfl)
      rw [List.dropWhile_cons, if_neg (by simpa using hx), ← hb, List.reverse_reverse]

/-- The expression of a compute as text. The first operator symbol after the first character
splits it into two operands, each trimmed and not empty; with no such symbol the whole text is
one operand, to which 0 is added. -/
inductive ExpressionText : List Char → Expression → Prop
  | unary {c : Char} {u : List Char} : (∀ x ∈ u, Operator.ofSymbol? x = none) →
      ExpressionText (c :: u) (.unary (String.ofList (c :: u)))
  | binary {c x : Char} {p q : List Char} {op : Operator} :
      (∀ y ∈ p, Operator.ofSymbol? y = none) → Operator.ofSymbol? x = some op →
      trim (c :: p) ≠ [] → trim q ≠ [] →
      ExpressionText (c :: (p ++ x :: q))
        ⟨String.ofList (trim (c :: p)), op, String.ofList (trim q)⟩

theorem isOperatorSymbol_eq_false {x : Char} :
    isOperatorSymbol x = false ↔ Operator.ofSymbol? x = none := by
  simp [isOperatorSymbol]

theorem expression?_eq_some_iff {e : List Char} {ex : Expression} :
    expression? e = some ex ↔ ExpressionText e ex := by
  cases e with
  | nil =>
    constructor
    · intro h
      simp [expression?] at h
    · intro h
      cases h
  | cons c rest =>
    dsimp only [expression?]
    constructor
    · intro h
      split at h
      · -- no operator symbol after the first character
        rename_i hnone
        obtain rfl := (Option.some.inj h).symm
        exact .unary fun x hx =>
          isOperatorSymbol_eq_false.mp (List.findIdx?_eq_none_iff.mp hnone x hx)
      · rename_i j hj
        obtain ⟨a, x, b, rfl, ha, hx, rfl⟩ := findIdx?_eq_some_iff.mp hj
        obtain ⟨op, hop⟩ := Option.isSome_iff_exists.mp hx
        simp only [List.drop_left', List.take_left', hop] at h
        split at h
        · cases h
        · rename_i hne
          obtain rfl := (Option.some.inj h).symm
          simp only [Bool.or_eq_true, List.isEmpty_iff, not_or] at hne
          exact .binary (fun y hy => isOperatorSymbol_eq_false.mp (ha y hy)) hop hne.1 hne.2
    · intro h
      cases h with
      | unary hu =>
        rw [(List.findIdx?_eq_none_iff).mpr fun x hx => isOperatorSymbol_eq_false.mpr (hu x hx)]
      | @binary _ x p q op hp hop hl hr =>
        have hx : isOperatorSymbol x = true := by simp [isOperatorSymbol, hop]
        rw [findIdx?_eq_some_iff.mpr
          ⟨p, x, q, rfl, fun y hy => isOperatorSymbol_eq_false.mpr (hp y hy), hx, rfl⟩]
        simp only [List.drop_left', List.take_left', hop]
        rw [if_neg (by simpa [List.isEmpty_iff] using And.intro hl hr)]

theorem ExpressionText.ne_nil {e : List Char} {ex : Expression} (h : ExpressionText e ex) :
    e ≠ [] := by
  cases h <;> simp

/-- A compute line: `m`, then, trimmed, rid of every `;` at its end and trimmed again, an item
before the first `=` and an expression after it, each trimmed and not empty. -/
inductive ComputeLine : List Char → OpKind × String → Prop
  | mk {rest body semis x y : List Char} {e : Expression} :
      trim rest = body ++ semis → (∀ c ∈ semis, c = ';') → body.getLast? ≠ some ';' →
      trim body = x ++ '=' :: y → '=' ∉ x → trim x ≠ [] → ExpressionText (trim y) e →
      ComputeLine ('m' :: rest) (.compute e, String.ofList (trim x))

/-- Once the body is split at its first `=`, the compute reader only checks the two sides. -/
theorem compute?_of_split {rest x y : List Char}
    (hbody : trim (dropSemicolons (trim rest)) = x ++ '=' :: y) (hx : '=' ∉ x) :
    compute? rest = if (trim x).isEmpty || (trim y).isEmpty then none
      else (expression? (trim y)).map (String.ofList (trim x), ·) := by
  have hfirst : firstIndex? '=' (x ++ '=' :: y) = some x.length :=
    firstIndex?_eq_some_iff.mpr ⟨x, y, rfl, hx, rfl⟩
  have hdrop : (x ++ '=' :: y).drop (x.length + 1) = y := by simp
  unfold compute?
  dsimp only
  rw [hbody, hfirst]
  dsimp only
  rw [List.take_left, hdrop]

theorem compute?_eq_some_iff {rest : List Char} {item : String} {e : Expression} :
    compute? rest = some (item, e) ↔ ComputeLine ('m' :: rest) (.compute e, item) := by
  constructor
  · intro h
    obtain ⟨semis, hrest, hsemis, hlast⟩ :=
      dropSemicolons_eq_iff.mp (rfl : dropSemicolons (trim rest) = _)
    -- a body with no `=` is refused
    cases hi : firstIndex? '=' (trim (dropSemicolons (trim rest))) with
    | none =>
      unfold compute? at h
      dsimp only at h
      rw [hi] at h
      cases h
    | some i =>
      obtain ⟨x, y, hbody, hx, rfl⟩ := firstIndex?_eq_some_iff.mp hi
      rw [compute?_of_split hbody hx] at h
      by_cases hne : ((trim x).isEmpty || (trim y).isEmpty) = true
      · rw [if_pos hne] at h
        cases h
      · rw [if_neg hne] at h
        simp only [Bool.or_eq_true, List.isEmpty_iff, not_or] at hne
        obtain ⟨ex, hex, hpair⟩ := Option.map_eq_some_iff.mp h
        obtain ⟨rfl, rfl⟩ := Prod.mk.inj hpair
        exact .mk hrest hsemis hlast hbody hx hne.1 (expression?_eq_some_iff.mp hex)
  · intro h
    cases h with
    | @mk _ body semis x y _ hrest hsemis hlast hbody hx hxne hexpr =>
      have hdrop : dropSemicolons (trim rest) = body :=
        dropSemicolons_eq_iff.mpr ⟨semis, hrest, hsemis, hlast⟩
      rw [← hdrop] at hbody
      have hne : ¬((trim x).isEmpty || (trim y).isEmpty) = true := by
        simpa [List.isEmpty_iff] using And.intro hxne hexpr.ne_nil
      rw [compute?_of_split hbody hx, if_neg hne, expression?_eq_some_iff.mpr hexpr]
      rfl

theorem ComputeLine.head {l : List Char} {r : OpKind × String} (h : ComputeLine l r) :
    l.head? = some 'm' := by
  cases h; rfl

/-- A call line: `r` or `w`, then a first `(` and, after it, a last `)` with the item between
them, trimmed and not empty. -/
inductive CallLine : List Char → OpKind × String → Prop
  | mk {c : Char} {k : OpKind} {a b d : List Char} :
      (c = 'r' ∧ k = .read ∨ c = 'w' ∧ k = .write) → '(' ∉ a → ')' ∉ d → trim b ≠ [] →
      CallLine (c :: (a ++ '(' :: (b ++ ')' :: d))) (k, String.ofList (trim b))

theorem callLine_iff {c : Char} {t : List Char} {k : OpKind} {item : String} :
    CallLine (c :: t) (k, item) ↔ (c = 'r' ∧ k = .read ∨ c = 'w' ∧ k = .write) ∧
      ∃ b, bracketed? (c :: t) = some b ∧ b ≠ [] ∧ item = String.ofList b := by
  constructor
  · intro h
    cases h with
    | @mk _ _ a b d hck ha hd hb =>
      have hc : c ≠ '(' := by rcases hck with ⟨rfl, -⟩ | ⟨rfl, -⟩ <;> decide
      refine ⟨hck, trim b, bracketed?_eq_some_iff.mpr ⟨c :: a, b, d, rfl, ?_, hd, ?_, rfl⟩, hb, rfl⟩
      · simp [Ne.symm hc, ha]
      · rintro rfl; exact hb rfl
  · rintro ⟨hck, b, hb, hbne, rfl⟩
    obtain ⟨a₀, b', d, hl, ha₀, hd, -, rfl⟩ := bracketed?_eq_some_iff.mp hb
    have hc : c ≠ '(' := by rcases hck with ⟨rfl, -⟩ | ⟨rfl, -⟩ <;> decide
    -- the call's letter stands before the first `(`
    cases a₀ with
    | nil => exact absurd (List.cons.inj hl).1 hc
    | cons y a =>
      obtain ⟨rfl, rfl⟩ := List.cons.inj hl
      exact .mk hck (fun h => ha₀ (List.mem_cons_of_mem _ h)) hd hbne

theorem CallLine.head {l : List Char} {r : OpKind × String} (h : CallLine l r) :
    l.head? = some 'r' ∨ l.head? = some 'w' := by
  cases h with
  | mk hck => rcases hck with ⟨rfl, -⟩ | ⟨rfl, -⟩ <;> simp

/-- An operation line of the grammar, and what it reads as: the kind and the item. -/
def OpLine (l : List Char) (r : OpKind × String) : Prop := CallLine l r ∨ ComputeLine l r

theorem OpLine.head {l : List Char} {r : OpKind × String} (h : OpLine l r) :
    l.head? = some 'r' ∨ l.head? = some 'w' ∨ l.head? = some 'm' := by
  rcases h with h | h
  · rcases h.head with h | h
    · exact .inl h
    · exact .inr (.inl h)
  · exact .inr (.inr h.head)

theorem computeLine_iff {t : List Char} {k : OpKind} {item : String} :
    ComputeLine ('m' :: t) (k, item) ↔ ∃ e, k = .compute e ∧ compute? t = some (item, e) := by
  constructor
  · intro h
    cases h with
    | mk hrest hsemis hlast hbody hx hxne hexpr =>
      exact ⟨_, rfl, compute?_eq_some_iff.mpr (.mk hrest hsemis hlast hbody hx hxne hexpr)⟩
  · rintro ⟨e, rfl, h⟩
    exact compute?_eq_some_iff.mp h

theorem operation?_call_eq_ok_iff {c : Char} {t : List Char} {k : OpKind}
    (hck : c = 'r' ∧ k = .read ∨ c = 'w' ∧ k = .write) {r : OpKind × String} :
    operation? (c :: t) = .ok r ↔
      ∃ b, bracketed? (c :: t) = some b ∧ b ≠ [] ∧ r = (k, String.ofList b) := by
  rcases hck with ⟨rfl, rfl⟩ | ⟨rfl, rfl⟩ <;>
  · simp only [operation?]
    split
    · rename_i h
      simp [h]
    · rename_i h
      simp [h]
    · rename_i b hb h
      rw [h]
      constructor
      · intro hr
        cases hr
        exact ⟨b, rfl, hb, rfl⟩
      · rintro ⟨b', hb', -, rfl⟩
        cases hb'
        rfl

theorem operation?_undefined {c : Char} {t : List Char} (hr : c ≠ 'r') (hw : c ≠ 'w')
    (hm : c ≠ 'm') : operation? (c :: t) = .error (.undefined (String.ofList (c :: t))) := by
  unfold operation?
  dsimp only
  split <;> simp_all

/-- The reader accepts an operation line exactly when it is a line of the grammar, and reads
it as the grammar does. -/
theorem operation?_eq_ok_iff {l : List Char} {r : OpKind × String} :
    operation? l = .ok r ↔ OpLine l r := by
  obtain ⟨k, item⟩ := r
  unfold OpLine
  rcases l with _ | ⟨c, t⟩
  · constructor
    · intro h
      simp [operation?] at h
    · rintro (h | h)
      · rcases h.head with h | h <;> cases h
      · cases h.head
  by_cases hc : c = 'r' ∨ c = 'w'
  · -- a call line: its letter fixes the kind
    have hm : ¬ComputeLine (c :: t) (k, item) := fun h => by
      have := h.head
      rcases hc with rfl | rfl <;> simp at this
    obtain ⟨k₀, hck⟩ : ∃ k₀ : OpKind, c = 'r' ∧ k₀ = .read ∨ c = 'w' ∧ k₀ = .write := by
      rcases hc with h | h
      exacts [⟨_, .inl ⟨h, rfl⟩⟩, ⟨_, .inr ⟨h, rfl⟩⟩]
    rw [operation?_call_eq_ok_iff hck, callLine_iff, or_iff_left hm]
    constructor
    · rintro ⟨b, hb, hbne, hr⟩
      obtain ⟨rfl, rfl⟩ := Prod.mk.inj hr
      exact ⟨hck, b, hb, hbne, rfl⟩
    · rintro ⟨hck', b, hb, hbne, rfl⟩
      have hk : k = k₀ := by
        rcases hck with ⟨rfl, rfl⟩ | ⟨rfl, rfl⟩ <;> rcases hck' with ⟨h, rfl⟩ | ⟨h, rfl⟩ <;>
          simp_all
      exact ⟨b, hb, hbne, by rw [hk]⟩
  by_cases hm : c = 'm'
  · -- a compute line
    subst hm
    have hcall : ¬CallLine ('m' :: t) (k, item) := fun h => by
      rcases h.head with h | h <;> simp at h
    rw [or_iff_right hcall, computeLine_iff]
    simp only [operation?]
    cases h : compute? t with
    | none => simp
    | some p =>
      obtain ⟨item', e⟩ := p
      simp [eq_comm]
  · -- any other letter
    rw [not_or] at hc
    rw [operation?_undefined hc.1 hc.2 hm]
    constructor
    · intro h
      cases h
    · rintro (h | h)
      · rcases h.head with h | h <;> simp_all
      · exact absurd (by simpa using h.head) hm

/-! ### Silent lines and markers -/

/-- A trimmed line that says nothing: an empty line or a comment. -/
def Silent (l : List Char) : Prop := l = [] ∨ l.head? = some '#'

/-- A trimmed line that opens a transaction: its ASCII lower case starts with `transaction`. -/
def Marker (l : List Char) : Prop := "transaction".toList <+: l.map Char.toLower

theorem isSilent_eq_true_iff {l : List Char} : isSilent l = true ↔ Silent l := by
  simp [isSilent, Silent, List.isEmpty_iff]

theorem opensTransaction_eq_true_iff {l : List Char} : opensTransaction l = true ↔ Marker l := by
  have hlen : "transaction".toList.length = 11 := by decide
  rw [opensTransaction, beq_iff_eq, Marker, List.prefix_iff_eq_take, hlen, List.map_take, eq_comm]

theorem Marker.head {l : List Char} (h : Marker l) : ∃ c, l.head? = some c ∧ c.toLower = 't' := by
  obtain ⟨rest, hrest⟩ := h
  have hword : "transaction".toList = 't' :: "ransaction".toList := by decide
  rw [hword] at hrest
  cases l with
  | nil => simp at hrest
  | cons c l =>
    have hc : c.toLower = 't' := (List.cons.inj hrest).1.symm
    exact ⟨c, rfl, hc⟩

theorem Silent.not_marker {l : List Char} (h : Silent l) : ¬Marker l := by
  intro hm
  obtain ⟨c, hc, hlow⟩ := hm.head
  rcases h with rfl | h
  · cases hc
  · rw [h] at hc
    cases hc
    exact absurd hlow (by decide)

theorem OpLine.not_silent {l : List Char} {r : OpKind × String} (h : OpLine l r) : ¬Silent l := by
  rintro (rfl | hs)
  · rcases h.head with h | h | h <;> cases h
  · rcases h.head with h | h | h <;> rw [h] at hs <;> simp at hs

theorem OpLine.not_marker {l : List Char} {r : OpKind × String} (h : OpLine l r) : ¬Marker l := by
  intro hm
  obtain ⟨c, hc, hlow⟩ := hm.head
  -- an operation starts with a lower case `r`, `w` or `m`, which stays what it is
  rcases h.head with h | h | h <;> rw [h] at hc <;> cases hc <;> exact absurd hlow (by decide)

end Script
end TwoPhaseLocking
