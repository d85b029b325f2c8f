import TwoPhaseLocking.Proofs.Transaction.Serial

/-!
One operation of a running transaction, described rule by rule, and the step function proved to
follow the rules exactly (`Staging.execute_iff_executes`). A failed step hands back no staging,
so the values staged before it stay as they were.
-/
namespace TwoPhaseLocking

namespace Operator

/-- The exact integer result, the quotient rounded toward zero. -/
def exact : Operator → Int → Int → Int
  | add => (· + ·)
  | subtract => (· - ·)
  | multiply => (· * ·)
  | divide => Int.tdiv

/-- Checked arithmetic gives the exact result exactly when it is no quotient by zero and the
exact result is an item value. -/
theorem apply_eq_some_iff {op : Operator} {a b v : Int} :
    op.apply a b = some v ↔
      ¬(op = .divide ∧ b = 0) ∧ Value.inRange (op.exact a b) = true ∧ op.exact a b = v := by
  cases op with
  | add | subtract | multiply =>
    simp [apply, exact, Value.add, Value.sub, Value.mul, Value.checked_eq_some]
  | divide =>
    by_cases hb : b = 0
    · simp [apply, Value.div, hb]
    · simp [apply, exact, Value.div, hb, Value.checked_eq_some]

theorem apply_eq_none_iff {op : Operator} {a b : Int} :
    op.apply a b = none ↔ (op = .divide ∧ b = 0) ∨ Value.inRange (op.exact a b) = false := by
  cases op with
  | add | subtract | multiply =>
    simp [apply, exact, Value.add, Value.sub, Value.mul, Value.checked]
  | divide =>
    by_cases hb : b = 0
    · simp [apply, Value.div, hb]
    · simp [apply, exact, Value.div, hb, Value.checked]

end Operator

namespace Staging

variable {w : Staging} {tx : TxId} {o : Operation} {s : Store} {a : String} {v : Int} {err : Error}

/-- An operand stands for a value: a numeral for its decimal value, when that is an item value,
and a name for the value staged for it. -/
def Resolves (w : Staging) (a : String) (v : Int) : Prop :=
  (Value.isNumeral a.toList = true ∧ v = Value.ofDigits a.toList ∧ v ≤ Value.greatest) ∨
    (Value.isNumeral a.toList = false ∧ w.toCommit.get? a = some v)

/-- Why an operand stands for no value: a numeral above the greatest item value, or a name with
nothing staged for it. -/
def Fails (w : Staging) (tx : TxId) (a : String) (err : Error) : Prop :=
  (Value.isNumeral a.toList = true ∧ Value.greatest < Value.ofDigits a.toList ∧
      err = .overflow tx a) ∨
    (Value.isNumeral a.toList = false ∧ w.toCommit.get? a = none ∧ err = .unknownOperand tx a)

theorem operand_eq_ok_iff : w.operand tx a = .ok v ↔ w.Resolves a v := by
  unfold operand Resolves
  cases hn : Value.isNumeral a.toList with
  | false =>
    cases w.toCommit.get? a <;>
      simp only [Bool.false_eq_true, ↓reduceIte, eq_comm, reduceCtorEq, Except.ok.injEq,
        Option.some.injEq, false_and, and_false, true_and, or_self, false_or]
  | true =>
    -- a numeral: its value, when that is an item value
    by_cases hle : (Value.ofDigits a.toList : Int) ≤ Value.greatest
    · simp only [↓reduceIte, hle, Except.ok.injEq, true_and, Bool.true_eq_false, false_and,
        or_false]
      constructor
      · rintro rfl; exact ⟨rfl, hle⟩
      · rintro ⟨rfl, -⟩; rfl
    · simp only [↓reduceIte, hle, reduceCtorEq, true_and, Bool.true_eq_false, false_and, or_false,
        false_iff, not_and, Int.not_le]
      rintro rfl
      exact Int.lt_of_not_ge hle

theorem operand_eq_error_iff : w.operand tx a = .error err ↔ w.Fails tx a err := by
  unfold operand Fails
  cases hn : Value.isNumeral a.toList with
  | false =>
    cases w.toCommit.get? a <;>
      simp only [Bool.false_eq_true, ↓reduceIte, eq_comm, reduceCtorEq, Except.error.injEq,
        false_and, and_false, true_and, or_self, false_or]
  | true =>
    by_cases hle : (Value.ofDigits a.toList : Int) ≤ Value.greatest
    · simp only [↓reduceIte, hle, reduceCtorEq, true_and, Bool.true_eq_false, false_and, or_false,
        false_iff, not_and]
      intro h
      exact absurd hle (Int.not_le.mpr h)
    · simp only [↓reduceIte, hle, Except.error.injEq, true_and, Bool.true_eq_false, false_and,
        or_false]
      exact ⟨fun h => ⟨Int.lt_of_not_ge hle, h.symm⟩, fun h => h.2.symm⟩

theorem operand_cases (w : Staging) (tx : TxId) (a : String) :
    (∃ v, w.operand tx a = .ok v) ∨ ∃ err, w.operand tx a = .error err := by
  cases w.operand tx a with
  | ok v => exact .inl ⟨v, rfl⟩
  | error err => exact .inr ⟨err, rfl⟩

theorem execute_of_read (hk : o.kind = .read) :
    w.execute tx o s =
      (s.read o.item).map fun p => ({ w with toCommit := w.toCommit.insert o.item p.1 }, p.2) := by
  simp only [execute, hk]
  cases s.read o.item <;> rfl

theorem evaluate_eq (w : Staging) (tx : TxId) (item : String) (e : Expression) :
    w.evaluate tx item e =
      (w.operand tx e.lhs).bind fun a => (w.operand tx e.rhs).bind fun b =>
        match e.op.apply a b with
        | some v => .ok v
        | none => .error (if b = 0 ∧ e.op = .divide then .divisionByZero tx item
            else .overflow tx item) := rfl

/-- Running one operation of `tx`, rule by rule. A read stages what the store gives for the
item; a write stages the value computed for its item; a compute stages the exact value of its
expression. A failure carries its cause and no staging. -/
inductive Executes (w : Staging) (tx : TxId) (o : Operation) (s : Store) :
    Except Error (Staging × Store) → Prop
  | read {v : Int} {s' : Store} : o.kind = .read → s.read o.item = .ok (v, s') →
      Executes w tx o s (.ok ({ w with toCommit := w.toCommit.insert o.item v }, s'))
  | readFailed {err : Error} : o.kind = .read → s.read o.item = .error err →
      Executes w tx o s (.error err)
  | write {v : Int} : o.kind = .write → w.computed.get? o.item = some v →
      Executes w tx o s (.ok ({ w with toCommit := w.toCommit.insert o.item v }, s))
  | missingWriteValue : o.kind = .write → w.computed.get? o.item = none →
      Executes w tx o s (.error (.missingWriteValue tx o.item))
  | compute {e : Expression} {a b : Int} : o.kind = .compute e →
      w.Resolves e.lhs a → w.Resolves e.rhs b → ¬(e.op = .divide ∧ b = 0) →
      Value.inRange (e.op.exact a b) = true →
      Executes w tx o s (.ok ({ w with computed := w.computed.insert o.item (e.op.exact a b) }, s))
  | lhsFailed {e : Expression} {err : Error} : o.kind = .compute e → w.Fails tx e.lhs err →
      Executes w tx o s (.error err)
  | rhsFailed {e : Expression} {a : Int} {err : Error} : o.kind = .compute e →
      w.Resolves e.lhs a → w.Fails tx e.rhs err → Executes w tx o s (.error err)
  | divisionByZero {e : Expression} {a : Int} : o.kind = .compute e → w.Resolves e.lhs a →
      w.Resolves e.rhs 0 → e.op = .divide → Executes w tx o s (.error (.divisionByZero tx o.item))
  | overflow {e : Expression} {a b : Int} : o.kind = .compute e → w.Resolves e.lhs a →
      w.Resolves e.rhs b → ¬(e.op = .divide ∧ b = 0) → Value.inRange (e.op.exact a b) = false →
      Executes w tx o s (.error (.overflow tx o.item))

theorem executes_of_operands {e : Expression} {a b : Int} (hk : o.kind = .compute e)
    (ha : w.Resolves e.lhs a) (hb : w.Resolves e.rhs b) :
    w.Executes tx o s
      (match e.op.apply a b with
        | some v => .ok ({ w with computed := w.computed.insert o.item v }, s)
        | none => .error (if b = 0 ∧ e.op = .divide then .divisionByZero tx o.item
            else .overflow tx o.item)) := by
  cases happ : e.op.apply a b with
  | some v =>
    obtain ⟨hz, hr, rfl⟩ := Operator.apply_eq_some_iff.mp happ
    exact .compute hk ha hb hz hr
  | none =>
    by_cases hz : e.op = .divide ∧ b = 0
    · obtain ⟨hdiv, rfl⟩ := hz
      simp only [hdiv, and_self, if_true]
      exact .divisionByZero hk ha hb hdiv
    · have hr : Value.inRange (e.op.exact a b) = false :=
        (Operator.apply_eq_none_iff.mp happ).resolve_left hz
      rw [if_neg fun h => hz ⟨h.2, h.1⟩]
      exact .overflow hk ha hb hz hr

theorem execute_of_resolves {e : Expression} {a b : Int} (hk : o.kind = .compute e)
    (ha : w.Resolves e.lhs a) (hb : w.Resolves e.rhs b) :
    w.execute tx o s =
      (match e.op.apply a b with
        | some v => .ok ({ w with computed := w.computed.insert o.item v }, s)
        | none => .error (if b = 0 ∧ e.op = .divide then .divisionByZero tx o.item
            else .overflow tx o.item)) := by
  rw [execute_compute hk, evaluate_eq, operand_eq_ok_iff.mpr ha, operand_eq_ok_iff.mpr hb]
  simp only [Except.bind]
  cases e.op.apply a b <;> rfl

/-- Every answer of the step function follows the rules. -/
theorem executes_execute (w : Staging) (tx : TxId) (o : Operation) (s : Store) :
    w.Executes tx o s (w.execute tx o s) := by
  cases hk : o.kind with
  | read =>
    rw [execute_of_read hk]
    cases hr : s.read o.item with
    | ok p => exact .read hk hr
    | error err => exact .readFailed hk hr
  | write =>
    rw [execute_write hk]
    cases hv : w.computed.get? o.item with
    | some v => exact .write hk hv
    | none => exact .missingWriteValue hk hv
  | compute e =>
    -- the operands are resolved left to right; the first that fails decides
    rcases operand_cases w tx e.lhs with ⟨a, ha⟩ | ⟨err, ha⟩
    · rcases operand_cases w tx e.rhs with ⟨b, hb⟩ | ⟨err, hb⟩
      · rw [execute_of_resolves hk (operand_eq_ok_iff.mp ha) (operand_eq_ok_iff.mp hb)]
        exact executes_of_operands hk (operand_eq_ok_iff.mp ha) (operand_eq_ok_iff.mp hb)
      · rw [execute_compute hk, evaluate_eq]
        simp only [ha, hb, Except.bind, Except.map]
        exact .rhsFailed hk (operand_eq_ok_iff.mp ha) (operand_eq_error_iff.mp hb)
    · rw [execute_compute hk, evaluate_eq]
      simp only [ha, Except.bind, Except.map]
      exact .lhsFailed hk (operand_eq_error_iff.mp ha)

/-- The rules give the step function's answer and no other. -/
theorem execute_of_executes {r : Except Error (Staging × Store)} (h : w.Executes tx o s r) :
    w.execute tx o s = r := by
  cases h with
  | read hk hr => simp [execute_of_read hk, hr, Except.map]
  | readFailed hk hr => simp [execute_of_read hk, hr, Except.map]
  | write hk hv => simp [execute_write hk, hv]
  | missingWriteValue hk hv => simp [execute_write hk, hv]
  | compute hk ha hb hz hr =>
    rw [execute_of_resolves hk ha hb, Operator.apply_eq_some_iff.mpr ⟨hz, hr, rfl⟩]
  | lhsFailed hk ha =>
    rw [execute_compute hk, evaluate_eq, operand_eq_error_iff.mpr ha]
    rfl
  | rhsFailed hk ha hb =>
    rw [execute_compute hk, evaluate_eq, operand_eq_ok_iff.mpr ha, operand_eq_error_iff.mpr hb]
    rfl
  | @divisionByZero e a hk ha hb hdiv =>
    rw [execute_of_resolves hk ha hb]
    simp [hdiv, Operator.apply]
  | @overflow e a b hk ha hb hz hr =>
    rw [execute_of_resolves hk ha hb, Operator.apply_eq_none_iff.mpr (.inr hr),
      if_neg fun h => hz ⟨h.2, h.1⟩]

/-- One operation of a running transaction, against the rules: the step function gives the
answer the rules give and no other. A success stages exactly one value, for the operation's
item: a read or a write one to commit, a compute one computed; a failure stages nothing. -/
theorem execute_iff_executes (w : Staging) (tx : TxId) (o : Operation) (s : Store) :
    (∀ r, w.execute tx o s = r ↔ w.Executes tx o s r) ∧
    (∀ w' s', w.execute tx o s = .ok (w', s') → ∃ v,
      w' = { w with toCommit := w.toCommit.insert o.item v } ∨
        w' = { w with computed := w.computed.insert o.item v }) := by
  refine ⟨fun r => ⟨fun h => h ▸ executes_execute w tx o s, execute_of_executes⟩,
    fun w' s' h => ?_⟩
  have hx := executes_execute w tx o s
  rw [h] at hx
  cases hx with
  | read => exact ⟨_, .inl rfl⟩
  | write => exact ⟨_, .inl rfl⟩
  | compute => exact ⟨_, .inr rfl⟩

/-- Of two bad operands the first decides: a numeral of twenty digits is too large before the
unknown name after it is looked up. -/
theorem long_numeral_fails_first :
    ({} : Staging).execute 10001 ⟨10001, "x", .compute ⟨"99999999999999999999", .add, "y"⟩⟩ {} =
      .error (.overflow 10001 "99999999999999999999") :=
  ((execute_iff_executes {} 10001 _ {}).1 _).mpr
    (.lhsFailed rfl (.inl ⟨by decide, by decide, rfl⟩))

end Staging
end TwoPhaseLocking
