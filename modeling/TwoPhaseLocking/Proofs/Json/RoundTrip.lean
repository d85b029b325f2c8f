import TwoPhaseLocking.Proofs.Json.Tokens

/-!
Decoding after encoding: a value with no float, whose integers the reader keeps as integers and
that nests fewer levels than the reader allows, is read back from its compact text as it was
(`parse_compact`). The proof follows the reader's fuel (`ValueReads`).
-/
namespace TwoPhaseLocking
namespace Json

open Reader

/-- The values that the reader reads back from their compact text as they are, nested at most
`n` deep: no floats, and integers from `-2^63` to `2^64 - 1`. -/
inductive Plain : Nat → Json → Prop
  | null {n : Nat} : Plain n .null
  | bool {n : Nat} (b : Bool) : Plain n (.bool b)
  | nat {n m : Nat} : m ≤ significandMax → Plain n (.int m)
  | neg {n m : Nat} : m < Nat.pow 2 63 → Plain n (.int (Int.negSucc m))
  | str {n : Nat} (s : String) : Plain n (.str s)
  | arr {n : Nat} {xs : List Json} : (∀ x ∈ xs, Plain n x) → Plain (n + 1) (.arr xs)
  | obj {n : Nat} {fs : List (String × Json)} : (∀ f ∈ fs, Plain n f.2) → Plain (n + 1) (.obj fs)

/-! ### Texts -/

def elementsTail (xs : List Json) : List Char := xs.flatMap fun x => ',' :: (compact x).toList

def fieldText (f : String × Json) : List Char := (quote f.1).toList ++ ':' :: (compact f.2).toList

def fieldsTail (fs : List (String × Json)) : List Char := fs.flatMap fun f => ',' :: fieldText f

theorem toList_compactList_cons (x : Json) (xs : List Json) :
    (compactList (x :: xs)).toList = (compact x).toList ++ elementsTail xs := by
  induction xs generalizing x with
  | nil => simp [compactList, elementsTail]
  | cons y ys ih => simp [compactList, elementsTail, ih]

theorem toList_compactFields_cons (f : String × Json) (fs : List (String × Json)) :
    (compactFields (f :: fs)).toList = fieldText f ++ fieldsTail fs := by
  induction fs generalizing f with
  | nil => simp [compactFields, fieldText, fieldsTail]
  | cons g gs ih => simp [compactFields, fieldText, fieldsTail, ih]

theorem toList_compact_arr (xs : List Json) :
    (compact (.arr xs)).toList = '[' :: ((compactList xs).toList ++ [']']) := by
  simp [compact]

theorem toList_compact_obj (fs : List (String × Json)) :
    (compact (.obj fs)).toList = '{' :: ((compactFields fs).toList ++ ['}']) := by
  simp [compact]

theorem toList_compact_nat (m : Nat) : (compact (.int m)).toList = Nat.toDigits 10 m :=
  Nat.toList_repr

theorem toList_compact_negSucc (m : Nat) :
    (compact (.int (Int.negSucc m))).toList = '-' :: Nat.toDigits 10 (m + 1) := by
  show ("-" ++ Nat.repr (m + 1)).toList = _
  simp [Nat.toList_repr]

/-- The text starts with a character that opens a value: not a blank, a comma or a closing
bracket or brace. -/
def OpensValue (t : List Char) : Prop :=
  ∃ ch r, t = ch :: r ∧ ¬(ch = ' ' ∨ ch = '\t' ∨ ch = '\n' ∨ ch = '\r') ∧
    ch ≠ ',' ∧ ch ≠ ']' ∧ ch ≠ '}'

theorem OpensValue.unblanked {t rest : List Char} (h : OpensValue t) : Unblanked (t ++ rest) := by
  obtain ⟨ch, r, rfl, hb, -⟩ := h
  exact unblanked_cons hb

theorem opens_of_isDigit {ch : Char} (h : ch.isDigit) :
    ¬(ch = ' ' ∨ ch = '\t' ∨ ch = '\n' ∨ ch = '\r') ∧ ch ≠ ',' ∧ ch ≠ ']' ∧ ch ≠ '}' := by
  refine ⟨?_, ?_, ?_, ?_⟩
  · rintro (rfl | rfl | rfl | rfl) <;> exact absurd h (by decide)
  all_goals
    rintro rfl
    exact absurd h (by decide)

theorem Plain.opensValue {n : Nat} {j : Json} (h : Plain n j) : OpensValue (compact j).toList := by
  cases h with
  | null => exact ⟨'n', _, rfl, by decide⟩
  | bool b => cases b <;> exact ⟨_, _, rfl, by decide⟩
  | @nat _ m _ =>
    rw [toList_compact_nat]
    rcases Nat.eq_zero_or_pos m with rfl | hm
    · exact ⟨'0', [], rfl, by decide⟩
    · obtain ⟨ch, ds, hds, -⟩ := toDigits_of_pos hm
      have hdig : ch.isDigit := isDigit_of_mem_toDigits (hds ▸ List.mem_cons_self)
      exact ⟨ch, ds, hds, opens_of_isDigit hdig⟩
  | neg _ => exact ⟨'-', _, toList_compact_negSucc _, by decide⟩
  | str s => exact ⟨'"', _, toList_quote s, by decide⟩
  | arr _ => exact ⟨'[', _, toList_compact_arr _, by decide⟩
  | obj _ => exact ⟨'{', _, toList_compact_obj _, by decide⟩

theorem digit_ne {ch : Char} (h : ch.isDigit) :
    ch ≠ 'n' ∧ ch ≠ 't' ∧ ch ≠ 'f' ∧ ch ≠ '-' ∧ ch ≠ '"' ∧ ch ≠ '[' ∧ ch ≠ '{' := by
  refine ⟨?_, ?_, ?_, ?_, ?_, ?_, ?_⟩ <;>
  · rintro rfl
    exact absurd h (by decide)

/-! ### Separators -/

section Separators

variable {rest : List Char} {d : Nat}

theorem reads_hasNextElement_first {t : List Char} (h : OpensValue t) :
    Reads (hasNextElement true) (t ++ rest) d (t ++ rest) d true := by
  obtain ⟨ch, r, rfl, hb, hc, hk, -⟩ := h
  unfold hasNextElement
  refine Reads.bind (reads_skipBlanks (unblanked_cons hb)) ?_
  simp only [List.cons_append, List.head?_cons, ↓reduceIte]
  exact Reads.pure true

theorem reads_hasNextElement_comma {t : List Char} (h : OpensValue t) :
    Reads (hasNextElement false) (',' :: (t ++ rest)) d (t ++ rest) d true := by
  obtain ⟨ch, r, rfl, hb, -, hk, -⟩ := h
  unfold hasNextElement
  refine Reads.bind (reads_skipBlanks (unblanked_cons (by decide))) ?_
  simp only [List.head?_cons, Bool.false_eq_true, ↓reduceIte]
  refine Reads.bind reads_bump ?_
  refine Reads.bind (reads_skipBlanks (unblanked_cons hb)) ?_
  simp only [List.cons_append, List.head?_cons]
  exact Reads.pure true

theorem reads_hasNextElement_end (first : Bool) :
    Reads (hasNextElement first) (']' :: rest) d (']' :: rest) d false := by
  unfold hasNextElement
  refine Reads.bind (reads_skipBlanks (unblanked_cons (by decide))) ?_
  simp only [List.head?_cons]
  exact Reads.pure false

theorem reads_endArray : Reads endArray (']' :: rest) d rest d () := by
  unfold endArray
  refine Reads.bind (reads_skipBlanks (unblanked_cons (by decide))) ?_
  simp only [List.head?_cons]
  exact reads_bump

theorem reads_endObject : Reads endObject ('}' :: rest) d rest d () := by
  unfold endObject
  refine Reads.bind (reads_skipBlanks (unblanked_cons (by decide))) ?_
  simp only [List.head?_cons]
  exact reads_bump

theorem reads_colon : Reads colon (':' :: rest) d rest d () := by
  unfold colon
  refine Reads.bind (reads_skipBlanks (unblanked_cons (by decide))) ?_
  simp only [List.head?_cons]
  exact reads_bump

theorem reads_key (k : String) :
    Reads (do bump; let k ← stringBody; pure (some k)) ((quote k).toList ++ rest) d rest d
      (some k) := by
  rw [toList_quote_append]
  exact Reads.bind reads_bump (Reads.bind (reads_stringBody k) (Reads.pure _))

theorem reads_nextKey_first (k : String) :
    Reads (nextKey true) ((quote k).toList ++ rest) d rest d (some k) := by
  unfold nextKey
  rw [toList_quote_append]
  refine Reads.bind (reads_skipBlanks (unblanked_cons (by decide))) ?_
  simp only [List.head?_cons, ↓reduceIte]
  refine Reads.bind (Reads.pure _) ?_
  rw [← toList_quote_append]
  exact reads_key k

theorem reads_nextKey_comma (k : String) :
    Reads (nextKey false) (',' :: ((quote k).toList ++ rest)) d rest d (some k) := by
  unfold nextKey
  refine Reads.bind (reads_skipBlanks (unblanked_cons (by decide))) ?_
  simp only [List.head?_cons, Bool.false_eq_true, ↓reduceIte]
  rw [toList_quote_append]
  refine Reads.bind reads_bump (Reads.bind (reads_skipBlanks (unblanked_cons (by decide)))
    (Reads.bind (Reads.pure _) ?_))
  simp only [List.head?_cons]
  rw [← toList_quote_append]
  exact reads_key k

theorem reads_nextKey_end (first : Bool) :
    Reads (nextKey first) ('}' :: rest) d ('}' :: rest) d none := by
  unfold nextKey
  refine Reads.bind (reads_skipBlanks (unblanked_cons (by decide))) ?_
  simp only [List.head?_cons]
  exact Reads.bind (Reads.pure _) (Reads.pure _)

end Separators

/-! ### Values -/

/-- `value` with fuel `f` reads back every plain value nested at most `n` deep whose text is
shorter than `f`, before a boundary, with more than `n` levels of nesting left. -/
def ValueReads (f : Nat) : Prop :=
  ∀ {n : Nat} {j : Json}, Plain n j → (compact j).length < f →
    ∀ {rest : List Char} {d : Nat}, Boundary rest → n < d →
      Reads (value f) ((compact j).toList ++ rest) d rest d j

theorem length_elementsTail_cons (x : Json) (xs : List Json) :
    (elementsTail (x :: xs)).length = (compact x).length + (elementsTail xs).length + 1 := by
  simp only [elementsTail, List.flatMap_cons, List.length_append, List.length_cons,
    String.length_toList]
  omega

theorem length_fieldsTail_cons (f : String × Json) (fs : List (String × Json)) :
    (fieldsTail (f :: fs)).length = (fieldText f).length + (fieldsTail fs).length + 1 := by
  simp only [fieldsTail, List.flatMap_cons, List.length_append, List.length_cons]
  omega

theorem length_fieldText (k : String) (v : Json) :
    (fieldText (k, v)).length = (quote k).length + (compact v).length + 1 := by
  simp only [fieldText, List.length_append, List.length_cons, String.length_toList]
  omega

theorem elementsTail_cons_append (x : Json) (xs : List Json) (rest : List Char) :
    elementsTail (x :: xs) ++ rest = ',' :: ((compact x).toList ++ (elementsTail xs ++ rest)) := by
  simp only [elementsTail, List.flatMap_cons, List.cons_append, List.append_assoc]

theorem fieldsTail_cons_append (k : String) (v : Json) (fs : List (String × Json))
    (rest : List Char) :
    fieldsTail ((k, v) :: fs) ++ rest =
      ',' :: ((quote k).toList ++ ':' :: ((compact v).toList ++ (fieldsTail fs ++ rest))) := by
  simp only [fieldsTail, fieldText, List.flatMap_cons, List.cons_append, List.append_assoc]

theorem boundary_elementsTail {rest : List Char} (xs : List Json) :
    Boundary (elementsTail xs ++ ']' :: rest) := by
  cases xs with
  | nil => exact boundary_bracket rest
  | cons x xs => exact boundary_comma _

theorem boundary_fieldsTail {rest : List Char} (fs : List (String × Json)) :
    Boundary (fieldsTail fs ++ '}' :: rest) := by
  cases fs with
  | nil => exact boundary_brace rest
  | cons f fs => exact boundary_comma _

section Loops

variable {F n d : Nat} {rest : List Char}

/-- The elements after the first are read up to the closing bracket, when `value` reads each
of them with the fuel it gets. -/
theorem reads_elements_tail (hv : ∀ f < F, ValueReads f) (hn : n < d) :
    ∀ (xs : List Json) (g : Nat) (acc : List Json), (∀ x ∈ xs, Plain n x) →
      (elementsTail xs).length < g → g ≤ F →
      Reads (elements g false acc) (elementsTail xs ++ ']' :: rest) d (']' :: rest) d
        (acc.reverse ++ xs) := by
  intro xs
  induction xs with
  | nil =>
    intro g acc _ hg _
    obtain ⟨g, rfl⟩ : ∃ g', g = g' + 1 := ⟨g - 1, by omega⟩
    rw [elements]
    refine Reads.bind (reads_hasNextElement_end false) ?_
    simp only [Bool.false_eq_true, ↓reduceIte, List.append_nil]
    exact Reads.pure _
  | cons x xs ih =>
    intro g acc hxs hg hF
    have hx : Plain n x := hxs x List.mem_cons_self
    have hlen := length_elementsTail_cons x xs
    obtain ⟨g, rfl⟩ : ∃ g', g = g' + 1 := ⟨g - 1, by omega⟩
    rw [elements, elementsTail_cons_append]
    refine Reads.bind (reads_hasNextElement_comma hx.opensValue) ?_
    simp only [↓reduceIte]
    refine Reads.bind (hv g (by omega) hx (by omega) (boundary_elementsTail xs) hn) ?_
    have := ih g (x :: acc) (fun y hy => hxs y (List.mem_cons_of_mem _ hy)) (by omega) (by omega)
    simpa only [List.reverse_cons, List.append_assoc, List.singleton_append] using this

theorem reads_elements (hv : ∀ f < F, ValueReads f) (hn : n < d) {xs : List Json}
    (hxs : ∀ x ∈ xs, Plain n x) {g : Nat} (hg : (compactList xs).length + 1 < g) (hF : g ≤ F) :
    Reads (elements g true []) ((compactList xs).toList ++ ']' :: rest) d (']' :: rest) d xs := by
  obtain ⟨g, rfl⟩ : ∃ g', g = g' + 1 := ⟨g - 1, by omega⟩
  rw [elements]
  cases xs with
  | nil =>
    refine Reads.bind (reads_hasNextElement_end true) ?_
    exact Reads.pure []
  | cons x xs =>
    have hx : Plain n x := hxs x List.mem_cons_self
    have hlen : (compactList (x :: xs)).length = (compact x).length + (elementsTail xs).length := by
      rw [← String.length_toList, toList_compactList_cons, List.length_append,
        String.length_toList]
    rw [toList_compactList_cons, List.append_assoc]
    refine Reads.bind (reads_hasNextElement_first hx.opensValue) ?_
    simp only [↓reduceIte]
    refine Reads.bind (hv g (by omega) hx (by omega) (boundary_elementsTail xs) hn) ?_
    exact reads_elements_tail hv hn xs g [x] (fun y hy => hxs y (List.mem_cons_of_mem _ hy))
      (by omega) (by omega)

/-- The fields after the first are read up to the closing brace, when `value` reads each of
their values with the fuel it gets. -/
theorem reads_members_tail (hv : ∀ f < F, ValueReads f) (hn : n < d) :
    ∀ (fs : List (String × Json)) (g : Nat) (acc : List (String × Json)),
      (∀ f ∈ fs, Plain n f.2) → (fieldsTail fs).length < g → g ≤ F →
      Reads (members g false acc) (fieldsTail fs ++ '}' :: rest) d ('}' :: rest) d
        (acc.reverse ++ fs) := by
  intro fs
  induction fs with
  | nil =>
    intro g acc _ hg _
    obtain ⟨g, rfl⟩ : ∃ g', g = g' + 1 := ⟨g - 1, by omega⟩
    rw [members]
    refine Reads.bind (reads_nextKey_end false) ?_
    simp only [List.append_nil]
    exact Reads.pure _
  | cons f fs ih =>
    intro g acc hfs hg hF
    obtain ⟨k, v⟩ := f
    have hv' : Plain n v := hfs (k, v) List.mem_cons_self
    have hlen := length_fieldsTail_cons (k, v) fs
    have hflen := length_fieldText k v
    obtain ⟨g, rfl⟩ : ∃ g', g = g' + 1 := ⟨g - 1, by omega⟩
    rw [members, fieldsTail_cons_append]
    refine Reads.bind (reads_nextKey_comma k) ?_
    refine Reads.bind reads_colon ?_
    refine Reads.bind (hv g (by omega) hv' (by omega) (boundary_fieldsTail fs) hn) ?_
    have := ih g ((k, v) :: acc) (fun f hf => hfs f (List.mem_cons_of_mem _ hf)) (by omega)
      (by omega)
    simpa only [List.reverse_cons, List.append_assoc, List.singleton_append] using this

theorem reads_members (hv : ∀ f < F, ValueReads f) (hn : n < d) {fs : List (String × Json)}
    (hfs : ∀ f ∈ fs, Plain n f.2) {g : Nat} (hg : (compactFields fs).length + 1 < g)
    (hF : g ≤ F) :
    Reads (members g true []) ((compactFields fs).toList ++ '}' :: rest) d ('}' :: rest) d fs := by
  obtain ⟨g, rfl⟩ : ∃ g', g = g' + 1 := ⟨g - 1, by omega⟩
  rw [members]
  cases fs with
  | nil =>
    refine Reads.bind (reads_nextKey_end true) ?_
    exact Reads.pure []
  | cons f fs =>
    obtain ⟨k, v⟩ := f
    have hv' : Plain n v := hfs (k, v) List.mem_cons_self
    have hlen : (compactFields ((k, v) :: fs)).length =
        (quote k).length + (compact v).length + 1 + (fieldsTail fs).length := by
      rw [← String.length_toList, toList_compactFields_cons]
      simp only [fieldText, List.length_append, List.length_cons, String.length_toList]
      omega
    rw [toList_compactFields_cons]
    simp only [fieldText, List.append_assoc, List.cons_append]
    refine Reads.bind (reads_nextKey_first k) ?_
    refine Reads.bind reads_colon ?_
    refine Reads.bind (hv g (by omega) hv' (by omega) (boundary_fieldsTail fs) hn) ?_
    exact reads_members_tail hv hn fs g [(k, v)] (fun f hf => hfs f (List.mem_cons_of_mem _ hf))
      (by omega) (by omega)

end Loops

theorem toList_compact_null : (compact .null).toList = ['n', 'u', 'l', 'l'] := rfl

theorem toList_compact_true : (compact (.bool true)).toList = ['t', 'r', 'u', 'e'] := rfl

theorem toList_compact_false : (compact (.bool false)).toList = ['f', 'a', 'l', 's', 'e'] := rfl

theorem length_compact_arr (xs : List Json) :
    (compact (.arr xs)).length = (compactList xs).length + 2 := by
  rw [← String.length_toList, toList_compact_arr]
  simp only [List.length_cons, List.length_append, String.length_toList, List.length_nil]

theorem length_compact_obj (fs : List (String × Json)) :
    (compact (.obj fs)).length = (compactFields fs).length + 2 := by
  rw [← String.length_toList, toList_compact_obj]
  simp only [List.length_cons, List.length_append, String.length_toList, List.length_nil]

theorem reads_value_digit {g d : Nat} {ch : Char} {r rest : List Char} {a : Json}
    (hch : ch.isDigit) (h : Reads (number false) (ch :: r) d rest d a) :
    Reads (value (g + 1)) (ch :: r) d rest d a := by
  obtain ⟨h₁, h₂, h₃, h₄, h₅, h₆, h₇⟩ := digit_ne hch
  rw [value]
  refine Reads.settle (Reads.bind (reads_skipBlanks (unblanked_cons (opens_of_isDigit hch).1)) ?_)
  simp only [List.head?_cons, hch, ↓reduceIte]
  exact h

/-- `value` reads back every plain value whose text is shorter than its fuel. The induction
is on the fuel: an array or an object reads its items with less. -/
theorem valueReads (f : Nat) : ValueReads f := by
  induction f using Nat.strongRecOn with
  | ind f ih =>
    intro n j hj hlen rest d hb hn
    obtain ⟨g, rfl⟩ : ∃ g', f = g' + 1 := ⟨f - 1, by omega⟩
    have hskip : ∀ {ch : Char} {r : List Char}, ¬(ch = ' ' ∨ ch = '\t' ∨ ch = '\n' ∨ ch = '\r') →
        Reads skipBlanks (ch :: r) d (ch :: r) d (some ch) :=
      fun hch => reads_skipBlanks (unblanked_cons hch)
    cases hj with
    | null =>
      rw [value, toList_compact_null]
      refine Reads.settle (Reads.bind (hskip (by decide)) ?_)
      exact Reads.bind reads_bump (Reads.bind (reads_ident _) (Reads.pure _))
    | bool b =>
      cases b
      · rw [value, toList_compact_false]
        refine Reads.settle (Reads.bind (hskip (by decide)) ?_)
        exact Reads.bind reads_bump (Reads.bind (reads_ident _) (Reads.pure _))
      · rw [value, toList_compact_true]
        refine Reads.settle (Reads.bind (hskip (by decide)) ?_)
        exact Reads.bind reads_bump (Reads.bind (reads_ident _) (Reads.pure _))
    | @nat _ m hm =>
      obtain ⟨ch, ds, hds, -⟩ := (Plain.nat (n := n) hm).opensValue
      rw [toList_compact_nat] at hds
      have hch : ch.isDigit := isDigit_of_mem_toDigits (hds ▸ List.mem_cons_self)
      rw [toList_compact_nat, hds, List.cons_append]
      refine reads_value_digit hch ?_
      rw [← List.cons_append, ← hds]
      exact reads_number hm hb (reads_numberTail_nat hb m)
    | @neg _ m hm =>
      have h63 : Nat.pow 2 63 = 9223372036854775808 := rfl
      have h64 : significandMax = 18446744073709551615 := rfl
      rw [value, toList_compact_negSucc, List.cons_append]
      refine Reads.settle (Reads.bind (hskip (by decide)) ?_)
      refine Reads.bind reads_bump ?_
      exact reads_number (by omega) hb (reads_numberTail_neg hb (Nat.succ_pos m) (by omega))
    | str s =>
      rw [value, show compact (.str s) = quote s from rfl, toList_quote_append]
      refine Reads.settle (Reads.bind (hskip (by decide)) ?_)
      exact Reads.bind reads_bump (Reads.bind (reads_stringBody s) (Reads.pure _))
    | @arr n xs hxs =>
      -- one level more: the elements are read with one level of nesting less left
      obtain ⟨d, rfl⟩ : ∃ d', d = d' + 1 := ⟨d - 1, by omega⟩
      have hl := length_compact_arr xs
      rw [value, toList_compact_arr, List.cons_append, List.append_assoc, List.singleton_append]
      refine Reads.settle (Reads.bind (hskip (by decide)) ?_)
      refine Reads.bind (reads_enter (by omega)) (Reads.bind reads_bump ?_)
      refine Reads.bind (Reads.andThenAnyway
        (reads_elements ih (by omega) hxs (by omega) (Nat.le_succ g)) reads_endArray) ?_
      exact Reads.bind reads_leave (Reads.pure _)
    | @obj n fs hfs =>
      obtain ⟨d, rfl⟩ : ∃ d', d = d' + 1 := ⟨d - 1, by omega⟩
      have hl := length_compact_obj fs
      rw [value, toList_compact_obj, List.cons_append, List.append_assoc, List.singleton_append]
      refine Reads.settle (Reads.bind (hskip (by decide)) ?_)
      refine Reads.bind (reads_enter (by omega)) (Reads.bind reads_bump ?_)
      refine Reads.bind (Reads.andThenAnyway
        (reads_members ih (by omega) hfs (by omega) (Nat.le_succ g)) reads_endObject) ?_
      exact Reads.bind reads_leave (Reads.pure _)

/-- The reader reads back the compact text of every plain value that nests fewer than 128
levels. -/
theorem parse_compact {j : Json} (h : Plain 127 j) : parse (compact j) = .ok j := by
  have hv := valueReads (2 * (compact j).length + 4) h (by omega) boundary_nil
    (by decide : 127 < 128)
  rw [List.append_nil] at hv
  exact Reads.run (Reads.bind hv (Reads.bind reads_finish (Reads.pure j)))

end Json
end TwoPhaseLocking
