import TwoPhaseLocking.Json.Reader
import TwoPhaseLocking.Json.Writer

/-!
Reading back, token by token, what the compact writer writes. `Reads r inp d rest d' a`: the
reader `r`, started on `inp` with `d` levels of nesting left, gives `a` and stops at `rest` with
`d'` left.
-/
namespace TwoPhaseLocking
namespace Json

namespace Cursor

theorem advance_rest {c : Cursor} {ch : Char} {r : List Char} (h : c.rest = ch :: r) :
    c.advance.rest = r := by
  simp only [advance, h]
  split <;> rfl

@[simp] theorem advance_depth (c : Cursor) : c.advance.depth = c.depth := by
  unfold advance
  split
  · rfl
  · split <;> rfl

theorem repeat_advance (c : Cursor) (k : Nat) :
    (k.repeat advance c).rest = c.rest.drop k ∧ (k.repeat advance c).depth = c.depth := by
  induction k with
  | zero => exact ⟨rfl, rfl⟩
  | succ k ih =>
    obtain ⟨hr, hd⟩ := ih
    refine ⟨?_, by simp only [Nat.repeat, advance_depth, hd]⟩
    rw [Nat.repeat, ← List.tail_drop, ← hr]
    cases h : (k.repeat advance c).rest with
    | nil => simp only [advance, h, List.tail_nil]
    | cons ch r => exact advance_rest h

theorem advanceBytes_ascii {cs r : List Char} (hcs : ∀ ch ∈ cs, ch.utf8Size = 1) :
    ∀ {c : Cursor}, c.rest = cs ++ r →
      (c.advanceBytes cs.length).rest = r ∧ (c.advanceBytes cs.length).depth = c.depth := by
  induction cs with
  | nil =>
    intro c h
    rw [advanceBytes]
    exact ⟨h, rfl⟩
  | cons ch cs ih =>
    intro c h
    have hch : ch.utf8Size = 1 := hcs ch List.mem_cons_self
    have hstep : c.advanceBytes (cs.length + 1) = c.advance.advanceBytes cs.length := by
      rw [advanceBytes]
      simp only [Nat.add_one_ne_zero, h, List.cons_append, hch, ↓reduceIte, Nat.le_add_left,
        Nat.add_sub_cancel]
    obtain ⟨hr, hd⟩ := ih (fun x hx => hcs x (List.mem_cons_of_mem _ hx)) (advance_rest h)
    rw [List.length_cons, hstep]
    exact ⟨hr, hd.trans (advance_depth c)⟩

end Cursor

open Reader Cursor

/-- The reader `r`, started on the text `inp` with `d` levels of nesting left, gives `a` and
stops at the text `rest` with `d'` levels left. -/
def Reads {α : Type} (r : Reader α) (inp : List Char) (d : Nat) (rest : List Char) (d' : Nat)
    (a : α) : Prop :=
  ∀ c : Cursor, c.rest = inp → c.depth = d →
    ∃ c' : Cursor, r c = .ok a c' ∧ c'.rest = rest ∧ c'.depth = d'

theorem bind_ok {α β : Type} {r : Reader α} {f : α → Reader β} {c c' : Cursor} {a : α}
    (h : r c = .ok a c') : (r >>= f) c = f a c' := by
  simp only [bind, h]

namespace Reads

variable {α β : Type} {inp mid rest : List Char} {d d₁ d' : Nat}

protected theorem pure (a : α) : Reads (pure a) inp d inp d a :=
  fun c hr hd => ⟨c, rfl, hr, hd⟩

protected theorem bind {r : Reader α} {f : α → Reader β} {a : α} {b : β}
    (h : Reads r inp d mid d₁ a) (hf : Reads (f a) mid d₁ rest d' b) :
    Reads (r >>= f) inp d rest d' b := by
  intro c hr hd
  obtain ⟨c₁, hc₁, hr₁, hd₁⟩ := h c hr hd
  obtain ⟨c₂, hc₂, hr₂, hd₂⟩ := hf c₁ hr₁ hd₁
  exact ⟨c₂, (bind_ok hc₁).trans hc₂, hr₂, hd₂⟩

protected theorem settle {r : Reader α} {a : α} (h : Reads r inp d rest d' a) :
    Reads (settle r) inp d rest d' a := by
  intro c hr hd
  obtain ⟨c', hc, hr', hd'⟩ := h c hr hd
  exact ⟨c', by simp only [Reader.settle, hc], hr', hd'⟩

protected theorem andThenAnyway {r : Reader α} {after : Reader Unit} {a : α}
    (h : Reads r inp d mid d₁ a) (ha : Reads after mid d₁ rest d' ()) :
    Reads (andThenAnyway r after) inp d rest d' a := by
  intro c hr hd
  obtain ⟨c₁, hc₁, hr₁, hd₁⟩ := h c hr hd
  obtain ⟨c₂, hc₂, hr₂, hd₂⟩ := ha c₁ hr₁ hd₁
  exact ⟨c₂, by simp only [Reader.andThenAnyway, hc₁, hc₂], hr₂, hd₂⟩

protected theorem ofExcept (a : α) : Reads (ofExcept (.ok a)) inp d inp d a :=
  Reads.pure a

protected theorem run {r : Reader α} {s : String} {a : α} (h : Reads r s.toList 128 [] 128 a) :
    r.run s = .ok a := by
  obtain ⟨c', hc', -, -⟩ := h (Cursor.start s) rfl rfl
  simp only [Reader.run, hc']

end Reads

section Primitives

variable {inp rest : List Char} {d : Nat} {ch : Char}

theorem reads_peek : Reads peek inp d inp d inp.head? :=
  fun c hr hd => ⟨c, by simp only [peek, hr], hr, hd⟩

theorem reads_bump : Reads bump (ch :: rest) d rest d () :=
  fun c hr hd => ⟨c.advance, rfl, advance_rest hr, by simp only [advance_depth, hd]⟩

theorem reads_next : Reads next (ch :: rest) d rest d (some ch) :=
  fun c hr hd => ⟨c.advance, by simp only [next, hr, List.head?_cons],
    advance_rest hr, by simp only [advance_depth, hd]⟩

theorem reads_enter (h : 0 < d) : Reads enter inp (d + 1) inp d () := by
  intro c hr hd
  have : ¬c.depth ≤ 1 := by omega
  exact ⟨{ c with depth := c.depth - 1 }, by simp only [enter, this, ↓reduceIte], hr,
    by simp only [hd, Nat.add_sub_cancel]⟩

theorem reads_leave : Reads leave inp d inp (d + 1) () :=
  fun c hr hd => ⟨{ c with depth := c.depth + 1 }, rfl, hr, by simp only [hd]⟩

theorem reads_skip (k : Nat) : Reads (skip k) inp d (inp.drop k) d () := by
  intro c hr hd
  obtain ⟨hr', hd'⟩ := repeat_advance c k
  exact ⟨k.repeat advance c, rfl, by rw [hr', hr], hd'.trans hd⟩

theorem reads_peekDigits : Reads peekDigits inp d inp d (inp.takeWhile Char.isDigit) :=
  fun c hr hd => ⟨c, by simp only [peekDigits, hr], hr, hd⟩

/-- The text does not start with a character that `skipBlanks` passes. -/
def Unblanked (inp : List Char) : Prop :=
  ∀ ch ∈ inp.head?, ¬(ch = ' ' ∨ ch = '\t' ∨ ch = '\n' ∨ ch = '\r')

theorem skipBlanks_go_of_unblanked {c : Cursor} (h : Unblanked c.rest) (fuel : Nat) :
    skipBlanks.go fuel c = c := by
  cases fuel with
  | zero => rfl
  | succ f =>
    cases hr : c.rest with
    | nil => simp only [skipBlanks.go, hr]
    | cons ch r =>
      have hch := h ch (by simp only [hr, List.head?_cons, Option.mem_def])
      simp only [skipBlanks.go, hr, hch, ↓reduceIte]

theorem unblanked_cons (h : ¬(ch = ' ' ∨ ch = '\t' ∨ ch = '\n' ∨ ch = '\r')) :
    Unblanked (ch :: rest) := by
  intro x hx
  obtain rfl : ch = x := Option.some.inj hx
  exact h

theorem reads_skipBlanks (h : Unblanked inp) : Reads skipBlanks inp d inp d inp.head? := by
  intro c hr hd
  have hgo : skipBlanks.go inp.length c = c := skipBlanks_go_of_unblanked (hr ▸ h) _
  exact ⟨c, by simp only [skipBlanks, hr, hgo], hr, hd⟩

theorem reads_finish : Reads finish [] d [] d () := by
  unfold finish
  refine Reads.bind (reads_skipBlanks (fun _ h => by cases h)) ?_
  exact Reads.pure ()

theorem reads_ident (xs : List Char) : Reads (ident xs) (xs ++ rest) d rest d () := by
  induction xs with
  | nil => exact Reads.pure ()
  | cons x xs ih =>
    rw [ident]
    refine Reads.bind reads_next ?_
    simp only [↓reduceIte]
    exact ih

end Primitives

/-! ### String literals -/

theorem hexValue_hexDigit : ∀ n, n < 16 → hexValue (hexDigit n) = some n := by decide

theorem utf8Size_hexDigit : ∀ n, n < 16 → (hexDigit n).utf8Size = 1 := by decide

section Strings

variable {rest : List Char} {d : Nat}

theorem reads_hex4 {n : Nat} (hn : n < 0x100) :
    Reads hex4 ('0' :: '0' :: hexDigit (n / 16) :: hexDigit (n % 16) :: rest) d rest d n := by
  intro c hr hd
  have h₁ : n / 16 < 16 := by omega
  have h₂ : n % 16 < 16 := Nat.mod_lt n (by omega)
  have hsize : ∀ ch ∈ ['0', '0', hexDigit (n / 16), hexDigit (n % 16)], ch.utf8Size = 1 := by
    simp only [List.mem_cons, List.not_mem_nil, or_false]
    rintro ch (rfl | rfl | rfl | rfl)
    · rfl
    · rfl
    · exact utf8Size_hexDigit _ h₁
    · exact utf8Size_hexDigit _ h₂
  have hr₀ : c.rest = ['0', '0', hexDigit (n / 16), hexDigit (n % 16)] ++ rest := hr
  obtain ⟨hr', hd'⟩ := advanceBytes_ascii hsize hr₀
  refine ⟨c.advanceBytes 4, ?_, hr', hd'.trans hd⟩
  have hval : 16 * (16 * (16 * (16 * 0 + 0) + 0) + n / 16) + n % 16 = n := by omega
  simp only [hex4, hr, List.take_succ_cons, List.take_zero, List.foldl_cons, List.foldl_nil,
    utf8Size_hexDigit _ h₁, utf8Size_hexDigit _ h₂, hexValue_hexDigit _ h₁,
    hexValue_hexDigit _ h₂]
  simp only [show Char.utf8Size '0' = 1 from rfl, show hexValue '0' = some 0 from rfl,
    Nat.reduceAdd, Nat.lt_irrefl, ↓reduceIte, hval]

theorem reads_unicodeEscape {ch : Char} (h : ch.toNat < 0x20) :
    Reads unicodeEscape
      ('0' :: '0' :: hexDigit (ch.toNat / 16) :: hexDigit (ch.toNat % 16) :: rest) d rest d ch := by
  unfold unicodeEscape
  refine Reads.bind (reads_hex4 (by omega)) ?_
  have h₁ : ¬(0xDC00 ≤ ch.toNat ∧ ch.toNat ≤ 0xDFFF) := by omega
  have h₂ : ch.toNat < 0xD800 ∨ ch.toNat > 0xDBFF := by omega
  simpa only [h₁, h₂, ↓reduceIte, Char.ofNat_toNat] using Reads.pure ch

theorem length_escapeChar_pos (ch : Char) : 0 < (escapeChar ch).length := by
  unfold escapeChar
  repeat' split
  all_goals simp only [List.length_cons]; omega

theorem stringBody_go_escapeChar (ch : Char) {c : Cursor} {r : List Char}
    (hc : c.rest = escapeChar ch ++ r) :
    ∃ c₁ : Cursor, (∀ f acc, stringBody.go (f + 1) acc c = stringBody.go f (ch :: acc) c₁) ∧
      c₁.rest = r ∧ c₁.depth = c.depth := by
  -- The escapes by name take two characters, which the reader's table maps back.
  have named : ∀ {e : Char}, c.rest = '\\' :: e :: r →
      (c.advance.rest = e :: r →
        ∀ f acc, stringBody.go (f + 1) acc c = stringBody.go f (ch :: acc) c.advance.advance) →
      ∃ c₁ : Cursor, (∀ f acc, stringBody.go (f + 1) acc c = stringBody.go f (ch :: acc) c₁) ∧
        c₁.rest = r ∧ c₁.depth = c.depth :=
    fun he hgo => ⟨_, hgo (advance_rest he), advance_rest (advance_rest he),
      by simp only [advance_depth]⟩
  unfold escapeChar at hc
  split at hc
  next hq =>
    subst hq
    exact named hc fun h₁ f acc => by
      simp only [stringBody.go, hc, h₁, List.cons_append, List.nil_append]
  split at hc
  next hb =>
    subst hb
    exact named hc fun h₁ f acc => by
      simp only [stringBody.go, hc, h₁, List.cons_append, List.nil_append]
  split at hc
  next hn =>
    subst hn
    exact named hc fun h₁ f acc => by
      simp only [stringBody.go, hc, h₁, List.cons_append, List.nil_append]
  split at hc
  next hr =>
    subst hr
    exact named hc fun h₁ f acc => by
      simp only [stringBody.go, hc, h₁, List.cons_append, List.nil_append]
  split at hc
  next ht =>
    subst ht
    exact named hc fun h₁ f acc => by
      simp only [stringBody.go, hc, h₁, List.cons_append, List.nil_append]
  split at hc
  next h8 =>
    obtain rfl : ch = Char.ofNat 8 := by rw [← h8, Char.ofNat_toNat]
    exact named hc fun h₁ f acc => by
      simp only [stringBody.go, hc, h₁, List.cons_append, List.nil_append]
  split at hc
  next h12 =>
    obtain rfl : ch = Char.ofNat 12 := by rw [← h12, Char.ofNat_toNat]
    exact named hc fun h₁ f acc => by
      simp only [stringBody.go, hc, h₁, List.cons_append, List.nil_append]
  split at hc
  next hu =>
    -- `\u00XY`: the four digits go through `unicodeEscape`
    have h₁ : c.advance.rest = 'u' :: '0' :: '0' :: hexDigit (ch.toNat / 16) ::
        hexDigit (ch.toNat % 16) :: r := advance_rest hc
    obtain ⟨c₃, hc₃, hr₃, hd₃⟩ := reads_unicodeEscape hu c.advance.advance (advance_rest h₁) rfl
    refine ⟨c₃, fun f acc => ?_, hr₃, by simp only [hd₃, advance_depth]⟩
    simp +decide only [stringBody.go, hc, h₁, List.cons_append, List.nil_append, hc₃,
      ↓reduceIte]
  next hu =>
    -- any other character stands for itself
    refine ⟨c.advance, fun f acc => ?_, advance_rest hc, advance_depth c⟩
    simp only [stringBody.go, hc, hu, ↓reduceIte, List.cons_append, List.nil_append]

theorem le_length_flatMap_escapeChar (cs : List Char) :
    cs.length ≤ (cs.flatMap escapeChar).length := by
  induction cs with
  | nil => exact Nat.le_refl 0
  | cons ch cs ih =>
    have := length_escapeChar_pos ch
    simp only [List.flatMap_cons, List.length_append, List.length_cons]
    omega

/-- A string body, escaped character by character and closed by a quote, is read as the
characters it escapes. The fuel counts characters, so more of it than characters suffices. -/
theorem reads_stringBody_go (cs : List Char) :
    ∀ (f : Nat) (acc : List Char), cs.length < f →
      Reads (stringBody.go f acc) (cs.flatMap escapeChar ++ '"' :: rest) d rest d
        (String.ofList (acc.reverse ++ cs)) := by
  induction cs with
  | nil =>
    intro f acc hf c hr hd
    cases f with
    | zero => exact absurd hf (Nat.lt_irrefl 0)
    | succ f =>
      refine ⟨c.advance, ?_, advance_rest hr, by simp only [advance_depth, hd]⟩
      simp only [stringBody.go, hr, List.flatMap_nil, List.nil_append, List.append_nil]
  | cons ch cs ih =>
    intro f acc hf c hr hd
    cases f with
    | zero => exact absurd hf (Nat.not_lt_zero _)
    | succ f =>
      rw [List.flatMap_cons, List.append_assoc] at hr
      obtain ⟨c₁, hgo, hr₁, hd₁⟩ := stringBody_go_escapeChar ch hr
      have hacc : acc.reverse ++ ch :: cs = (ch :: acc).reverse ++ cs := by
        simp only [List.reverse_cons, List.append_assoc, List.cons_append, List.nil_append]
      rw [hgo, hacc]
      exact ih f (ch :: acc) (by simp only [List.length_cons] at hf; omega) c₁ hr₁ (hd₁.trans hd)

theorem reads_stringBody (s : String) :
    Reads stringBody (s.toList.flatMap escapeChar ++ '"' :: rest) d rest d s := by
  intro c hr hd
  have hf : s.toList.length < c.rest.length + 1 := by
    have := le_length_flatMap_escapeChar s.toList
    rw [hr, List.length_append]
    omega
  obtain ⟨c', hc', hr', hd'⟩ := reads_stringBody_go s.toList _ [] hf c hr hd
  rw [List.reverse_nil, List.nil_append, String.ofList_toList] at hc'
  exact ⟨c', hc', hr', hd'⟩

theorem toList_quote (s : String) :
    (quote s).toList = '"' :: (s.toList.flatMap escapeChar ++ ['"']) :=
  String.toList_ofList

theorem toList_quote_append (s : String) (rest : List Char) :
    (quote s).toList ++ rest = '"' :: (s.toList.flatMap escapeChar ++ '"' :: rest) := by
  simp only [toList_quote, List.cons_append, List.append_assoc, List.nil_append]

end Strings

/-! ### Integers -/

/-- What may follow a value in compact text: nothing, a comma, or a closing bracket or brace. -/
def Boundary (rest : List Char) : Prop :=
  ∀ ch ∈ rest.head?, ch = ',' ∨ ch = ']' ∨ ch = '}'

theorem boundary_nil : Boundary [] := fun _ h => by cases h

theorem boundary_comma (r : List Char) : Boundary (',' :: r) :=
  fun _ h => .inl (Option.some.inj h).symm

theorem boundary_bracket (r : List Char) : Boundary (']' :: r) :=
  fun _ h => .inr (.inl (Option.some.inj h).symm)

theorem boundary_brace (r : List Char) : Boundary ('}' :: r) :=
  fun _ h => .inr (.inr (Option.some.inj h).symm)

theorem Boundary.unblanked {rest : List Char} (h : Boundary rest) : Unblanked rest := by
  intro ch hch
  rcases h ch hch with rfl | rfl | rfl <;> decide

theorem Boundary.takeWhile_isDigit {rest : List Char} (h : Boundary rest) :
    rest.takeWhile Char.isDigit = [] := by
  cases rest with
  | nil => rfl
  | cons ch r =>
    rcases h ch rfl with rfl | rfl | rfl <;> rfl

def digitStep (s : Nat) (ch : Char) : Nat := 10 * s + (ch.toNat - '0'.toNat)

theorem le_foldl_digitStep (ds : List Char) (s : Nat) : s ≤ ds.foldl digitStep s := by
  induction ds generalizing s with
  | nil => exact Nat.le_refl s
  | cons ch ds ih => exact Nat.le_trans (by unfold digitStep; omega) (ih _)

theorem takeDigits_of_le {bound s : Nat} {ds : List Char} (h : ds.foldl digitStep s ≤ bound) :
    takeDigits bound s ds = (ds.length, ds.foldl digitStep s) := by
  induction ds generalizing s with
  | nil => rfl
  | cons ch ds ih =>
    rw [List.foldl_cons] at h
    have hle : digitStep s ch ≤ bound := Nat.le_trans (le_foldl_digitStep ds _) h
    simp only [takeDigits, List.foldl_cons, List.length_cons]
    rw [show 10 * s + (ch.toNat - '0'.toNat) = digitStep s ch from rfl, if_neg (Nat.not_lt.2 hle),
      ih h]

theorem digitChar_sub_zero : ∀ n, n < 10 → n.digitChar.toNat - '0'.toNat = n := by decide

theorem digitChar_ne_zero : ∀ n, n < 10 → 0 < n → n.digitChar ≠ '0' := by decide

theorem foldl_digitStep_toDigits (m : Nat) : (Nat.toDigits 10 m).foldl digitStep 0 = m := by
  induction m using Nat.strongRecOn with
  | ind m ih =>
    rw [Nat.toDigits_eq_if (by decide)]
    split
    next h =>
      simp only [List.foldl_cons, List.foldl_nil, digitStep, digitChar_sub_zero m h]
      omega
    next h =>
      rw [List.foldl_append, ih (m / 10) (by omega)]
      simp only [List.foldl_cons, List.foldl_nil, digitStep,
        digitChar_sub_zero _ (Nat.mod_lt m (by decide))]
      omega

theorem toDigits_of_pos {m : Nat} (h : 0 < m) :
    ∃ ch ds, Nat.toDigits 10 m = ch :: ds ∧ ch ≠ '0' := by
  induction m using Nat.strongRecOn with
  | ind m ih =>
    rw [Nat.toDigits_eq_if (by decide)]
    split
    next hm => exact ⟨_, [], rfl, digitChar_ne_zero m hm h⟩
    next hm =>
      obtain ⟨ch, ds, hds, h0⟩ := ih (m / 10) (by omega) (by omega)
      exact ⟨ch, ds ++ [(m % 10).digitChar], by rw [hds, List.cons_append], h0⟩

theorem isDigit_of_mem_toDigits {m : Nat} {ch : Char} (h : ch ∈ Nat.toDigits 10 m) :
    ch.isDigit :=
  Nat.isDigit_of_mem_toDigits (by decide) (by decide) h

section Numbers

variable {rest : List Char} {d : Nat}

theorem reads_numberTail_nat (hb : Boundary rest) (s : Nat) :
    Reads (numberTail false s 0) rest d rest d (.int s) := by
  unfold numberTail
  refine Reads.bind reads_peek ?_
  split
  next h => exact absurd (hb '.' h) (by decide)
  next h => exact absurd (hb 'e' h) (by decide)
  next h => exact absurd (hb 'E' h) (by decide)
  next => exact Reads.pure _

theorem reads_numberTail_neg (hb : Boundary rest) {s : Nat} (h0 : 0 < s)
    (hs : s ≤ Nat.pow 2 63) : Reads (numberTail true s 0) rest d rest d (.int (-(s : Int))) := by
  unfold numberTail
  refine Reads.bind reads_peek ?_
  split
  next h => exact absurd (hb '.' h) (by decide)
  next h => exact absurd (hb 'e' h) (by decide)
  next h => exact absurd (hb 'E' h) (by decide)
  next =>
    simp only [Nat.lt_irrefl, ↓reduceIte, Bool.not_true, Nat.ne_of_gt h0, hs]
    exact Reads.pure _

/-- The decimal digits of a number that fits the significand, before a boundary, are read as
that number; what the reader makes of it is up to `numberTail`. -/
theorem reads_number {negative : Bool} {m : Nat} {a : Json} (hm : m ≤ significandMax)
    (hb : Boundary rest) (ht : Reads (numberTail negative m 0) rest d rest d a) :
    Reads (number negative) (Nat.toDigits 10 m ++ rest) d rest d a := by
  unfold number
  rcases Nat.eq_zero_or_pos m with rfl | hpos
  · -- a lone `0`, which no digit may follow
    rw [show Nat.toDigits 10 0 = ['0'] from rfl, List.cons_append, List.nil_append]
    refine Reads.bind reads_next ?_
    refine Reads.bind reads_peek ?_
    split
    next ch h =>
      have hch : ch.isDigit = false := by rcases hb ch h with rfl | rfl | rfl <;> rfl
      simpa only [hch, Bool.false_eq_true, ↓reduceIte] using ht
    next => exact ht
  · obtain ⟨ch, ds, hds, h0⟩ := toDigits_of_pos hpos
    have hdig : ∀ x ∈ ch :: ds, x.isDigit := fun x hx => isDigit_of_mem_toDigits (hds ▸ hx)
    have hval : ds.foldl digitStep (ch.toNat - '0'.toNat) = m := by
      have := foldl_digitStep_toDigits m
      rwa [hds, List.foldl_cons, show digitStep 0 ch = ch.toNat - '0'.toNat by
        unfold digitStep; omega] at this
    have htake : (ds ++ rest).takeWhile Char.isDigit = ds := by
      rw [List.takeWhile_append_of_pos (fun x hx => hdig x (List.mem_cons_of_mem _ hx)),
        hb.takeWhile_isDigit, List.append_nil]
    rw [hds, List.cons_append]
    refine Reads.bind reads_next ?_
    split
    next h => exact absurd h (by simp only [reduceCtorEq, not_false_eq_true])
    next h => exact absurd (Option.some.inj h) h0
    next x _ h =>
      obtain rfl : ch = x := Option.some.inj h
      simp only [hdig ch List.mem_cons_self, ↓reduceIte]
      refine Reads.bind reads_peekDigits ?_
      simp only [htake, takeDigits_of_le (hval ▸ hm), hval, Nat.sub_self]
      refine Reads.bind (reads_skip ds.length) ?_
      rw [List.drop_left]
      exact ht

end Numbers

end Json
end TwoPhaseLocking
