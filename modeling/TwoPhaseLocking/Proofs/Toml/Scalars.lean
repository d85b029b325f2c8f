import TwoPhaseLocking.Proofs.Toml.Reads
import TwoPhaseLocking.Proofs.Json.Tokens

/-!
Reading back the scalars of a configuration file: decimal integers, booleans and bare keys. The
reader's integer range is that of a signed 64-bit integer (`intOfText_eq_ok_iff`), and the
writer's digits of a number in it read back as the number (`reads_integer`).
-/
namespace TwoPhaseLocking
namespace Toml

open Parse

variable {pos : Nat} {r : List Char}

/-! ### Digits -/

theorem isDigit_eq_isDigit (c : Char) : isDigit c = c.isDigit := by
  simp only [isDigit, Char.isDigit, Char.le_def, UInt32.le_iff_toNat_le, ge_iff_le]

theorem utf8Size_of_isDigit {d : Char} (h : isDigit d = true) : d.utf8Size = 1 := by
  simp only [isDigit, Bool.and_eq_true, decide_eq_true_eq, Char.le_def] at h
  exact Char.utf8Size_eq_one_iff.mpr (Nat.le_trans (UInt32.le_iff_toNat_le.mp h.2) (by decide))

theorem byteLen_of_digits {ds : List Char} (h : ∀ d ∈ ds, isDigit d = true) :
    byteLen ds = ds.length :=
  byteLen_eq_length fun d hd => utf8Size_of_isDigit (h d hd)

theorem isDigit_of_mem_toDigits {n : Nat} {d : Char} (h : d ∈ Nat.toDigits 10 n) :
    isDigit d = true := by
  rw [isDigit_eq_isDigit]
  exact Json.isDigit_of_mem_toDigits h

theorem foldl_digitsValue {ds : List Char} (h : ∀ d ∈ ds, isDigit d = true) (s : Nat) :
    ds.foldl (fun acc d =>
      acc * 10 + (if isDigit d then d.toNat - 48 else if d ≤ 'F' then d.toNat - 55
        else d.toNat - 87)) s = ds.foldl Json.digitStep s := by
  induction ds generalizing s with
  | nil => rfl
  | cons d ds ih =>
    rw [List.foldl_cons, List.foldl_cons, if_pos (h d List.mem_cons_self),
      ih (fun x hx => h x (List.mem_cons_of_mem _ hx))]
    congr 1
    simp only [Json.digitStep]
    have : '0'.toNat = 48 := rfl
    rw [this, Nat.mul_comm]

theorem digitsValue_toDigits (n : Nat) : digitsValue 10 (Nat.toDigits 10 n) = n := by
  have hds : ∀ d ∈ Nat.toDigits 10 n, isDigit d = true := fun _ hd => isDigit_of_mem_toDigits hd
  have hnu : (Nat.toDigits 10 n).filter (· ≠ '_') = Nat.toDigits 10 n :=
    List.filter_eq_self.mpr fun d hd => by
      have := hds d hd
      simp only [ne_eq, decide_eq_true_eq]
      rintro rfl
      exact absurd this (by decide)
  rw [digitsValue, hnu, foldl_digitsValue hds, Json.foldl_digitStep_toDigits]

/-! ### Digits followed by the end of a line -/

section DigitText

variable {ds : List Char} (hds : ∀ d ∈ ds, isDigit d = true)
include hds

theorem takeWhile_take_digits (n : Nat) :
    ((ds ++ '\n' :: r).take n).takeWhile isDigit = ds.take n := by
  rw [List.take_append]
  rw [List.takeWhile_append_of_pos (fun x hx => hds x (List.mem_of_mem_take hx))]
  by_cases hn : n ≤ ds.length
  · rw [Nat.sub_eq_zero_of_le hn, List.take_zero, List.takeWhile_nil, List.append_nil]
  · obtain ⟨k, hk⟩ : ∃ k, n - ds.length = k + 1 := ⟨n - ds.length - 1, by omega⟩
    rw [hk, List.take_succ_cons, List.takeWhile_cons, if_neg (by decide), List.append_nil]

theorem head_drop_digits (n : Nat) :
    ∀ ch ∈ (ds.drop n ++ '\n' :: r).head?, isDigit ch = true ∨ ch = '\n' := by
  intro ch hch
  cases hd : ds.drop n with
  | nil =>
    rw [hd, List.nil_append, List.head?_cons, Option.mem_def, Option.some.injEq] at hch
    exact .inr hch.symm
  | cons x xs =>
    rw [hd, List.cons_append, List.head?_cons, Option.mem_def, Option.some.injEq] at hch
    subst hch
    exact .inl (hds x (List.mem_of_mem_drop (hd ▸ List.mem_cons_self)))

theorem fails_char_after_digits {c : Char} (hc : isDigit c = false) (hc' : c ≠ '\n') (n : Nat) :
    Fails (char c) (pos) (ds.drop n ++ '\n' :: r) := by
  refine fails_char fun h => ?_
  rcases head_drop_digits hds n c h with h | h
  · rw [hc] at h; cases h
  · exact hc' h

theorem reads_digitsN_take {n : Nat} (hn : n ≤ ds.length) :
    Reads (digitsN n) pos (ds.take n) (ds.drop n ++ '\n' :: r) (digitsValue 10 (ds.take n)) := by
  have htake := takeWhile_take_digits (r := r) hds n
  have hsplit : ds.take n ++ (ds.drop n ++ '\n' :: r) = ds ++ '\n' :: r := by
    rw [← List.append_assoc, List.take_append_drop]
  unfold Reads
  rw [hsplit]
  simp only [digitsN, htake, List.length_take, Nat.min_eq_left hn, if_true,
    byteLen_of_digits fun x hx => hds x (List.mem_of_mem_take hx), List.drop_append_of_le_length hn]

theorem fails_digitsN_of_lt {n : Nat} (hn : ds.length < n) :
    Fails (digitsN n) pos (ds ++ '\n' :: r) := by
  have htake := takeWhile_take_digits (r := r) hds n
  refine ⟨{ pos := pos }, ?_, rfl⟩
  simp only [digitsN, htake, List.length_take, Nat.min_eq_right (Nat.le_of_lt hn),
    Nat.ne_of_lt hn, if_false]

theorem fails_fullDate : Fails fullDate pos (ds ++ '\n' :: r) := by
  unfold fullDate
  by_cases h4 : 4 ≤ ds.length
  · rw [← List.take_append_drop 4 ds, List.append_assoc]
    exact Fails.bind_of_reads (reads_digitsN_take hds h4)
      (Fails.bind (fails_char_after_digits hds (by decide) (by decide) 4) _)
  · exact Fails.bind (fails_digitsN_of_lt hds (by omega)) _

theorem fails_partialTime : Fails partialTime pos (ds ++ '\n' :: r) := by
  unfold partialTime digits2In
  by_cases h2 : 2 ≤ ds.length
  · rw [← List.take_append_drop 2 ds, List.append_assoc]
    have hd : Reads (digitsN 2) pos (ds.take 2) (ds.drop 2 ++ '\n' :: r)
        (digitsValue 10 (ds.take 2)) := reads_digitsN_take hds h2
    by_cases hv : 0 ≤ digitsValue 10 (ds.take 2) ∧ digitsValue 10 (ds.take 2) ≤ 23
    · exact Fails.bind_of_reads (Reads.check hd (if_pos hv))
        (Fails.bind (fails_char_after_digits hds (by decide) (by decide) 2) _)
    · exact Fails.bind (Fails.check_of_reads hd (if_neg hv)) _
  · exact Fails.bind (Fails.check _ (fails_digitsN_of_lt hds (by omega))) _

/-- Digits before the end of a line are no date and no time. -/
theorem fails_dateTime : Fails dateTime pos (ds ++ '\n' :: r) :=
  Fails.bind (Fails.recognize (Fails.orElse
    (Fails.label _ (Fails.bind (fails_fullDate hds) _))
    (Fails.label _ (fails_partialTime hds)))) _

end DigitText

/-! ### Decimal integers -/

theorem ne_of_isDigit {d c : Char} (hd : isDigit d = true) (hc : isDigit c = false) : d ≠ c := by
  rintro rfl
  rw [hd] at hc
  cases hc

theorem nonzero_of_isDigit {d : Char} (hd : isDigit d = true) (h0 : d ≠ '0') :
    ('1' ≤ d && d ≤ '9') = true := by
  simp only [isDigit, Bool.and_eq_true, decide_eq_true_eq, Char.le_def,
    UInt32.le_iff_toNat_le] at hd ⊢
  have hne : d.val.toNat ≠ ('0' : Char).val.toNat := fun he => h0 (Char.toNat_inj.mp he)
  have h0' : ('0' : Char).val.toNat = 48 := rfl
  have h1' : ('1' : Char).val.toNat = 49 := rfl
  omega

section Integers

variable (n : Nat)

theorem toDigits_all_digits : ∀ d ∈ Nat.toDigits 10 n, isDigit d = true :=
  fun _ hd => isDigit_of_mem_toDigits hd

theorem head_toDigits_isDigit : ∀ ch ∈ (Nat.toDigits 10 n ++ '\n' :: r).head?, isDigit ch = true := by
  intro ch hch
  cases h : Nat.toDigits 10 n with
  | nil => exact absurd h Nat.toDigits_ne_nil
  | cons x xs =>
    rw [h, List.cons_append, List.head?_cons, Option.mem_def, Option.some.injEq] at hch
    subst hch
    exact isDigit_of_mem_toDigits (h ▸ List.mem_cons_self)

/-- The digits of a number, read as one: a lone zero, or a first digit other than zero and
then any digits. -/
theorem reads_decInt : Reads decInt pos (Nat.toDigits 10 n) ('\n' :: r) (Nat.toDigits 10 n) := by
  unfold decInt
  refine Reads.label _ (Reads.recognize (a := ()) ?_)
  have hsign : Reads (opt (charIf fun c => c = '+' || c = '-')) pos [] (Nat.toDigits 10 n ++ '\n' :: r)
      none := Reads.opt_none (fails_charIf fun ch hch => by
        have hd := head_toDigits_isDigit n ch hch
        simp [ne_of_isDigit hd (c := '+') rfl, ne_of_isDigit hd (c := '-') rfl])
  refine Reads.bind (s := []) (t := Nat.toDigits 10 n) hsign ?_
  rcases Nat.eq_zero_or_pos n with rfl | hpos
  · -- a lone zero
    rw [Nat.toDigits_zero]
    refine Reads.orElse_right (Fails.bind (fails_charIf_cons (by decide)) _) ?_
    exact Reads.bind (s := ['0']) (t := []) (reads_charIf rfl) (Reads.pure ())
  · obtain ⟨d, ds, hds, hd0⟩ := Json.toDigits_of_pos hpos
    have hall := toDigits_all_digits n
    rw [hds] at hall ⊢
    refine Reads.orElse_left ?_
    unfold digitRun
    refine Reads.bind (s := [d]) (t := ds)
      (reads_charIf (nonzero_of_isDigit (hall d List.mem_cons_self) hd0)) ?_
    refine reads_many (fun ch hch pos r => ?_) (fun pos => ?_)
    · exact Reads.orElse_left (Reads.bind (s := [ch]) (t := [])
        (reads_charIf (hall ch (List.mem_cons_of_mem _ hch))) (Reads.pure ()))
    · exact Fails.orElse (Fails.bind (fails_charIf_cons (by decide)) _)
        (Fails.bind (fails_char_cons (by decide)) _)

/-- The integer range of the reader: a decimal numeral, with or without a minus sign, reads as
its value exactly when the value fits a signed 64-bit integer. -/
theorem intOfText_eq_ok_iff {ds : List Char} (hds : ∀ d ∈ ds, isDigit d = true) (neg : Bool)
    {v : Int} :
    intOfText ((if neg then ['-'] else []) ++ ds) = .ok v ↔
      v = (if neg then -(digitsValue 10 ds : Int) else digitsValue 10 ds) ∧
        -int64Max - 1 ≤ v ∧ v ≤ int64Max := by
  -- the reader splits off the sign, and a digit is none
  have hsign : ∀ d ∈ ds.head?, d ≠ '-' ∧ d ≠ '+' := by
    intro d hd
    have hdig := hds d (List.mem_of_mem_head? hd)
    exact ⟨by rintro rfl; exact absurd hdig (by decide), by rintro rfl; exact absurd hdig (by decide)⟩
  unfold intOfText
  split
  next neg' body hpair =>
    have hnb : neg' = neg ∧ body = ds := by
      cases neg <;> split at hpair <;> simp_all
    obtain ⟨rfl, rfl⟩ := hnb
    unfold int64Max
    cases neg' <;> simp only [Bool.false_eq_true, if_true, if_false] <;> repeat' split
    all_goals simp only [reduceCtorEq, Except.ok.injEq, false_iff, not_and]; omega

/-- The digits of a number that fits a 64-bit signed integer read as that number. -/
theorem reads_integer (hn : (n : Int) ≤ int64Max) :
    Reads integer pos (Nat.toDigits 10 n) ('\n' :: r) (n : Int) := by
  unfold integer
  refine Reads.bind (s := []) (t := Nat.toDigits 10 n) reads_peek2 ?_
  -- the second character is a digit or the end of the line, so there is no base prefix
  have hsecond : ∀ b, (Nat.toDigits 10 n ++ '\n' :: r).take 2 = ['0', b] →
      isDigit b = true ∨ b = '\n' := by
    intro b hb
    refine head_drop_digits (r := r) (toDigits_all_digits n) 1 b ?_
    cases h : Nat.toDigits 10 n with
    | nil => exact absurd h Nat.toDigits_ne_nil
    | cons x xs =>
      rw [h, List.cons_append, List.take_succ_cons] at hb
      have hb' := (List.cons.inj hb).2
      rw [List.drop_one, List.tail_cons]
      cases xs with
      | nil =>
        simp only [List.nil_append, List.take_succ_cons, List.take_zero, List.cons.injEq,
          and_true] at hb'
        simpa using hb'
      | cons y ys =>
        simp only [List.cons_append, List.take_succ_cons, List.take_zero, List.cons.injEq,
          and_true] at hb'
        simp [hb']
  split
  next heq => exact absurd (hsecond 'x' heq) (by decide)
  next heq => exact absurd (hsecond 'o' heq) (by decide)
  next heq => exact absurd (hsecond 'b' heq) (by decide)
  next =>
    have hd : Reads decInt pos (Nat.toDigits 10 n) ('\n' :: r) (Nat.toDigits 10 n) :=
      reads_decInt n
    unfold Reads at hd ⊢
    simp only [byteLen_nil, Nat.add_zero, hd]
    have hv : intOfText (Nat.toDigits 10 n) = .ok (n : Int) :=
      (intOfText_eq_ok_iff (toDigits_all_digits n) false).2
        ⟨by rw [digitsValue_toDigits]; rfl, by unfold int64Max; omega, hn⟩
    rw [hv]

/-- The digits of a number, followed by the end of a line, are no finite float: it needs a
fraction or an exponent. Nor are they `inf` or `nan`. -/
theorem fails_float : Fails float pos (Nat.toDigits 10 n ++ '\n' :: r) := by
  unfold float
  refine Fails.label _ (Fails.orElse ?_ ?_)
  · have hexp : Fails exponent (pos + byteLen (Nat.toDigits 10 n)) ('\n' :: r) :=
      Fails.bind (fails_charIf_cons (by decide)) _
    have hfrac : Fails (do fraction; let _ ← opt exponent)
        (pos + byteLen (Nat.toDigits 10 n)) ('\n' :: r) :=
      Fails.bind (Fails.bind (fails_char_cons (by decide)) _) _
    obtain ⟨e, he, hc⟩ := Fails.recognize (Fails.bind_of_reads (f := fun _ =>
      orElse exponent (do fraction; let _ ← opt exponent)) (reads_decInt n) (Fails.orElse hexp hfrac))
    exact ⟨e, by simp only [he], hc⟩
  · have hsign : Reads (opt (charIf fun c => c = '+' || c = '-')) pos []
        (Nat.toDigits 10 n ++ '\n' :: r) none := Reads.opt_none (fails_charIf fun ch hch => by
          have hd := head_toDigits_isDigit n ch hch
          simp [ne_of_isDigit hd (c := '+') rfl, ne_of_isDigit hd (c := '-') rfl])
    show Fails _ pos ([] ++ (Nat.toDigits 10 n ++ '\n' :: r))
    refine Fails.bind_of_reads hsign (Fails.orElse (Fails.bind (fails_chars ?_) _)
      (Fails.bind (fails_chars ?_) _))
    all_goals
      rintro ⟨t, ht⟩
      change _ = Nat.toDigits 10 n ++ '\n' :: r at ht
      have hd := head_toDigits_isDigit (r := r) n
      rw [← ht] at hd
      exact absurd (hd _ rfl) (by decide)

end Integers

/-! ### Values -/

/-- A value that starts with a digit is a date, a time, a float or an integer. -/
theorem value_succ_digit {d : Char} (hd : isDigit d = true) (depth : Nat) (c : List Char) :
    value (depth + 1) ⟨d :: c, pos⟩ =
      spanned (orElse dateTime (orElse float (do pure (.integer (← integer))))) ⟨d :: c, pos⟩ := by
  rw [value, bind_apply]
  simp only [Parse.peek, List.head?_cons]
  generalize hx : (some d : Option Char) = x
  split <;> simp_all [isDigit]

/-- The digits of a number that fits a 64-bit signed integer, before the end of a line, are
that integer. -/
theorem reads_value_nat (depth n : Nat) (hn : (n : Int) ≤ int64Max) :
    Reads (value (depth + 1)) pos (Nat.toDigits 10 n) ('\n' :: r)
      (.scalar (.integer n) pos (pos + (Nat.toDigits 10 n).length)) := by
  obtain ⟨d, ds, hds⟩ := List.exists_cons_of_ne_nil (Nat.toDigits_ne_nil (n := n) (b := 10))
  have hd : isDigit d = true := isDigit_of_mem_toDigits (hds ▸ List.mem_cons_self)
  have hread : Reads (spanned (orElse dateTime (orElse float (do pure (.integer (← integer))))))
      pos (Nat.toDigits 10 n) ('\n' :: r) (.scalar (.integer n) pos (pos + (Nat.toDigits 10 n).length)) := by
    rw [← byteLen_of_digits (toDigits_all_digits n)]
    exact Reads.spanned (Reads.orElse_right (fails_dateTime (toDigits_all_digits n))
      (Reads.orElse_right (fails_float n)
        (Reads.bind_nil (reads_integer n hn) (Reads.pure _))))
  unfold Reads at hread ⊢
  rw [← hread, hds, List.cons_append, value_succ_digit hd]

theorem reads_value_true (depth : Nat) (rest : List Char) :
    Reads (value (depth + 1)) pos ['t', 'r', 'u', 'e'] rest
      (.scalar (.boolean true) pos (pos + 4)) := by
  have h : Reads (spanned (expect "\x60'\x60" (expect "\x60\"\x60"
      (label "string" (commit (chars ['t', 'r', 'u', 'e'])) *> pure (.boolean true)))))
      pos ['t', 'r', 'u', 'e'] rest (.scalar (.boolean true) pos (pos + 4)) :=
    Reads.spanned (Reads.expect _ (Reads.expect _ (Reads.bind_nil
      (Reads.label _ (Reads.commit (reads_chars _))) (Reads.pure _))))
  unfold Reads at h ⊢
  rw [← h, value, bind_apply]
  rfl

theorem reads_value_false (depth : Nat) (rest : List Char) :
    Reads (value (depth + 1)) pos ['f', 'a', 'l', 's', 'e'] rest
      (.scalar (.boolean false) pos (pos + 5)) := by
  have h : Reads (spanned (expect "\x60'\x60" (expect "\x60\"\x60"
      (label "string" (commit (chars ['f', 'a', 'l', 's', 'e'])) *> pure (.boolean false)))))
      pos ['f', 'a', 'l', 's', 'e'] rest (.scalar (.boolean false) pos (pos + 5)) :=
    Reads.spanned (Reads.expect _ (Reads.expect _ (Reads.bind_nil
      (Reads.label _ (Reads.commit (reads_chars _))) (Reads.pure _))))
  unfold Reads at h ⊢
  rw [← h, value, bind_apply]
  rfl

/-! ### Bare keys -/

section Keys

variable {k sp rest : List Char}

theorem isWs_of_isKeyChar {c : Char} (h : isKeyChar c = true) : isWs c = false := by
  revert h
  cases hw : isWs c
  · intro
    rfl
  · simp only [isWs, Bool.or_eq_true, decide_eq_true_eq] at hw
    rcases hw with rfl | rfl <;> decide

/-- A bare key: its characters, then blanks `sp`, before `rest`, which does not go on with a
dot. -/
theorem reads_key (hk : ∀ ch ∈ k, isKeyChar ch = true) (hne : k ≠ [])
    (hend : ∀ ch ∈ (sp ++ rest).head?, isKeyChar ch = false)
    (hws : Reads ws (pos + byteLen k) sp rest ()) (hdot : Fails (char '.') (pos + byteLen k + byteLen sp) rest) :
    Reads key pos (k ++ sp) rest [(String.ofList k, (pos, pos + byteLen k))] := by
  obtain ⟨c, k', rfl⟩ := List.exists_cons_of_ne_nil hne
  have hc := hk c List.mem_cons_self
  have hcws : isWs c = false := isWs_of_isKeyChar hc
  -- the first character of the key leads to a bare key
  have hsimple : ∀ rest', simpleKey ⟨c :: rest', pos⟩ = unquotedKey ⟨c :: rest', pos⟩ := by
    intro rest'
    rw [simpleKey, bind_apply]
    simp only [Parse.peek, List.head?_cons]
    generalize hx : (some c : Option Char) = x
    split <;> simp_all [isKeyChar, isDigit]
  have hbare : Reads unquotedKey pos (c :: k') (sp ++ rest) (String.ofList (c :: k')) := by
    unfold unquotedKey
    refine Reads.bind_nil (reads_takeWhile hk hend) ?_
    simp only [List.isEmpty_cons, Bool.false_eq_true, if_false]
    exact Reads.pure _
  have hsk : Reads simpleKey pos (c :: k') (sp ++ rest) (String.ofList (c :: k')) := by
    unfold Reads at hbare ⊢
    rw [List.cons_append, hsimple, ← List.cons_append, hbare]
  refine Reads.label _ (Reads.sepBy1_one ?_ (by rw [byteLen_append, ← Nat.add_assoc]; exact hdot))
  refine Reads.bind (s := []) (reads_ws_nil (noBlank_cons ⟨?_, ?_⟩)) ?_
  rotate_left 2
  · refine Reads.bind (s := []) reads_here ?_
    refine Reads.bind hsk ?_
    refine Reads.bind (s := []) reads_here ?_
    exact Reads.bind_nil hws (Reads.pure _)
  all_goals
    rintro rfl
    simp [isWs] at hcws

end Keys

end Toml
end TwoPhaseLocking
