import Mathlib.Data.List.TakeDrop
import TwoPhaseLocking.Toml.Reader

/-!
Reading TOML text piece by piece. `Reads p pos inp rest a`: the step `p`, started at byte offset
`pos` on `inp ++ rest`, reads exactly `inp` and gives `a`; `Fails p pos inp`: it fails on `inp`
without committing.
-/
namespace TwoPhaseLocking
namespace Toml

def byteLen (cs : List Char) : Nat := (cs.map Char.utf8Size).foldr (· + ·) 0

@[simp] theorem byteLen_nil : byteLen [] = 0 := rfl

@[simp] theorem byteLen_cons (c : Char) (cs : List Char) :
    byteLen (c :: cs) = c.utf8Size + byteLen cs := rfl

@[simp] theorem byteLen_append (a b : List Char) : byteLen (a ++ b) = byteLen a + byteLen b := by
  induction a with
  | nil => simp
  | cons c a ih => simp [ih, Nat.add_assoc]

theorem byteLen_pos {cs : List Char} (h : cs ≠ []) : 0 < byteLen cs := by
  cases cs with
  | nil => exact absurd rfl h
  | cons c cs => simp only [byteLen_cons]; have := Char.utf8Size_pos c; omega

theorem byteLen_eq_length {cs : List Char} (h : ∀ d ∈ cs, d.utf8Size = 1) :
    byteLen cs = cs.length := by
  induction cs with
  | nil => rfl
  | cons d cs ih =>
    rw [byteLen_cons, h d List.mem_cons_self, ih fun x hx => h x (List.mem_cons_of_mem _ hx),
      List.length_cons, Nat.add_comm]

namespace Parse

variable {α β : Type} {pos : Nat} {inp rest : List Char}

/-- `p`, started at byte offset `pos` on `inp ++ rest`, reads `inp` and gives `a`. -/
def Reads (p : Parse α) (pos : Nat) (inp rest : List Char) (a : α) : Prop :=
  p ⟨inp ++ rest, pos⟩ = .ok (a, ⟨rest, pos + byteLen inp⟩)

/-- `p`, started at byte offset `pos` on `inp`, fails without committing. -/
def Fails (p : Parse α) (pos : Nat) (inp : List Char) : Prop :=
  ∃ f : Fault, p ⟨inp, pos⟩ = .error f ∧ f.committed = false

/-! ### Sequencing -/

theorem bind_apply (p : Parse α) (f : α → Parse β) (c : Cursor) :
    (p >>= f) c = match p c with
      | .ok (a, c') => f a c'
      | .error e => .error e := by
  simp only [bind, StateT.bind]
  cases p c <;> rfl

protected theorem Reads.pure (a : α) : Reads (pure a : Parse α) pos [] rest a := rfl

protected theorem Reads.bind {p : Parse α} {f : α → Parse β} {s t : List Char} {a : α} {b : β}
    (hp : Reads p pos s (t ++ rest) a) (hf : Reads (f a) (pos + byteLen s) t rest b) :
    Reads (p >>= f) pos (s ++ t) rest b := by
  unfold Reads at *
  rw [bind_apply, List.append_assoc, hp, byteLen_append, ← Nat.add_assoc]
  exact hf

protected theorem Reads.bind_nil {p : Parse α} {f : α → Parse β} {a : α} {b : β}
    (hp : Reads p pos inp rest a) (hf : Reads (f a) (pos + byteLen inp) [] rest b) :
    Reads (p >>= f) pos inp rest b := by
  have h := Reads.bind (t := []) hp hf
  rwa [List.append_nil] at h

protected theorem Reads.seqRight {p : Parse α} {q : Parse β} {s t : List Char} {a : α} {b : β}
    (hp : Reads p pos s (t ++ rest) a) (hq : Reads q (pos + byteLen s) t rest b) :
    Reads (p *> q) pos (s ++ t) rest b :=
  Reads.bind (f := fun _ => q) hp hq

theorem Fails.bind {p : Parse α} (h : Fails p pos inp) (f : α → Parse β) :
    Fails (p >>= f) pos inp := by
  obtain ⟨e, he, hc⟩ := h
  exact ⟨e, by rw [bind_apply, he], hc⟩

theorem Fails.bind_of_reads {p : Parse α} {f : α → Parse β} {a : α}
    (hp : Reads p pos inp rest a) (hf : Fails (f a) (pos + byteLen inp) rest) :
    Fails (p >>= f) pos (inp ++ rest) := by
  obtain ⟨e, he, hc⟩ := hf
  exact ⟨e, by rw [bind_apply, hp]; exact he, hc⟩

/-! ### Combinators -/

theorem Reads.commit {p : Parse α} {a : α} (h : Reads p pos inp rest a) :
    Reads (commit p) pos inp rest a := by
  unfold Reads at *
  simp only [Parse.commit, h]

theorem Reads.label {p : Parse α} {a : α} (l : String) (h : Reads p pos inp rest a) :
    Reads (label l p) pos inp rest a := by
  unfold Reads at *
  simp only [Parse.label, h]

theorem Reads.expect {p : Parse α} {a : α} (e : String) (h : Reads p pos inp rest a) :
    Reads (expect e p) pos inp rest a := by
  unfold Reads at *
  simp only [Parse.expect, h]

theorem Fails.label {p : Parse α} (l : String) (h : Fails p pos inp) :
    Fails (label l p) pos inp := by
  obtain ⟨e, he, hc⟩ := h
  exact ⟨{ e with label := e.label <|> some l }, by simp only [Parse.label, he], hc⟩

theorem Fails.expect {p : Parse α} (x : String) (h : Fails p pos inp) :
    Fails (expect x p) pos inp := by
  obtain ⟨e, he, hc⟩ := h
  exact ⟨{ e with expected := e.expected ++ [x] }, by simp only [Parse.expect, he], hc⟩

theorem Reads.orElse_left {p q : Parse α} {a : α} (h : Reads p pos inp rest a) :
    Reads (orElse p q) pos inp rest a := by
  unfold Reads at *
  simp only [Parse.orElse, h]

theorem Reads.orElse_right {p q : Parse α} {a : α} (hp : Fails p pos (inp ++ rest))
    (hq : Reads q pos inp rest a) : Reads (orElse p q) pos inp rest a := by
  obtain ⟨e, he, hc⟩ := hp
  unfold Reads at *
  simp only [Parse.orElse, he, hc, Bool.false_eq_true, if_false, hq]

theorem Fails.orElse {p q : Parse α} (hp : Fails p pos inp) (hq : Fails q pos inp) :
    Fails (orElse p q) pos inp := by
  obtain ⟨e, he, hc⟩ := hp
  obtain ⟨e', he', hc'⟩ := hq
  exact ⟨e', by simp only [Parse.orElse, he, hc, Bool.false_eq_true, if_false, he'], hc'⟩

theorem Reads.opt_some {p : Parse α} {a : α} (h : Reads p pos inp rest a) :
    Reads (opt p) pos inp rest (some a) := by
  unfold Reads at *
  simp only [Parse.opt, h]

theorem Reads.opt_none {p : Parse α} (h : Fails p pos rest) : Reads (opt p) pos [] rest none := by
  obtain ⟨e, he, hc⟩ := h
  simp only [Reads, Parse.opt, List.nil_append, he, hc, Bool.false_eq_true, if_false, byteLen_nil,
    Nat.add_zero]

theorem Reads.check {p : Parse α} {f : α → Except String β} {a : α} {b : β}
    (h : Reads p pos inp rest a) (hf : f a = .ok b) : Reads (check p f) pos inp rest b := by
  unfold Reads at *
  simp only [Parse.check, h, hf]

theorem Fails.check_of_reads {p : Parse α} {f : α → Except String β} {a : α} {m : String}
    (h : Reads p pos inp rest a) (hf : f a = .error m) : Fails (check p f) pos (inp ++ rest) := by
  unfold Reads at h
  exact ⟨{ pos := pos, cause := some m }, by simp only [Parse.check, h, hf], rfl⟩

theorem Fails.check {p : Parse α} (f : α → Except String β) (h : Fails p pos inp) :
    Fails (check p f) pos inp := by
  obtain ⟨e, he, hc⟩ := h
  exact ⟨e, by simp only [Parse.check, he], hc⟩

theorem Reads.recognize {p : Parse α} {a : α} (h : Reads p pos inp rest a) :
    Reads (recognize p) pos inp rest inp := by
  unfold Reads at *
  simp only [Parse.recognize, h, List.length_append, Nat.add_sub_cancel, List.take_left']

theorem Fails.recognize {p : Parse α} (h : Fails p pos inp) : Fails (recognize p) pos inp := by
  obtain ⟨e, he, hc⟩ := h
  exact ⟨e, by simp only [Parse.recognize, he], hc⟩

/-! ### Characters -/

theorem reads_peek : Reads peek pos [] rest rest.head? := rfl

theorem reads_peek2 : Reads peek2 pos [] rest (rest.take 2) := rfl

theorem reads_here : Reads here pos [] rest pos := rfl

theorem fails_fail : Fails (fail : Parse α) pos inp := ⟨_, rfl, rfl⟩

theorem reads_charIf {ok : Char → Bool} {ch : Char} (h : ok ch = true) :
    Reads (charIf ok) pos [ch] rest ch := by
  simp [Reads, charIf, h, Cursor.advance]

theorem fails_charIf {ok : Char → Bool} (h : ∀ ch ∈ inp.head?, ok ch = false) :
    Fails (charIf ok) pos inp := by
  cases inp with
  | nil => exact ⟨_, rfl, rfl⟩
  | cons ch r => exact ⟨{ pos := pos }, by simp [charIf, h ch rfl], rfl⟩

theorem fails_charIf_cons {ok : Char → Bool} {ch : Char} {r : List Char} (h : ok ch = false) :
    Fails (charIf ok) pos (ch :: r) :=
  fails_charIf fun x hx => by
    rw [List.head?_cons, Option.mem_def, Option.some.injEq] at hx
    rwa [← hx]

theorem reads_char (ch : Char) : Reads (char ch) pos [ch] rest () := by
  simp [Reads, char, Cursor.advance]

theorem fails_char {ch : Char} (h : inp.head? ≠ some ch) : Fails (char ch) pos inp := by
  cases inp with
  | nil => exact ⟨_, rfl, rfl⟩
  | cons x r =>
    have hx : x ≠ ch := fun hx => h (by rw [hx]; rfl)
    exact ⟨{ pos := pos }, by simp [char, hx], rfl⟩

theorem fails_char_cons {ch x : Char} {r : List Char} (h : x ≠ ch) : Fails (char ch) pos (x :: r) :=
  fails_char fun hx => h (Option.some.inj hx)

theorem reads_chars (s : List Char) : Reads (chars s) pos s rest () := by
  simp [Reads, chars, List.isPrefixOf_iff_prefix, byteLen]

theorem fails_chars {s : List Char} (h : ¬ s <+: inp) : Fails (chars s) pos inp :=
  ⟨{ pos := pos }, by simp [chars, List.isPrefixOf_iff_prefix, h], rfl⟩

theorem reads_takeWhile {ok : Char → Bool} (hinp : ∀ ch ∈ inp, ok ch = true)
    (hrest : ∀ ch ∈ rest.head?, ok ch = false) : Reads (takeWhile ok) pos inp rest inp := by
  have hrest' : rest.takeWhile ok = [] ∧ rest.dropWhile ok = rest := by
    cases rest with
    | nil => exact ⟨rfl, rfl⟩
    | cons ch r => simp [hrest ch rfl]
  have hspan : (inp ++ rest).span ok = (inp, rest) := by
    rw [List.span_eq_takeWhile_dropWhile, List.takeWhile_append_of_pos hinp,
      List.dropWhile_append_of_pos hinp, hrest'.1, hrest'.2, List.append_nil]
  simp only [Reads, takeWhile, hspan, byteLen]

theorem reads_eof : Reads eof pos [] [] () := rfl

theorem fails_eof (h : inp ≠ []) : Fails eof pos inp := by
  cases inp with
  | nil => exact absurd rfl h
  | cons ch r => exact ⟨_, rfl, rfl⟩

theorem Reads.spanned {p : Parse Scalar} {s : Scalar} (h : Reads p pos inp rest s) :
    Reads (spanned p) pos inp rest (.scalar s pos (pos + byteLen inp)) :=
  Reads.bind (s := []) reads_here
    (Reads.bind_nil h (Reads.bind (s := []) (t := []) reads_here (Reads.pure _)))

/-! ### Repetition -/

/-- `many p` reads a run of characters that `p` reads one at a time, up to where `p` fails. -/
theorem reads_many {p : Parse Unit} (hp : ∀ ch ∈ inp, ∀ pos r, Reads p pos [ch] r ())
    (hstop : ∀ pos, Fails p pos rest) : Reads (many p) pos inp rest () := by
  have hgo : ∀ (ds : List Char) (n pos : Nat), (∀ ch ∈ ds, ∀ pos r, Reads p pos [ch] r ()) →
      ds.length < n → many.go p n ⟨ds ++ rest, pos⟩ = .ok ((), ⟨rest, pos + byteLen ds⟩) := by
    intro ds
    induction ds with
    | nil =>
      intro n pos _ hn
      obtain ⟨n, rfl⟩ : ∃ m, n = m + 1 := ⟨n - 1, by simp at hn; omega⟩
      obtain ⟨e, he, hc⟩ := hstop pos
      simp only [many.go, List.nil_append, he, hc, Bool.false_eq_true, if_false, byteLen_nil,
        Nat.add_zero]
    | cons ch ds ih =>
      intro n pos hds hn
      obtain ⟨n, rfl⟩ : ∃ m, n = m + 1 := ⟨n - 1, by simp at hn; omega⟩
      have hch := hds ch List.mem_cons_self pos (ds ++ rest)
      simp only [Reads, List.singleton_append, byteLen_cons, byteLen_nil, Nat.add_zero] at hch
      have hmore : pos + ch.utf8Size > pos := by have := Char.utf8Size_pos ch; omega
      simp only [many.go, List.cons_append, hch, hmore, if_true]
      rw [ih n _ (fun x hx => hds x (List.mem_cons_of_mem _ hx)) (by simp at hn; omega),
        byteLen_cons, Nat.add_assoc]
  exact hgo inp _ pos hp (by simp only [List.length_append]; omega)

theorem Reads.sepBy1_one {p : Parse α} {sep : Parse Unit} {a : α} (h : Reads p pos inp rest a)
    (hsep : Fails sep (pos + byteLen inp) rest) : Reads (sepBy1 p sep) pos inp rest [a] := by
  obtain ⟨e, he, hc⟩ := hsep
  unfold Reads at *
  simp only [sepBy1, h, sepBy1.go, he, hc, Bool.false_eq_true, if_false]

end Parse

open Parse

/-! ### Blanks and line ends -/

section Blanks

variable {pos : Nat} {rest : List Char}

def NoBlank (rest : List Char) : Prop := ∀ ch ∈ rest.head?, isWs ch = false

theorem noBlank_cons {ch : Char} {r : List Char} (h : ch ≠ ' ' ∧ ch ≠ '\t') :
    NoBlank (ch :: r) := by
  intro x hx
  simp only [List.head?_cons, Option.mem_def, Option.some.injEq] at hx
  subst hx
  simp [isWs, h.1, h.2]

theorem reads_ws_nil (h : NoBlank rest) : Reads ws pos [] rest () := by
  have ht : Reads (takeWhile isWs) pos [] rest [] := reads_takeWhile (by simp) h
  exact Reads.bind (s := []) (t := []) ht (Reads.pure ())

theorem reads_ws_space (h : NoBlank rest) : Reads ws pos [' '] rest () := by
  have ht : Reads (takeWhile isWs) pos [' '] rest [' '] := reads_takeWhile (by simp [isWs]) h
  exact Reads.bind (s := [' ']) (t := []) ht (Reads.pure ())

theorem reads_newline : Reads newline pos ['\n'] rest () :=
  Reads.orElse_left (reads_char '\n')

theorem fails_newline {ch : Char} {r : List Char} (h : ch ≠ '\n' ∧ ch ≠ '\r') :
    Fails newline pos (ch :: r) :=
  Fails.orElse (fails_char (by simpa using h.1)) (fails_chars (by simp [Ne.symm h.2]))

theorem reads_lineEnding : Reads lineEnding pos ['\n'] rest () :=
  Reads.orElse_left reads_newline

theorem fails_comment {ch : Char} {r : List Char} (h : ch ≠ '#') : Fails comment pos (ch :: r) :=
  Fails.bind (fails_char (by simpa using h)) _

theorem reads_lineTrailing : Reads lineTrailing pos ['\n'] rest () := by
  have hws : Reads ws pos [] ('\n' :: rest) () := reads_ws_nil (noBlank_cons (by decide))
  have hc : Reads (opt comment) pos [] ('\n' :: rest) none :=
    Reads.opt_none (fails_comment (by decide))
  refine Reads.bind (s := []) hws (Reads.bind (s := []) hc ?_)
  simpa using (reads_lineEnding : Reads lineEnding pos ['\n'] rest ())

end Blanks

end Toml
end TwoPhaseLocking
