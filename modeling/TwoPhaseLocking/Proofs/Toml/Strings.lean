import Mathlib.Data.List.TakeWhile
import TwoPhaseLocking.Config.Write
import TwoPhaseLocking.Proofs.Toml.Reads

/-!
Reading back the TOML text of a string: each of the four forms reads back as the string it was
written from. The written text is a piece per character, so each reading loop is proved by
induction on the characters, one case per kind of piece.
-/
namespace TwoPhaseLocking
namespace Toml
open Parse

variable {pos : Nat} {rest : List Char}

/-! ### Escapes -/

theorem hexDigit_reads : ∀ v < 16,
    let d := if v < 10 then Char.ofNat (48 + v) else Char.ofNat (55 + v)
    isHexDigit d = true ∧
      (if isDigit d then d.toNat - 48 else if d ≤ 'F' then d.toNat - 55 else d.toNat - 87) = v := by
  decide

/-- The four digits of `hex4 n` are hexadecimal and read back as `n`. -/
theorem hex4_reads {n : Nat} (hn : n < 65536) :
    (∀ d ∈ (hex4 n).toList, isHexDigit d = true) ∧ (hex4 n).toList.length = 4 ∧
      (hex4 n).toList.foldl (fun acc d => acc * 16 +
        (if isDigit d then d.toNat - 48 else if d ≤ 'F' then d.toNat - 55 else d.toNat - 87)) 0 = n := by
  have h3 := hexDigit_reads (n / Nat.pow 16 3 % 16) (Nat.mod_lt _ (by decide))
  have h2 := hexDigit_reads (n / Nat.pow 16 2 % 16) (Nat.mod_lt _ (by decide))
  have h1 := hexDigit_reads (n / Nat.pow 16 1 % 16) (Nat.mod_lt _ (by decide))
  have h0 := hexDigit_reads (n / Nat.pow 16 0 % 16) (Nat.mod_lt _ (by decide))
  simp only [hex4, String.toList_ofList, List.foldl_cons, List.foldl_nil, List.mem_cons,
    List.not_mem_nil] at h3 h2 h1 h0 ⊢
  refine ⟨?_, rfl, ?_⟩
  · rintro d (rfl | rfl | rfl | rfl | h)
    exacts [h3.1, h2.1, h1.1, h0.1, h.elim]
  · rw [h3.2, h2.2, h1.2, h0.2]
    simp only [Nat.pow_eq, Nat.pow_zero, Nat.pow_one, Nat.div_one]
    omega

theorem utf8Size_of_isHexDigit {d : Char} (h : isHexDigit d = true) : d.utf8Size = 1 := by
  refine Char.utf8Size_eq_one_iff.mpr ?_
  simp only [isHexDigit, isDigit, Bool.or_eq_true, Bool.and_eq_true, decide_eq_true_eq,
    Char.le_def] at h
  rcases h with (h | h) | h <;>
    exact Nat.le_trans (UInt32.le_iff_toNat_le.mp h.2) (by decide)

theorem reads_hexEscape_hex4 {n : Nat} (hn : n < 0xD800) :
    Reads (hexEscape 4) pos (hex4 n).toList rest (Char.ofNat n) := by
  obtain ⟨hhex, hlen, hval⟩ := hex4_reads (show n < 65536 by omega)
  have htake : ((hex4 n).toList ++ rest).take 4 = (hex4 n).toList := by
    exact List.take_left' hlen
  have hds : (hex4 n).toList.takeWhile isHexDigit = (hex4 n).toList :=
    List.takeWhile_eq_self_iff.mpr hhex
  have hbytes : byteLen (hex4 n).toList = 4 := by
    rw [byteLen_eq_length fun d hd => utf8Size_of_isHexDigit (hhex d hd), hlen]
  simp only [Reads, hexEscape, htake, hds, hlen, hval, hbytes, hn, true_or, if_true]
  rw [List.drop_left' hlen]

theorem reads_escaped_char {x ch : Char} (hx : x.utf8Size = 1)
    (h : escapeSeq ⟨x :: rest, pos + 1⟩ = .ok (ch, ⟨rest, pos + 2⟩)) :
    Reads escaped pos ['\\', x] rest ch := by
  simp only [Reads, escaped, bind_apply, List.cons_append, List.nil_append, byteLen_cons,
    byteLen_nil, hx]
  simp only [char, Cursor.advance, if_true]
  exact h

/-- The short escapes: the mark after the backslash, and the character it stands for. -/
def shortEscapes : List (Char × Char) :=
  [('b', '\x08'), ('t', '\t'), ('n', '\n'), ('f', '\x0c'), ('r', '\r'), ('"', '"'), ('\\', '\\')]

/-- What the writer escapes a character to: a backslash and the mark of a short escape, or, for
another control character, `\\u` and four hexadecimal digits. -/
theorem basicEscape_cases {ml : Bool} {c : Char} {e : String} (h : basicEscape ml c = some e) :
    (∃ x, e.toList = ['\\', x] ∧ (x, c) ∈ shortEscapes) ∨
      (e.toList = '\\' :: 'u' :: (hex4 c.toNat).toList ∧ (c.toNat ≤ 0x1F ∨ c.toNat = 0x7F)) := by
  unfold basicEscape at h
  repeat' split at h
  all_goals cases h
  -- the seven short escapes, in the order the writer tries them
  iterate 7
    subst c
    simp [shortEscapes]
  exact .inr ⟨by rw [String.toList_append]; rfl, by assumption⟩

theorem shortEscapes_mark : ∀ p ∈ shortEscapes, isWs p.1 = false ∧ p.1 ≠ '\n' ∧ p.1 ≠ '\r' := by
  decide

theorem reads_shortEscape {x c : Char} (h : (x, c) ∈ shortEscapes) :
    Reads escaped pos ['\\', x] rest c := by
  simp only [shortEscapes, List.mem_cons, Prod.mk.injEq, List.not_mem_nil, or_false] at h
  rcases h with ⟨rfl, rfl⟩ | ⟨rfl, rfl⟩ | ⟨rfl, rfl⟩ | ⟨rfl, rfl⟩ | ⟨rfl, rfl⟩ | ⟨rfl, rfl⟩ |
    ⟨rfl, rfl⟩ <;> exact reads_escaped_char rfl rfl

/-- Every escape the writer makes reads back as the character it stands for. -/
theorem reads_escaped {ml : Bool} {c : Char} {e : String} (h : basicEscape ml c = some e) :
    Reads escaped pos e.toList rest c := by
  rcases basicEscape_cases h with ⟨x, hx, hmem⟩ | ⟨hu, hctl⟩
  · rw [hx]
    exact reads_shortEscape hmem
  -- a control character without a short escape: `\\u` and four hexadecimal digits
  have hesc : Reads escapeSeq (pos + 1) ('u' :: (hex4 c.toNat).toList) rest c := by
    have hhex : Reads (hexEscape 4) (pos + 1 + 1) (hex4 c.toNat).toList rest
        (Char.ofNat c.toNat) := reads_hexEscape_hex4 (by omega)
    have hh := hhex.commit.label "unicode 4-digit hex code"
    rw [Char.ofNat_toNat] at hh
    unfold Reads at hh ⊢
    have hu1 : 'u'.utf8Size = 1 := rfl
    simp only [escapeSeq, List.cons_append, Cursor.advance]
    rw [hu1, hh, byteLen_cons, hu1, Nat.add_assoc (pos + 1)]
  rw [hu, ← List.singleton_append]
  exact Reads.bind (reads_char '\\') hesc

/-- The text of every escape the writer makes: a backslash, then a letter, a backslash or a
quote, which is neither a blank nor a line end. -/
theorem basicEscape_text {ml : Bool} {c : Char} {e : String} (h : basicEscape ml c = some e) :
    ∃ x more, e.toList = '\\' :: x :: more ∧ isWs x = false ∧ x ≠ '\n' ∧ x ≠ '\r' := by
  rcases basicEscape_cases h with ⟨x, hx, hmem⟩ | ⟨hu, -⟩
  · exact ⟨x, [], hx, shortEscapes_mark (x, c) hmem⟩
  · exact ⟨'u', _, hu, by decide, by decide, by decide⟩

/-- A character the writer leaves as it is, other than a line feed or a double quote, is one a
basic string holds. -/
theorem isBasicChar_of_basicEscape {ml : Bool} {c : Char} (h : basicEscape ml c = none)
    (hn : c ≠ '\n') (hq : c ≠ '"') : isBasicChar c = true := by
  unfold basicEscape at h
  split_ifs at h
  rename_i hb h8
  -- what is left is printable: at least a space, not a quote, a backslash or delete
  replace hq := mt Char.toNat_inj.mp hq
  replace hb := mt Char.toNat_inj.mp hb
  have hsp : c.toNat = 32 → c = ' ' := fun h => Char.toNat_inj.mp h
  simp only [Char.reduceToNat, not_or] at hq hb h8
  simp only [isBasicChar, isWs, Bool.or_eq_true, Bool.and_eq_true, decide_eq_true_eq]
  by_cases h32 : c.toNat = 32
  · exact Or.inl (Or.inl (Or.inl (Or.inl (Or.inl (hsp h32)))))
  · omega

/-! ### Basic strings -/

/-- The text of a character in a basic string: its escape, or the character itself. -/
def basicPiece (c : Char) : List Char := ((basicEscape false c).getD c.toString).toList

section BasicBody

variable {n : Nat} {acc : List Char}

theorem basicBody_go_run {l : List Char} (hl : ∀ ch ∈ l.head?, isBasicChar ch = true)
    (hne : l ≠ []) :
    basicBody.go (n + 1) acc ⟨l, pos⟩ =
      basicBody.go n (acc ++ l.takeWhile isBasicChar)
        ⟨l.dropWhile isBasicChar, pos + byteLen (l.takeWhile isBasicChar)⟩ := by
  obtain ⟨ch, t, rfl⟩ := List.exists_cons_of_ne_nil hne
  simp only [basicBody.go, hl ch rfl, if_true, List.span_eq_takeWhile_dropWhile]
  rfl

/-- A run of basic characters is read in one step of the loop, so a character followed by more
of them leaves the step count as it is. -/
theorem basicBody_go_plain {ch : Char} {t : List Char} (hch : isBasicChar ch = true) :
    basicBody.go (n + 1) acc ⟨ch :: t, pos⟩ =
      basicBody.go (if t.head?.any isBasicChar then n + 1 else n) (acc ++ [ch])
        ⟨t, pos + ch.utf8Size⟩ := by
  rw [basicBody_go_run (by simpa using hch) (List.cons_ne_nil _ _)]
  cases t with
  | nil => simp [hch]
  | cons d t =>
    cases hd : isBasicChar d with
    | false => simp [hch, hd]
    | true =>
      rw [show (d :: t).head?.any isBasicChar = true by simp [hd], if_pos rfl,
        basicBody_go_run (by simpa using hd) (List.cons_ne_nil _ _)]
      simp [hch, hd, Nat.add_assoc]

theorem basicBody_go_escape {more t : List Char} {ch : Char}
    (he : Reads escaped pos ('\\' :: more) t ch) :
    basicBody.go (n + 1) acc ⟨'\\' :: more ++ t, pos⟩ =
      basicBody.go n (acc ++ [ch]) ⟨t, pos + byteLen ('\\' :: more)⟩ := by
  unfold Reads at he
  simp only [basicBody.go, List.cons_append] at he ⊢
  simp only [show isBasicChar '\\' = false from rfl, Bool.false_eq_true, if_false, if_true, he]

theorem basicBody_go_quote {t : List Char} :
    basicBody.go (n + 1) acc ⟨'"' :: t, pos⟩ = .ok (acc, ⟨'"' :: t, pos⟩) := by
  simp only [basicBody.go, show isBasicChar '"' = false from rfl, Bool.false_eq_true, if_false]
  rfl

/-- The loop reads the written text of every string up to its closing quote, one character or
run of plain characters a step. -/
theorem basicBody_go_text (r : List Char) : ∀ (s : List Char) (n : Nat) (acc : List Char)
    (pos : Nat), s.length < n →
    basicBody.go n acc ⟨s.flatMap basicPiece ++ '"' :: r, pos⟩ =
      .ok (acc ++ s, ⟨'"' :: r, pos + byteLen (s.flatMap basicPiece)⟩)
  | [], n + 1, acc, pos, _ => by simp [basicBody_go_quote]
  | c :: s, n + 1, acc, pos, hn => by
    cases he : basicEscape false c with
    | none =>
      have hc := isBasicChar_of_basicEscape he (by rintro rfl; simp [basicEscape] at he)
        (by rintro rfl; simp [basicEscape] at he)
      have hpiece : basicPiece c = [c] := by simp [basicPiece, he]
      simp only [List.flatMap_cons, hpiece, List.cons_append, List.nil_append]
      rw [basicBody_go_plain hc]
      -- the next step count depends on whether the run of plain characters goes on
      split <;> rw [basicBody_go_text r s _ _ _ (by simp at hn; omega)] <;> simp [Nat.add_assoc]
    | some e =>
      obtain ⟨x, more, htext, -⟩ := basicEscape_text he
      have hpiece : basicPiece c = '\\' :: x :: more := by simp [basicPiece, he, htext]
      have hread : Reads escaped pos ('\\' :: x :: more)
          ((s.flatMap basicPiece) ++ '"' :: r) c := by
        rw [← htext]
        exact reads_escaped he
      simp only [List.flatMap_cons, hpiece, List.append_assoc]
      rw [basicBody_go_escape hread, basicBody_go_text r s _ _ _ (by simp at hn; omega)]
      simp [Nat.add_assoc]

end BasicBody

theorem length_le_basicText (s : List Char) : s.length ≤ (s.flatMap basicPiece).length := by
  induction s with
  | nil => simp
  | cons c s ih =>
    have hpiece : 0 < (basicPiece c).length := by
      cases he : basicEscape false c with
      | none => simp [basicPiece, he]
      | some e =>
        obtain ⟨x, more, htext, -⟩ := basicEscape_text he
        simp [basicPiece, he, htext]
    simp only [List.flatMap_cons, List.length_append, List.length_cons]
    omega

theorem reads_basicBody (s r : List Char) :
    Reads basicBody pos (s.flatMap basicPiece) ('"' :: r) s := by
  have hlen := length_le_basicText s
  unfold Reads basicBody
  rw [basicBody_go_text r s _ [] pos (by simp only [List.length_append]; omega), List.nil_append]

/-- A basic string reads back as the characters whose escapes it holds. -/
theorem reads_basicString (s r : List Char) :
    Reads basicString pos (['"'] ++ s.flatMap basicPiece ++ ['"']) r (String.ofList s) := by
  rw [List.append_assoc]
  refine Reads.bind (reads_char '"') (Reads.bind (reads_basicBody s r) ?_)
  exact Reads.bind_nil ((reads_char '"').commit.label _) (Reads.pure _)

/-! ### Literal strings -/

/-- A literal string reads back as the characters it holds. -/
theorem reads_literalString {s : List Char} (hs : ∀ c ∈ s, isLiteralChar c = true)
    (r : List Char) :
    Reads literalString pos (['\''] ++ s ++ ['\'']) r (String.ofList s) := by
  have hbody : Reads (takeWhile isLiteralChar) (pos + byteLen ['\'']) s (['\''] ++ r) s :=
    reads_takeWhile hs (by simp [isLiteralChar])
  rw [List.append_assoc]
  refine Reads.label _ (Reads.bind (reads_char '\'') (Reads.bind hbody.commit ?_))
  exact Reads.bind_nil (reads_char '\'').commit (Reads.pure _)

theorem startsWithNewline_cons {x : Char} {r : List Char} (hn : x ≠ '\n') (hr : x ≠ '\r') :
    startsWithNewline (x :: r) = false := by
  unfold startsWithNewline
  split <;> simp_all

section MultiBody

variable {q : Char} {plain : Char → Bool} {escapes : Bool} {n : Nat} {acc : List Char}

theorem multiBody_go_run {l : List Char} (hq : plain q = false)
    (hl : ∀ ch ∈ l.head?, plain ch = true) (hne : l ≠ []) :
    multiBody.go q plain escapes (n + 1) acc ⟨l, pos⟩ =
      multiBody.go q plain escapes n (acc ++ l.takeWhile plain)
        ⟨l.dropWhile plain, pos + byteLen (l.takeWhile plain)⟩ := by
  obtain ⟨ch, t, rfl⟩ := List.exists_cons_of_ne_nil hne
  have hch := hl ch rfl
  have hne : ch ≠ q := fun h => by rw [h, hq] at hch; exact Bool.false_ne_true hch
  simp only [multiBody.go, hne, if_false, hch, if_true, List.span_eq_takeWhile_dropWhile]
  rfl

/-- A run of plain characters is read in one step of the loop, so a character followed by more
of them leaves the step count as it is. -/
theorem multiBody_go_plain {ch : Char} {t : List Char} (hq : plain q = false)
    (hch : plain ch = true) :
    multiBody.go q plain escapes (n + 1) acc ⟨ch :: t, pos⟩ =
      multiBody.go q plain escapes (if t.head?.any plain then n + 1 else n) (acc ++ [ch])
        ⟨t, pos + ch.utf8Size⟩ := by
  rw [multiBody_go_run hq (by simpa using hch) (List.cons_ne_nil _ _)]
  cases t with
  | nil => simp [hch]
  | cons d t =>
    cases hd : plain d with
    | false => simp [hch, hd]
    | true =>
      rw [show (d :: t).head?.any plain = true by simp [hd], if_pos rfl,
        multiBody_go_run hq (by simpa using hd) (List.cons_ne_nil _ _)]
      simp [hch, hd, Nat.add_assoc]

theorem multiBody_go_newline {t : List Char} (hq : q ≠ '\n') (hn : plain '\n' = false) :
    multiBody.go q plain escapes (n + 1) acc ⟨'\n' :: t, pos⟩ =
      multiBody.go q plain escapes n (acc ++ ['\n']) ⟨t, pos + 1⟩ := by
  simp only [multiBody.go, Ne.symm hq, if_false, hn, Bool.false_eq_true, startsWithNewline,
    if_true]
  rfl

theorem multiBody_go_escape {more t : List Char} {ch : Char} (hq : q ≠ '\\')
    (hb : plain '\\' = false) (hnl : Fails escapedNewline pos ('\\' :: more ++ t))
    (he : Reads escaped pos ('\\' :: more) t ch) :
    multiBody.go q plain true (n + 1) acc ⟨'\\' :: more ++ t, pos⟩ =
      multiBody.go q plain true n (acc ++ [ch]) ⟨t, pos + byteLen ('\\' :: more)⟩ := by
  obtain ⟨f, hf, -⟩ := hnl
  unfold Reads at he
  simp only [List.cons_append] at hf he ⊢
  simp only [multiBody.go, Ne.symm hq, if_false, hb, Bool.false_eq_true,
    startsWithNewline_cons (x := '\\') (by decide) (by decide), Bool.true_and, decide_true,
    if_true, hf, he]

theorem quoteRun_replicate {k : Nat} {t : List Char} (ht : ∀ x ∈ t.head?, x ≠ q) :
    quoteRun q (List.replicate k q ++ t) = k := by
  unfold quoteRun
  rw [List.takeWhile_append_of_pos (by simp)]
  cases t with
  | nil => simp
  | cons x t => simp [ht x rfl]

theorem multiBody_go_quotes {k : Nat} {x : Char} {t : List Char} (hk : 0 < k) (hk3 : k < 3)
    (hx : x ≠ q) (hnext : (plain x || startsWithNewline (x :: t) || (escapes && x = '\\')) = true) :
    multiBody.go q plain escapes (n + 1) acc ⟨List.replicate k q ++ x :: t, pos⟩ =
      multiBody.go q plain escapes n (acc ++ List.replicate k q) ⟨x :: t, pos + k⟩ := by
  obtain ⟨k, rfl⟩ : ∃ j, k = j + 1 := ⟨k - 1, by omega⟩
  have hrun := quoteRun_replicate (q := q) (k := k + 1) (t := x :: t) (by simpa using hx)
  have hdrop : (List.replicate (k + 1) q ++ x :: t).drop (k + 1) = x :: t :=
    List.drop_left' List.length_replicate
  rw [List.replicate_succ, List.cons_append] at hrun hdrop
  rw [List.replicate_succ, List.cons_append]
  simp only [multiBody.go, if_true, hrun, show ¬ (k + 1 ≥ 3) by omega, if_false, hdrop, hnext]
  rfl

theorem multiBody_go_close {k : Nat} {t : List Char} (hk : k ≤ 2) (ht : ∀ x ∈ t.head?, x ≠ q) :
    multiBody.go q plain escapes (n + 1) acc ⟨List.replicate k q ++ q :: q :: q :: t, pos⟩ =
      .ok (acc ++ List.replicate k q, ⟨q :: q :: q :: t, pos + k⟩) := by
  have hsplit : List.replicate k q ++ q :: q :: q :: t = List.replicate (k + 3) q ++ t := by
    simp [List.replicate_succ']
  have hrun : quoteRun q (List.replicate (k + 3) q ++ t) = k + 3 := quoteRun_replicate ht
  have hdrop : (List.replicate (k + 3) q ++ t).drop k = q :: q :: q :: t := by
    rw [← hsplit]
    exact List.drop_left' List.length_replicate
  rw [hsplit, List.replicate_succ, List.cons_append]
  rw [List.replicate_succ, List.cons_append] at hrun hdrop
  simp only [multiBody.go, if_true, hrun, show k + 3 ≥ 3 by omega, Nat.add_sub_cancel,
    show min k 2 = k by omega, hdrop]

end MultiBody

/-! ### Multi-line literal strings -/

section MultiLiteral

/-- The loop reads a text of literal characters, line feeds and quotes, no three quotes
together, up to the closing quotes. -/
theorem multiLiteral_go_text {r : List Char} (hr : ∀ x ∈ r.head?, x ≠ '\'') (s : List Char)
    (n : Nat) (acc : List Char) (pos : Nat)
    (hs : ∀ c ∈ s, isLiteralChar c = true ∨ c = '\'' ∨ c = '\n')
    (h3 : ¬ ['\'', '\'', '\''] <:+: s) (hn : s.length < n) :
    multiBody.go '\'' isLiteralChar false n acc ⟨s ++ '\'' :: '\'' :: '\'' :: r, pos⟩ =
      .ok (acc ++ s, ⟨'\'' :: '\'' :: '\'' :: r, pos + byteLen s⟩) := by
  obtain ⟨n, rfl⟩ : ∃ m, n = m + 1 := ⟨n - 1, by omega⟩
  cases s with
  | nil =>
    have hclose : multiBody.go '\'' isLiteralChar false (n + 1) acc
        ⟨List.replicate 0 '\'' ++ '\'' :: '\'' :: '\'' :: r, pos⟩ =
        .ok (acc ++ List.replicate 0 '\'', ⟨'\'' :: '\'' :: '\'' :: r, pos + 0⟩) :=
      multiBody_go_close (by omega) hr
    simpa using hclose
  | cons c s =>
    have hs' : ∀ c ∈ s, isLiteralChar c = true ∨ c = '\'' ∨ c = '\n' :=
      fun d hd => hs d (List.mem_cons_of_mem _ hd)
    have h3' : ¬ ['\'', '\'', '\''] <:+: s := fun h => h3 (h.trans (List.suffix_cons _ _).isInfix)
    simp only [List.length_cons] at hn
    rcases hs c List.mem_cons_self with hc | rfl | rfl
    · rw [List.cons_append, multiBody_go_plain rfl hc]
      split <;> rw [multiLiteral_go_text hr s _ _ _ hs' h3' (by omega)] <;> simp [Nat.add_assoc]
    · -- one or two quotes, before the closing ones or before more text
      have hnext : ∀ x t, (isLiteralChar x = true ∨ x = '\n') →
          x ≠ '\'' ∧ (isLiteralChar x || startsWithNewline (x :: t) || (false && x = '\\')) = true :=
        fun x t hx => by
          rcases hx with hx | rfl
          · exact ⟨fun h => absurd (h ▸ hx) (by decide), by simp [hx]⟩
          · exact ⟨by decide, by simp [startsWithNewline]⟩
      cases s with
      | nil =>
        have hclose : multiBody.go '\'' isLiteralChar false (n + 1) acc
            ⟨List.replicate 1 '\'' ++ '\'' :: '\'' :: '\'' :: r, pos⟩ =
            .ok (acc ++ List.replicate 1 '\'', ⟨'\'' :: '\'' :: '\'' :: r, pos + 1⟩) :=
          multiBody_go_close (by omega) hr
        simpa [show '\''.utf8Size = 1 from rfl] using hclose
      | cons d s =>
        by_cases hdq : d = '\''
        · subst hdq
          cases s with
          | nil =>
            have hclose : multiBody.go '\'' isLiteralChar false (n + 1) acc
                ⟨List.replicate 2 '\'' ++ '\'' :: '\'' :: '\'' :: r, pos⟩ =
                .ok (acc ++ List.replicate 2 '\'', ⟨'\'' :: '\'' :: '\'' :: r, pos + 2⟩) :=
              multiBody_go_close (by omega) hr
            simpa [show '\''.utf8Size = 1 from rfl, Nat.add_assoc] using hclose
          | cons e s =>
            have he : e ≠ '\'' := by
              rintro rfl
              exact h3 ⟨[], s, rfl⟩
            have hx := hnext e (s ++ '\'' :: '\'' :: '\'' :: r)
              ((hs' e (by simp)).imp_right fun h => h.resolve_left he)
            show multiBody.go '\'' isLiteralChar false (n + 1) acc
              ⟨List.replicate 2 '\'' ++ e :: (s ++ '\'' :: '\'' :: '\'' :: r), pos⟩ = _
            have ih := multiLiteral_go_text hr (e :: s) n (acc ++ List.replicate 2 '\'') (pos + 2)
              (fun c hc => hs' c (List.mem_cons_of_mem _ hc))
              (fun h => h3' (h.trans (List.suffix_cons _ _).isInfix)) (by simp at hn ⊢; omega)
            rw [List.cons_append] at ih
            rw [multiBody_go_quotes (by omega) (by omega) hx.1 hx.2, ih]
            simp only [List.replicate, List.append_assoc, List.cons_append, List.nil_append,
              byteLen_cons, show '\''.utf8Size = 1 from rfl, Except.ok.injEq, Prod.mk.injEq,
              Cursor.mk.injEq, true_and]
            omega
        · have hx := hnext d (s ++ '\'' :: '\'' :: '\'' :: r)
            ((hs' d List.mem_cons_self).imp_right fun h => h.resolve_left hdq)
          show multiBody.go '\'' isLiteralChar false (n + 1) acc
            ⟨List.replicate 1 '\'' ++ d :: (s ++ '\'' :: '\'' :: '\'' :: r), pos⟩ = _
          have ih := multiLiteral_go_text hr (d :: s) n (acc ++ List.replicate 1 '\'') (pos + 1)
            hs' h3' (by simp at hn ⊢; omega)
          rw [List.cons_append] at ih
          rw [multiBody_go_quotes (by omega) (by omega) hx.1 hx.2, ih]
          simp [Nat.add_assoc, show '\''.utf8Size = 1 from rfl]
    · rw [List.cons_append, multiBody_go_newline (by decide) rfl,
        multiLiteral_go_text hr s _ _ _ hs' h3' (by omega)]
      simp [Nat.add_assoc, show '\n'.utf8Size = 1 from rfl]
termination_by s.length

/-- A multi-line literal string reads back as the characters it holds, after the line feed
that may open it. -/
theorem reads_mlLiteralString {s lead rest : List Char}
    (hs : ∀ c ∈ s, isLiteralChar c = true ∨ c = '\'' ∨ c = '\n')
    (h3 : ¬ ['\'', '\'', '\''] <:+: s) (hr : ∀ x ∈ rest.head?, x ≠ '\'') {o : Option Unit}
    (hlead : Reads (opt newline) (pos + 3) lead (s ++ ['\'', '\'', '\''] ++ rest) o) :
    Reads mlLiteralString pos (['\'', '\'', '\''] ++ lead ++ s ++ ['\'', '\'', '\'']) rest
      (String.ofList s) := by
  have hbody : Reads (multiBody '\'' isLiteralChar false) (pos + 3 + byteLen lead) s
      ('\'' :: '\'' :: '\'' :: rest) s := by
    unfold Reads multiBody
    rw [multiLiteral_go_text hr s _ [] _ hs h3 (by simp only [List.length_append]; omega),
      List.nil_append]
  rw [List.append_assoc, List.append_assoc]
  refine Reads.label _ (Reads.bind (reads_chars _) (Reads.bind hlead (Reads.bind hbody.commit ?_)))
  exact Reads.bind_nil (reads_chars _).commit (Reads.pure _)
 
end MultiLiteral

/-! ### Multi-line basic strings -/

section MultiBasic

theorem fails_escapedNewline {x : Char} {r : List Char} (hx : isWs x = false) (hn : x ≠ '\n')
    (hr : x ≠ '\r') : Fails escapedNewline pos ('\\' :: x :: r) := by
  refine ⟨{ pos := pos }, ?_, rfl⟩
  simp only [escapedNewline, List.takeWhile_cons, hx, Bool.false_eq_true, if_false,
    List.length_nil, List.drop_zero, startsWithNewline_cons hn hr]

def multiBasicText (s : List Char) : List Char := (multiBasicBody s).flatMap String.toList

@[simp] theorem multiBasicText_nil : multiBasicText [] = [] := rfl

/-- A double quote is escaped when two more follow it; every other character is written by its
escape or as it is. -/
theorem multiBasicText_cons (c : Char) (s : List Char) :
    multiBasicText (c :: s) =
      (if c = '"' then (if s.take 2 = ['"', '"'] then "\\\"" else "\"")
        else (basicEscape true c).getD c.toString).toList ++ multiBasicText s := by
  simp [multiBasicText, multiBasicBody]

/-- Text that follows a character other than a double quote starts with something the loop
reads on: a plain character, a line feed or a backslash. -/
theorem multiBasicText_head {d : Char} (s t : List Char) (hd : d ≠ '"') :
    ∃ x u, multiBasicText (d :: s) ++ t = x :: u ∧ x ≠ '"' ∧
      (isBasicChar x || startsWithNewline (x :: u) || (true && x = '\\')) = true := by
  rw [multiBasicText_cons, if_neg hd]
  cases he : basicEscape true d with
  | none =>
    by_cases hn : d = '\n'
    · subst hn
      exact ⟨'\n', _, rfl, by decide, by simp [startsWithNewline]⟩
    · exact ⟨d, multiBasicText s ++ t, by simp, hd,
        by simp [isBasicChar_of_basicEscape he hn hd]⟩
  | some e =>
    obtain ⟨x, more, htext, -⟩ := basicEscape_text he
    exact ⟨'\\', x :: more ++ multiBasicText s ++ t, by simp [htext], by decide, by simp⟩

/-- One or two quotes left as they are, before the text of a character other than a quote,
are read in one step of the loop. -/
theorem multiBasic_go_quotes {k n : Nat} {acc : List Char} {d : Char} {s t : List Char}
    (hk : 0 < k) (hk3 : k < 3) (hd : d ≠ '"') :
    multiBody.go '"' isBasicChar true (n + 1) acc
        ⟨List.replicate k '"' ++ (multiBasicText (d :: s) ++ t), pos⟩ =
      multiBody.go '"' isBasicChar true n (acc ++ List.replicate k '"')
        ⟨multiBasicText (d :: s) ++ t, pos + k⟩ := by
  obtain ⟨x, u, hxu, hx, hnext⟩ := multiBasicText_head s t hd
  rw [hxu, multiBody_go_quotes hk hk3 hx hnext]

/-- The loop reads the written body of every multi-line basic string up to the closing quotes:
runs of plain characters, line feeds and escapes a step each, and each run of quotes as the
escaped ones and the one or two left as they are. -/
theorem multiBasic_go_text {r : List Char} (hr : ∀ x ∈ r.head?, x ≠ '"') (s : List Char)
    (n : Nat) (acc : List Char) (pos : Nat) (hn : s.length < n) :
    multiBody.go '"' isBasicChar true n acc ⟨multiBasicText s ++ '"' :: '"' :: '"' :: r, pos⟩ =
      .ok (acc ++ s, ⟨'"' :: '"' :: '"' :: r, pos + byteLen (multiBasicText s)⟩) := by
  obtain ⟨n, rfl⟩ : ∃ m, n = m + 1 := ⟨n - 1, by omega⟩
  cases s with
  | nil =>
    have hclose : multiBody.go '"' isBasicChar true (n + 1) acc
        ⟨List.replicate 0 '"' ++ '"' :: '"' :: '"' :: r, pos⟩ =
        .ok (acc ++ List.replicate 0 '"', ⟨'"' :: '"' :: '"' :: r, pos + 0⟩) :=
      multiBody_go_close (by omega) hr
    simpa using hclose
  | cons c s =>
    simp only [List.length_cons] at hn
    rw [multiBasicText_cons]
    by_cases hq : c = '"'
    · subst hq
      rw [if_pos rfl]
      by_cases h2 : s.take 2 = ['"', '"']
      · -- a quote with two more after it is escaped
        rw [if_pos h2]
        have ih := multiBasic_go_text hr s n (acc ++ ['"']) (pos + byteLen ['\\', '"']) (by omega)
        have hesc : Reads escaped pos ['\\', '"'] (multiBasicText s ++ '"' :: '"' :: '"' :: r) '"' :=
          reads_escaped (show basicEscape false '"' = some "\\\"" from rfl)
        rw [show ("\\\"" : String).toList = ['\\', '"'] from rfl, List.append_assoc,
          multiBody_go_escape (show ('"' : Char) ≠ '\\' by decide)
            (show isBasicChar '\\' = false from rfl) (fails_escapedNewline rfl (by decide) (by decide))
            hesc, ih]
        simp only [List.append_assoc, List.singleton_append, byteLen_append, Nat.add_assoc]
      · -- a quote left as it is: one or two of them end the run
        rw [if_neg h2, show ("\"" : String).toList = List.replicate 1 '"' from rfl]
        cases s with
        | nil =>
          rw [multiBasicText_nil, List.append_nil, multiBody_go_close (by omega) hr]
          rfl
        | cons d s =>
          by_cases hd : d = '"'
          · subst hd
            cases s with
            | nil =>
              have hclose : multiBody.go '"' isBasicChar true (n + 1) acc
                  ⟨List.replicate 2 '"' ++ '"' :: '"' :: '"' :: r, pos⟩ =
                  .ok (acc ++ List.replicate 2 '"', ⟨'"' :: '"' :: '"' :: r, pos + 2⟩) :=
                multiBody_go_close (by omega) hr
              rw [multiBasicText_cons, if_pos rfl, if_neg (by decide), multiBasicText_nil]
              exact hclose
            | cons y s =>
              have hy : y ≠ '"' := fun h => h2 (by simp [h])
              rw [multiBasicText_cons, if_pos rfl, if_neg (by simp [hy]),
                show ("\"" : String).toList = ['"'] from rfl, List.append_assoc, List.append_assoc,
                ← List.append_assoc (List.replicate 1 '"'),
                show List.replicate 1 '"' ++ ['"'] = List.replicate 2 '"' from rfl,
                multiBasic_go_quotes (by omega) (by omega) hy,
                multiBasic_go_text hr (y :: s) n _ _ (by simp at hn ⊢; omega)]
              simp only [List.append_assoc, List.replicate, List.cons_append, List.nil_append,
                byteLen_cons, show ('"' : Char).utf8Size = 1 from rfl, Except.ok.injEq,
                Prod.mk.injEq, Cursor.mk.injEq, true_and]
              omega
          · rw [List.append_assoc, multiBasic_go_quotes (by omega) (by omega) hd,
              multiBasic_go_text hr (d :: s) n _ _ (by omega)]
            simp only [List.append_assoc, List.replicate, List.singleton_append, byteLen_cons,
              show ('"' : Char).utf8Size = 1 from rfl, Nat.add_assoc]
    · rw [if_neg hq]
      cases he : basicEscape true c with
      | none =>
        rw [Option.getD_none]
        by_cases hnl : c = '\n'
        · subst hnl
          rw [show ('\n' : Char).toString.toList = ['\n'] from rfl, List.append_assoc,
            List.singleton_append, multiBody_go_newline (by decide) rfl,
            multiBasic_go_text hr s n _ _ (by omega)]
          simp only [List.append_assoc, List.singleton_append, byteLen_cons,
            show ('\n' : Char).utf8Size = 1 from rfl, Nat.add_assoc]
        · have hb := isBasicChar_of_basicEscape he hnl hq
          rw [show c.toString.toList = [c] by simp, List.append_assoc, List.singleton_append,
            multiBody_go_plain (show isBasicChar '"' = false from rfl) hb]
          -- the next step count depends on whether the run of plain characters goes on
          split <;> rw [multiBasic_go_text hr s _ _ _ (by omega)] <;>
            simp only [List.append_assoc, List.singleton_append, byteLen_cons, Nat.add_assoc]
      | some e =>
        obtain ⟨x, more, htext, hx, hxn, hxr⟩ := basicEscape_text he
        have hesc : Reads escaped pos ('\\' :: x :: more)
            (multiBasicText s ++ '"' :: '"' :: '"' :: r) c := htext ▸ reads_escaped he
        rw [Option.getD_some, htext, List.append_assoc,
          multiBody_go_escape (show ('"' : Char) ≠ '\\' by decide)
            (show isBasicChar '\\' = false from rfl) (fails_escapedNewline hx hxn hxr) hesc,
          multiBasic_go_text hr s n _ _ (by omega)]
        simp only [List.append_assoc, List.singleton_append, byteLen_append, Nat.add_assoc]
termination_by s.length

theorem length_le_multiBasicText (s : List Char) : s.length ≤ (multiBasicText s).length := by
  induction s with
  | nil => simp
  | cons c s ih =>
    rw [multiBasicText_cons, List.length_append, List.length_cons]
    -- every character is written as at least one character
    have hpiece : 0 < ((if c = '"' then (if s.take 2 = ['"', '"'] then "\\\"" else "\"")
        else (basicEscape true c).getD c.toString).toList).length := by
      split_ifs
      · decide
      · decide
      · cases he : basicEscape true c with
        | none => simp
        | some e =>
          obtain ⟨x, more, htext, -⟩ := basicEscape_text he
          simp [htext]
    omega

/-- A multi-line basic string reads back as the characters whose escapes it holds, after the
line feed that may open it. -/
theorem reads_mlBasicString {s lead rest : List Char} (hr : ∀ x ∈ rest.head?, x ≠ '"')
    {o : Option Unit}
    (hlead : Reads (opt newline) (pos + 3) lead (multiBasicText s ++ ['"', '"', '"'] ++ rest) o) :
    Reads mlBasicString pos (['"', '"', '"'] ++ lead ++ multiBasicText s ++ ['"', '"', '"']) rest
      (String.ofList s) := by
  have hlen := length_le_multiBasicText s
  have hbody : Reads (multiBody '"' (fun ch => isBasicChar ch) true) (pos + 3 + byteLen lead)
      (multiBasicText s) ('"' :: '"' :: '"' :: rest) s := by
    unfold Reads multiBody
    rw [multiBasic_go_text hr s _ [] _ (by simp only [List.length_append]; omega),
      List.nil_append]
  rw [List.append_assoc, List.append_assoc]
  refine Reads.label _ (Reads.bind (reads_chars _) (Reads.bind hlead (Reads.bind hbody.commit ?_)))
  exact Reads.bind_nil (reads_chars _).commit (Reads.pure _)

end MultiBasic

end Toml
end TwoPhaseLocking
