import TwoPhaseLocking.Proofs.Toml.Strings

/-!
The form the writer chooses for a string, and the string read back from it: each form is chosen
only for a text it can hold, and each form the reader tries before it fails on the first
characters, so every written string reads back as itself (`reads_value_quote`).
-/
namespace TwoPhaseLocking
namespace Toml
open Parse

/-- One character further in `StringShape.of`: the shape so far, and the current runs of single
and double quotes. -/
def shapeStep (acc : StringShape × Nat × Nat) (c : Char) : StringShape × Nat × Nat :=
  let (sh, sq, dq) := acc
  let sq := if c = '\'' then sq + 1 else 0
  let dq := if c = '"' then dq + 1 else 0
  ({ singleRun := max sh.singleRun sq, doubleRun := max sh.doubleRun dq,
     control := sh.control || (c ≠ '\t' && c ≠ '\n' && (c.toNat ≤ 0x1F || c.toNat = 0x7F)),
     backslash := sh.backslash || c = '\\', newline := sh.newline || c = '\n' }, sq, dq)

theorem shape_of_eq (s : String) :
    StringShape.of s = (s.toList.foldl shapeStep ({}, 0, 0)).1 := rfl

/-- A control character: only an escape can write it. -/
def IsControl (c : Char) : Prop := c ≠ '\t' ∧ c ≠ '\n' ∧ (c.toNat ≤ 0x1F ∨ c.toNat = 0x7F)

instance : DecidablePred IsControl := fun c => by
  unfold IsControl
  infer_instance

/-! ### The shape of a string -/

theorem foldl_shapeStep_control (l : List Char) (st : StringShape × Nat × Nat) :
    (l.foldl shapeStep st).1.control = true ↔ st.1.control = true ∨ ∃ c ∈ l, IsControl c := by
  induction l generalizing st with
  | nil => simp
  | cons c l ih =>
    rw [List.foldl_cons, ih]
    simp [shapeStep, IsControl, or_assoc, and_assoc]

theorem foldl_shapeStep_newline (l : List Char) (st : StringShape × Nat × Nat) :
    (l.foldl shapeStep st).1.newline = true ↔ st.1.newline = true ∨ '\n' ∈ l := by
  induction l generalizing st with
  | nil => simp
  | cons c l ih =>
    rw [List.foldl_cons, ih]
    simp [shapeStep, or_assoc, @eq_comm _ c]

theorem le_foldl_shapeStep_singleRun (l : List Char) (st : StringShape × Nat × Nat) :
    st.1.singleRun ≤ (l.foldl shapeStep st).1.singleRun := by
  induction l generalizing st with
  | nil => exact Nat.le_refl _
  | cons c l ih =>
    have hstep : st.1.singleRun ≤ (shapeStep st c).1.singleRun := by
      simp only [shapeStep]
      omega
    exact Nat.le_trans hstep (ih (shapeStep st c))

theorem not_mem_of_singleRun_eq_zero {s : String} (h : (StringShape.of s).singleRun = 0) :
    '\'' ∉ s.toList := by
  intro hq
  obtain ⟨a, b, hab⟩ := List.append_of_mem hq
  rw [shape_of_eq, hab, List.foldl_append, List.foldl_cons] at h
  have h1 : 1 ≤ (shapeStep (a.foldl shapeStep ({}, 0, 0)) '\'').1.singleRun := by
    simp only [shapeStep, if_true]
    omega
  have := le_foldl_shapeStep_singleRun b (shapeStep (a.foldl shapeStep ({}, 0, 0)) '\'')
  omega

theorem not_infix_of_singleRun_le_two {s : String} (h : (StringShape.of s).singleRun ≤ 2) :
    ¬ ['\'', '\'', '\''] <:+: s.toList := by
  rintro ⟨a, b, hab⟩
  rw [shape_of_eq, ← hab, List.foldl_append, List.foldl_append] at h
  have h3 : 3 ≤ (['\'', '\'', '\''].foldl shapeStep (a.foldl shapeStep ({}, 0, 0))).1.singleRun := by
    simp only [shapeStep, List.foldl_cons, List.foldl_nil, if_true]
    omega
  have := le_foldl_shapeStep_singleRun b
    (['\'', '\'', '\''].foldl shapeStep (a.foldl shapeStep ({}, 0, 0)))
  omega

/-- A character that is no control character, no single quote and no line feed is one a literal
string holds. -/
theorem isLiteralChar_of_not_control {c : Char} (hc : ¬ IsControl c) (hq : c ≠ '\'')
    (hn : c ≠ '\n') : isLiteralChar c = true := by
  by_cases ht : c = '\t'
  · subst ht
    decide
  · have hr : ¬ (c.toNat ≤ 0x1F ∨ c.toNat = 0x7F) := fun h => hc ⟨ht, hn, h⟩
    have hq' := mt Char.toNat_inj.mp hq
    simp only [Char.reduceToNat] at hq'
    simp only [isLiteralChar, Bool.or_eq_true, Bool.and_eq_true, decide_eq_true_eq]
    omega

theorem choose_eq_literal {sh : StringShape} (h : StringForm.choose sh = .literal) :
    sh.control = false ∧ sh.singleRun = 0 ∧ sh.newline = false := by
  unfold StringForm.choose at h
  split_ifs at h
  simp_all

theorem choose_eq_multiLiteral {sh : StringShape} (h : StringForm.choose sh = .multiLiteral) :
    sh.control = false ∧ sh.singleRun ≤ 2 := by
  unfold StringForm.choose at h
  split_ifs at h
  simp_all

/-! ### The written text -/

section Text

variable {s : String}

/-- The line feed a multi-line form opens with when the text has one. -/
def leadText (s : String) : List Char := if (StringShape.of s).newline then ['\n'] else []

theorem quote_toList_basic (h : StringForm.choose (StringShape.of s) = .basic) :
    (quote s).toList = ['"'] ++ s.toList.flatMap basicPiece ++ ['"'] := by
  simp only [quote, h, String.toList_append, String.toList_join, List.flatMap_map]
  rfl

theorem quote_toList_literal (h : StringForm.choose (StringShape.of s) = .literal) :
    (quote s).toList = ['\''] ++ s.toList ++ ['\''] := by
  simp only [quote, h, String.toList_append]
  rfl

theorem quote_toList_multiBasic (h : StringForm.choose (StringShape.of s) = .multiBasic) :
    (quote s).toList =
      ['"', '"', '"'] ++ leadText s ++ multiBasicText s.toList ++ ['"', '"', '"'] := by
  simp only [quote, h, String.toList_append, String.toList_join, leadText, multiBasicText]
  split <;> rfl

theorem quote_toList_multiLiteral (h : StringForm.choose (StringShape.of s) = .multiLiteral) :
    (quote s).toList = ['\'', '\'', '\''] ++ leadText s ++ s.toList ++ ['\'', '\'', '\''] := by
  simp only [quote, h, String.toList_append, leadText]
  split <;> rfl

theorem basicPiece_head (c : Char) : ∃ x u, basicPiece c = x :: u ∧ x ≠ '"' := by
  cases he : basicEscape false c with
  | none =>
    refine ⟨c, [], by simp [basicPiece, he], ?_⟩
    rintro rfl
    simp [basicEscape] at he
  | some e =>
    obtain ⟨x, more, htext, -⟩ := basicEscape_text he
    exact ⟨'\\', x :: more, by simp [basicPiece, he, htext], by decide⟩

/-- The text of a character other than a line feed in a multi-line basic string does not
start a line end. -/
theorem multiBasicText_head_ne {c : Char} (s : List Char) (hc : c ≠ '\n') :
    ∃ x u, multiBasicText (c :: s) = x :: u ∧ x ≠ '\n' ∧ x ≠ '\r' := by
  rw [multiBasicText_cons]
  split_ifs with hq h2
  · exact ⟨'\\', _, rfl, by decide, by decide⟩
  · exact ⟨'"', _, rfl, by decide, by decide⟩
  · cases he : basicEscape true c with
    | none =>
      have hr : c ≠ '\r' := by
        rintro rfl
        simp [basicEscape] at he
      exact ⟨c, multiBasicText s, by simp, hc, hr⟩
    | some e =>
      obtain ⟨x, more, htext, -⟩ := basicEscape_text he
      exact ⟨'\\', x :: more ++ multiBasicText s, by simp [htext], by decide, by decide⟩

end Text

variable {pos : Nat}

/-- The line feed that may open a multi-line form is read when there is one, and otherwise
the text does not start a line end. -/
theorem reads_leadText {s : String} {t : List Char}
    (h : (StringShape.of s).newline = false → ∃ x u, t = x :: u ∧ x ≠ '\n' ∧ x ≠ '\r') :
    Reads (opt newline) pos (leadText s) t
      (if (StringShape.of s).newline then some () else none) := by
  unfold leadText
  split
  · exact Reads.opt_some reads_newline
  · rename_i hn
    obtain ⟨x, u, rfl, hx⟩ := h (by simpa using hn)
    exact Reads.opt_none (fails_newline hx)

theorem not_control_of_shape {s : String} (h : (StringShape.of s).control = false) :
    ∀ c ∈ s.toList, ¬ IsControl c := by
  intro c hc hctl
  have hcontrol := (foldl_shapeStep_control s.toList ({}, 0, 0)).mpr (Or.inr ⟨c, hc, hctl⟩)
  rw [← shape_of_eq, h] at hcontrol
  exact Bool.false_ne_true hcontrol

theorem newline_not_mem_of_shape {s : String} (h : (StringShape.of s).newline = false) :
    '\n' ∉ s.toList := by
  intro hc
  have hnewline := (foldl_shapeStep_newline s.toList ({}, 0, 0)).mpr (Or.inr hc)
  rw [← shape_of_eq, h] at hnewline
  exact Bool.false_ne_true hnewline

theorem fails_mlBasicString {t : List Char} (h : ¬ ['"', '"', '"'] <+: t) :
    Fails mlBasicString pos t :=
  Fails.label _ (Fails.bind (fails_chars h) _)

theorem fails_basicString {x : Char} {t : List Char} (h : x ≠ '"') :
    Fails basicString pos (x :: t) :=
  Fails.bind (fails_char_cons h) _

theorem fails_mlLiteralString {t : List Char} (h : ¬ ['\'', '\'', '\''] <+: t) :
    Fails mlLiteralString pos t :=
  Fails.label _ (Fails.bind (fails_chars h) _)

/-! ### Reading a string back -/

/-- The TOML text of every string, before a line end, reads back as that string, in whichever
of the four forms it was written: the forms before it fail on its first characters, and its
own reader reads it whole. -/
theorem reads_string_quote (s : String) (r : List Char) :
    Reads string pos (quote s).toList ('\n' :: r) s := by
  cases hform : StringForm.choose (StringShape.of s) with
  | basic =>
    rw [quote_toList_basic hform]
    -- the opening quote is not followed by another
    have hfail : Fails mlBasicString pos
        (['"'] ++ s.toList.flatMap basicPiece ++ ['"'] ++ '\n' :: r) := by
      apply fails_mlBasicString
      cases s.toList with
      | nil => simp
      | cons c l =>
        obtain ⟨x, u, hxu, hx⟩ := basicPiece_head c
        simp [hxu, Ne.symm hx]
    have h : Reads string pos _ ('\n' :: r) (String.ofList s.toList) :=
      Reads.orElse_right hfail (Reads.orElse_left (reads_basicString s.toList ('\n' :: r)))
    rwa [String.ofList_toList] at h
  | literal =>
    obtain ⟨hc, h0, hn⟩ := choose_eq_literal hform
    rw [quote_toList_literal hform]
    have hlit : ∀ c ∈ s.toList, isLiteralChar c = true := fun c hmem =>
      isLiteralChar_of_not_control (not_control_of_shape hc c hmem)
        (fun h => not_mem_of_singleRun_eq_zero h0 (h ▸ hmem))
        (fun h => newline_not_mem_of_shape hn (h ▸ hmem))
    -- the opening quote is single, and not followed by two more
    have h3 : Fails mlLiteralString pos (['\''] ++ s.toList ++ ['\''] ++ '\n' :: r) := by
      apply fails_mlLiteralString
      cases hs : s.toList with
      | nil => simp
      | cons c l =>
        have hq : c ≠ '\'' := fun h => not_mem_of_singleRun_eq_zero h0 (by simp [hs, h])
        simp [Ne.symm hq]
    have h : Reads string pos _ ('\n' :: r) (String.ofList s.toList) :=
      Reads.orElse_right (fails_mlBasicString (by simp)) (Reads.orElse_right
        (fails_basicString (by decide)) (Reads.orElse_right h3 (reads_literalString hlit _)))
    rwa [String.ofList_toList] at h
  | multiBasic =>
    rw [quote_toList_multiBasic hform]
    have hlead : (StringShape.of s).newline = false → ∃ x u,
        multiBasicText s.toList ++ ['"', '"', '"'] ++ '\n' :: r = x :: u ∧ x ≠ '\n' ∧ x ≠ '\r' := by
      intro hn
      cases hs : s.toList with
      | nil => exact ⟨'"', _, rfl, by decide, by decide⟩
      | cons c l =>
        have hc : c ≠ '\n' := fun h => newline_not_mem_of_shape hn (by simp [hs, h])
        obtain ⟨x, u, hxu, hx⟩ := multiBasicText_head_ne l hc
        exact ⟨x, u ++ ['"', '"', '"'] ++ '\n' :: r, by simp [hxu], hx⟩
    have h : Reads string pos _ ('\n' :: r) (String.ofList s.toList) :=
      Reads.orElse_left (reads_mlBasicString (by simp) (reads_leadText hlead))
    rwa [String.ofList_toList] at h
  | multiLiteral =>
    obtain ⟨hc, h2⟩ := choose_eq_multiLiteral hform
    rw [quote_toList_multiLiteral hform]
    have hchars : ∀ c ∈ s.toList, isLiteralChar c = true ∨ c = '\'' ∨ c = '\n' := by
      intro c hmem
      by_cases hq : c = '\''
      · exact Or.inr (Or.inl hq)
      · by_cases hn : c = '\n'
        · exact Or.inr (Or.inr hn)
        · exact Or.inl (isLiteralChar_of_not_control (not_control_of_shape hc c hmem) hq hn)
    have hlead : (StringShape.of s).newline = false → ∃ x u,
        s.toList ++ ['\'', '\'', '\''] ++ '\n' :: r = x :: u ∧ x ≠ '\n' ∧ x ≠ '\r' := by
      intro hn
      cases hs : s.toList with
      | nil => exact ⟨'\'', _, rfl, by decide, by decide⟩
      | cons c l =>
        have hmem : c ∈ s.toList := by simp [hs]
        have hr : c ≠ '\r' := fun h => not_control_of_shape hc c hmem (h ▸ by decide)
        exact ⟨c, l ++ ['\'', '\'', '\''] ++ '\n' :: r, by simp,
          fun h => newline_not_mem_of_shape hn (h ▸ hmem), hr⟩
    have h : Reads string pos _ ('\n' :: r) (String.ofList s.toList) :=
      Reads.orElse_right (fails_mlBasicString (by simp)) (Reads.orElse_right
        (fails_basicString (by decide)) (Reads.orElse_left
          (reads_mlLiteralString hchars (not_infix_of_singleRun_le_two h2) (by simp)
            (reads_leadText hlead))))
    rwa [String.ofList_toList] at h

theorem quote_head (s : String) :
    ∃ q u, (quote s).toList = q :: u ∧ (q = '"' ∨ q = '\'') := by
  cases hform : StringForm.choose (StringShape.of s) with
  | basic => exact ⟨_, _, by rw [quote_toList_basic hform]; rfl, Or.inl rfl⟩
  | literal => exact ⟨_, _, by rw [quote_toList_literal hform]; rfl, Or.inr rfl⟩
  | multiBasic => exact ⟨_, _, by rw [quote_toList_multiBasic hform]; rfl, Or.inl rfl⟩
  | multiLiteral => exact ⟨_, _, by rw [quote_toList_multiLiteral hform]; rfl, Or.inr rfl⟩

theorem value_succ_quote {q : Char} (hq : q = '"' ∨ q = '\'') (depth : Nat) (c : List Char) :
    value (depth + 1) ⟨q :: c, pos⟩ =
      spanned (do pure (.string (← string))) ⟨q :: c, pos⟩ := by
  rcases hq with rfl | rfl <;>
  · rw [value, bind_apply]
    rfl

/-- The TOML text of every string, as a value before a line end, is that string. -/
theorem reads_value_quote (depth : Nat) (s : String) (r : List Char) :
    Reads (value (depth + 1)) pos (quote s).toList ('\n' :: r)
      (.scalar (.string s) pos (pos + byteLen (quote s).toList)) := by
  have hread : Reads (spanned (do pure (.string (← string)))) pos (quote s).toList ('\n' :: r)
      (.scalar (.string s) pos (pos + byteLen (quote s).toList)) :=
    Reads.spanned (Reads.bind_nil (reads_string_quote s r) (Reads.pure _))
  obtain ⟨q, u, hqu, hq⟩ := quote_head s
  unfold Reads at hread ⊢
  rw [← hread, hqu, List.cons_append, value_succ_quote hq]

end Toml
end TwoPhaseLocking
