import TwoPhaseLocking.Proofs.Json.RoundTrip
import TwoPhaseLocking.Protocol.Decode

/-!
Frames cross the wire unchanged (`frames_round_trip`). The compact writer escapes every line
feed (`lf_not_mem_compact`), so a frame is one line, and a frame's line decodes back to the
frame (`Request.decode_encode`, `Response.decode_encode`).
-/
namespace TwoPhaseLocking

/-! ### Lines -/

/-- A line of the wire: its bytes end with a line feed (byte 10), and no other byte is one. -/
def IsLine (s : String) : Prop :=
  ∃ body : List UInt8, s.toByteArray.data.toList = body ++ [10] ∧ 10 ∉ body

theorem bytes_eq_flatMap (s : String) :
    s.toByteArray.data.toList = s.toList.flatMap String.utf8EncodeChar := by
  rw [← String.utf8Encode_toList, List.utf8Encode, List.toList_data_toByteArray]

theorem lf_of_mem_utf8EncodeChar {c : Char} (h : (10 : UInt8) ∈ String.utf8EncodeChar c) :
    c = '\n' := by
  unfold String.utf8EncodeChar at h
  dsimp only at h
  -- a character of one byte is its own code; the bytes of longer ones are all at least 128
  split at h
  next =>
    simp only [List.mem_singleton, ← UInt8.toNat_inj, UInt8.toNat_ofNat', UInt8.reduceToNat,
      Nat.reducePow] at h
    exact Char.toNat_inj.1 (by
      rw [show '\n'.toNat = 10 from rfl, show c.toNat = c.val.toNat from rfl]
      omega)
  all_goals
    repeat' split at h
    all_goals
      simp only [List.mem_cons, List.not_mem_nil, or_false, ← UInt8.toNat_inj, UInt8.toNat_ofNat',
        UInt8.reduceToNat, Nat.reducePow] at h
      omega

theorem isLine_append_lf {body : String} (h : '\n' ∉ body.toList) : IsLine (body ++ "\n") := by
  refine ⟨body.toList.flatMap String.utf8EncodeChar, ?_, ?_⟩
  · rw [bytes_eq_flatMap, String.toList_append, List.flatMap_append]
    rfl
  · intro hmem
    obtain ⟨c, hc, h10⟩ := List.mem_flatMap.1 hmem
    exact h (lf_of_mem_utf8EncodeChar h10 ▸ hc)

/-- Dropping the trailing blanks of a text that ends in a character that is no blank, followed
by a line feed, leaves the text. -/
theorem trimEndString_append_lf {s : String} {l : List Char} {ch : Char} (hs : s.toList = l ++ [ch])
    (hch : Text.isBlank ch = false) : Text.trimEndString (s ++ "\n") = s := by
  have hlf : Text.isBlank '\n' = true := by decide
  have htrim : Text.trimEnd (s ++ "\n").toList = s.toList := by
    rw [String.toList_append, hs]
    simp [Text.trimEnd, hlf, hch]
  rw [Text.trimEndString, htrim, String.ofList_toList]

namespace Binary64

/-- A character of the text of a number: a digit, a point, a sign or the exponent's `e`. -/
def NumberChar (ch : Char) : Prop := ch.isDigit ∨ ch = '.' ∨ ch = '-' ∨ ch = '+' ∨ ch = 'e'

theorem numberChar_of_mem_toString {c : Nat} {ch : Char} (h : ch ∈ (toString c).toList) :
    NumberChar ch :=
  .inl (Json.isDigit_of_mem_toDigits (by simpa [toString, Nat.toList_repr] using h))

theorem numberChar_of_mem_toString_int {i : Int} {ch : Char} (h : ch ∈ (toString i).toList) :
    NumberChar ch := by
  cases i with
  | ofNat c => exact numberChar_of_mem_toString (c := c) h
  | negSucc c =>
    have h' : ch = '-' ∨ ch ∈ (toString (c + 1)).toList := by
      simpa [toString, Int.repr, String.toList_append] using h
    rcases h' with rfl | h'
    · exact .inr (.inr (.inl rfl))
    · exact numberChar_of_mem_toString h'

theorem numberChar_of_mem_positional {c : Nat} {k : Int} {ch : Char}
    (h : ch ∈ (positional c k).toList) : NumberChar ch := by
  unfold positional at h
  dsimp only at h
  split at h
  · simp only [String.toList_append, String.toList_ofList, List.mem_append, List.mem_replicate] at h
    rcases h with h | ⟨-, rfl⟩
    · exact numberChar_of_mem_toString h
    · exact .inl (by decide)
  · split at h
    · simp only [String.toList_append, String.toList_ofList, List.mem_append] at h
      rcases h with (h | h) | h
      · exact numberChar_of_mem_toString (List.mem_of_mem_take h)
      · simp at h; exact .inr (.inl h)
      · exact numberChar_of_mem_toString (List.mem_of_mem_drop h)
    · simp only [String.toList_append, String.toList_ofList, List.mem_append, List.mem_replicate] at h
      rcases h with (h | ⟨-, rfl⟩) | h
      · simp at h
        rcases h with rfl | rfl
        · exact .inl (by decide)
        · exact .inr (.inl rfl)
      · exact .inl (by decide)
      · exact numberChar_of_mem_toString h

theorem numberChar_of_mem_mantissa {ds : List Char} (hds : ∀ d ∈ ds, NumberChar d) {ch : Char}
    (h : ch ∈ (match ds with
      | [d] => String.singleton d
      | d :: rest => String.singleton d ++ "." ++ String.ofList rest
      | [] => "0").toList) : NumberChar ch := by
  split at h
  · simp at h; exact hds _ (by simp [h])
  · simp only [String.toList_append, String.toList_singleton, String.toList_ofList,
      List.mem_append, List.mem_singleton] at h
    rcases h with (rfl | h) | h
    · exact hds _ List.mem_cons_self
    · simp at h; exact .inr (.inl h)
    · exact hds _ (List.mem_cons_of_mem _ h)
  · simp at h; exact .inl (by rw [h]; decide)

/-- The JSON text of a float is made of digits, points, signs and the exponent's `e`. -/
theorem numberChar_of_mem_toJsonText {negative : Bool} {m : Nat} {e : Int} {ch : Char}
    (h : ch ∈ (toJsonText negative m e).toList) : NumberChar ch := by
  unfold toJsonText at h
  dsimp only at h
  simp only [String.toList_append, List.mem_append] at h
  rcases h with h | h
  · split at h
    · simp at h; exact .inr (.inr (.inl h))
    · simp at h
  · split at h
    · simp at h
      rcases h with rfl | rfl | rfl
      all_goals first | exact .inl (by decide) | exact .inr (.inl rfl)
    · generalize toJsonText.strip 20 (shortest m e).fst (shortest m e).snd = ck at h
      obtain ⟨c, k⟩ := ck
      dsimp only at h
      split at h
      -- positional, with `.0` added when it has no point
      · split at h
        · exact numberChar_of_mem_positional h
        · simp only [String.toList_append, List.mem_append] at h
          rcases h with h | h
          · exact numberChar_of_mem_positional h
          · simp at h
            rcases h with rfl | rfl
            · exact .inr (.inl rfl)
            · exact .inl (by decide)
      -- scientific: the mantissa, `e`, a `+` for a positive exponent, and the exponent
      · simp only [String.toList_append, List.mem_append] at h
        rcases h with ((h | h) | h) | h
        · exact numberChar_of_mem_mantissa (fun d hd => numberChar_of_mem_toString hd) h
        · simp at h; exact .inr (.inr (.inr (.inr h)))
        · split at h
          · simp at h; exact .inr (.inr (.inr (.inl h)))
          · simp at h
        · exact numberChar_of_mem_toString_int h

end Binary64

namespace Json

open Reader

/-! ### No line feed inside a value -/

theorem hexDigit_ne_lf : ∀ n, n < 16 → hexDigit n ≠ '\n' := by decide

theorem lf_not_mem_escapeChar (c : Char) : '\n' ∉ escapeChar c := by
  unfold escapeChar
  repeat' split
  any_goals decide
  next hu =>
    simp only [List.mem_cons, List.not_mem_nil, or_false]
    have h₁ := hexDigit_ne_lf (c.toNat / 16) (by omega)
    have h₂ := hexDigit_ne_lf (c.toNat % 16) (Nat.mod_lt _ (by decide))
    rintro (h | h | h | h | h | h)
    all_goals first | exact absurd h (by decide) | exact h₁ h.symm | exact h₂ h.symm
  next =>
    simp only [List.mem_singleton]
    exact fun h => ‹¬c = '\n'› h.symm

theorem lf_not_mem_quote (s : String) : '\n' ∉ (quote s).toList := by
  rw [toList_quote]
  simp only [List.mem_cons, List.mem_append, List.mem_flatMap, List.not_mem_nil, or_false]
  rintro (h | ⟨c, -, hc⟩ | h)
  · exact absurd h (by decide)
  · exact lf_not_mem_escapeChar c hc
  · exact absurd h (by decide)

theorem lf_not_mem_toDigits (m : Nat) : '\n' ∉ Nat.toDigits 10 m :=
  fun h => absurd (isDigit_of_mem_toDigits h) (by decide)

theorem lf_not_mem_compactList {xs : List Json} (h : ∀ x ∈ xs, '\n' ∉ (compact x).toList) :
    '\n' ∉ (compactList xs).toList := by
  cases xs with
  | nil => decide
  | cons x xs =>
    rw [toList_compactList_cons]
    simp only [elementsTail, List.mem_append, List.mem_flatMap, List.mem_cons]
    rintro (hx | ⟨y, hy, hc | hy'⟩)
    · exact h x List.mem_cons_self hx
    · exact absurd hc (by decide)
    · exact h y (List.mem_cons_of_mem _ hy) hy'

theorem lf_not_mem_compactFields {fs : List (String × Json)}
    (h : ∀ f ∈ fs, '\n' ∉ (compact f.2).toList) : '\n' ∉ (compactFields fs).toList := by
  have field : ∀ f ∈ fs, '\n' ∉ fieldText f := by
    intro f hf
    simp only [fieldText, List.mem_append, List.mem_cons]
    rintro (hk | hc | hv)
    · exact lf_not_mem_quote f.1 hk
    · exact absurd hc (by decide)
    · exact h f hf hv
  cases fs with
  | nil => decide
  | cons f fs =>
    rw [toList_compactFields_cons]
    simp only [fieldsTail, List.mem_append, List.mem_flatMap, List.mem_cons]
    rintro (hf | ⟨g, hg, hc | hg'⟩)
    · exact field f List.mem_cons_self hf
    · exact absurd hc (by decide)
    · exact field g (List.mem_cons_of_mem _ hg) hg'

theorem lf_not_mem_int (i : Int) : '\n' ∉ (compact (.int i)).toList := by
  cases i with
  | ofNat m => rw [Int.ofNat_eq_natCast, toList_compact_nat]; exact lf_not_mem_toDigits m
  | negSucc m =>
    rw [toList_compact_negSucc]
    rintro (h | h)
    · exact lf_not_mem_toDigits _ ‹_›

theorem lf_not_mem_float (negative : Bool) (m : Nat) (e : Int) :
    '\n' ∉ (compact (.float negative m e)).toList := fun h => by
  have hc := Binary64.numberChar_of_mem_toJsonText h
  simp [Binary64.NumberChar] at hc

/-- The compact writer escapes every line feed: the compact text of a value holds none. -/
theorem lf_not_mem_compact : ∀ j : Json, '\n' ∉ (compact j).toList
  | .null => by decide
  | .bool b => by cases b <;> decide
  | .int i => lf_not_mem_int i
  | .float negative m e => lf_not_mem_float negative m e
  | .str s => lf_not_mem_quote s
  | .arr xs => by
    have ih : ∀ x ∈ xs, '\n' ∉ (compact x).toList := fun x _ => lf_not_mem_compact x
    rw [toList_compact_arr]
    simp only [List.mem_cons, List.mem_append]
    rintro (h | h | h)
    · exact absurd h (by decide)
    · exact lf_not_mem_compactList ih h
    · exact absurd h (by decide)
  | .obj fs => by
    have ih : ∀ f ∈ fs, '\n' ∉ (compact f.2).toList := fun f _ => lf_not_mem_compact f.2
    rw [toList_compact_obj]
    simp only [List.mem_cons, List.mem_append]
    rintro (h | h | h)
    · exact absurd h (by decide)
    · exact lf_not_mem_compactFields ih h
    · exact absurd h (by decide)
termination_by j => sizeOf j
decreasing_by
  all_goals simp_wf
  · have := List.sizeOf_lt_of_mem ‹x ∈ xs›
    omega
  · have := List.sizeOf_lt_of_mem ‹f ∈ fs›
    cases f
    simp only [Prod.mk.sizeOf_spec] at this ⊢
    omega

/-! ### Tagged frames -/

section Tagged

variable {names : List String} {n d : Nat} {rest : List Char}

theorem reads_variantName {name : String} (h : name ∈ names) :
    Reads (variantName names) ((quote name).toList ++ rest) d rest d name := by
  unfold variantName
  rw [toList_quote_append]
  refine Reads.settle (Reads.bind (reads_skipBlanks (unblanked_cons (by decide))) ?_)
  simp only [List.head?_cons]
  refine Reads.bind reads_bump (Reads.bind (reads_stringBody name) ?_)
  simp only [List.contains_iff_mem.2 h, ↓reduceIte]
  exact Reads.pure name

theorem reads_taggedMembers_tail {t : String} (hn : n < d) :
    ∀ (fs : List (String × Json)) (g : Nat) (acc : List (String × Json)),
      (∀ f ∈ fs, Plain n f.2 ∧ f.1 ≠ "type") → (fieldsTail fs).length < g →
      Reads (taggedMembers names g false (some t) acc) (fieldsTail fs ++ '}' :: rest) d
        ('}' :: rest) d (t, acc.reverse ++ fs) := by
  intro fs
  induction fs with
  | nil =>
    intro g acc _ hg
    obtain ⟨g, rfl⟩ : ∃ g', g = g' + 1 := ⟨g - 1, by omega⟩
    rw [taggedMembers]
    refine Reads.bind (reads_nextKey_end false) ?_
    simp only [List.append_nil]
    exact Reads.pure _
  | cons f fs ih =>
    intro g acc hfs hg
    obtain ⟨k, v⟩ := f
    obtain ⟨hv, hk⟩ : Plain n v ∧ k ≠ "type" := hfs (k, v) List.mem_cons_self
    have hlen := length_fieldsTail_cons (k, v) fs
    have hflen := length_fieldText k v
    obtain ⟨g, rfl⟩ : ∃ g', g = g' + 1 := ⟨g - 1, by omega⟩
    rw [taggedMembers, fieldsTail_cons_append]
    refine Reads.bind (reads_nextKey_comma k) ?_
    simp only [hk, ↓reduceIte]
    refine Reads.bind reads_colon ?_
    refine Reads.bind (valueReads g hv (by omega) (boundary_fieldsTail fs) hn) ?_
    have := ih g ((k, v) :: acc) (fun f hf => hfs f (List.mem_cons_of_mem _ hf)) (by omega)
    simpa only [List.reverse_cons, List.append_assoc, List.singleton_append] using this

theorem reads_taggedMembers (hn : n < d) {name : String} (hname : name ∈ names)
    {fs : List (String × Json)} (hfs : ∀ f ∈ fs, Plain n f.2 ∧ f.1 ≠ "type") {g : Nat}
    (hg : (fieldsTail fs).length + 1 < g) :
    Reads (taggedMembers names g true none [])
      ((compactFields (("type", .str name) :: fs)).toList ++ '}' :: rest) d ('}' :: rest) d
      (name, fs) := by
  obtain ⟨g, rfl⟩ : ∃ g', g = g' + 1 := ⟨g - 1, by omega⟩
  rw [taggedMembers, toList_compactFields_cons]
  simp only [fieldText, List.append_assoc, List.cons_append]
  refine Reads.bind (reads_nextKey_first "type") ?_
  simp only [Option.isSome_none, Bool.false_eq_true, ↓reduceIte]
  refine Reads.bind reads_colon (Reads.bind (reads_variantName hname) ?_)
  simpa only [List.reverse_nil, List.nil_append] using
    reads_taggedMembers_tail hn fs g [] hfs (by omega)

theorem reads_tagged (expecting : String) (hn : n + 1 < d) {name : String} (hname : name ∈ names)
    {fs : List (String × Json)} (hfs : ∀ f ∈ fs, Plain n f.2 ∧ f.1 ≠ "type") {g : Nat}
    (hg : (compact (.obj (("type", .str name) :: fs))).length < g) :
    Reads (tagged expecting names g) ((compact (.obj (("type", .str name) :: fs))).toList ++ rest)
      d rest d (name, .obj fs) := by
  obtain ⟨d, rfl⟩ : ∃ d', d = d' + 1 := ⟨d - 1, by omega⟩
  have hlen : (compactFields (("type", .str name) :: fs)).length =
      (fieldText ("type", .str name)).length + (fieldsTail fs).length := by
    rw [← String.length_toList, toList_compactFields_cons, List.length_append]
  have hl := length_compact_obj (("type", .str name) :: fs)
  have hflen := length_fieldText "type" (.str name)
  rw [tagged, toList_compact_obj, List.cons_append, List.append_assoc, List.singleton_append]
  refine Reads.settle (Reads.bind (reads_skipBlanks (unblanked_cons (by decide))) ?_)
  simp only [List.head?_cons]
  refine Reads.bind (reads_enter (by omega)) (Reads.bind reads_bump ?_)
  refine Reads.bind (Reads.andThenAnyway
    (reads_taggedMembers (by omega) hname hfs (by omega)) reads_endObject) ?_
  exact Reads.bind reads_leave (Reads.pure _)

/-- A frame whose tag names a frame kind and whose fields build a value is read as that value. -/
theorem frame_compact {α : Type} (expecting : String) {build : String → Json → Except String α}
    {name : String} {fs : List (String × Json)} {x : α} (hn : n < 127) (hname : name ∈ names)
    (hfs : ∀ f ∈ fs, Plain n f.2 ∧ f.1 ≠ "type") (hb : build name (.obj fs) = .ok x) :
    frame expecting names build (compact (.obj (("type", .str name) :: fs))) = .ok x := by
  have ht : Reads (tagged expecting names (2 * (compact (.obj (("type", .str name) :: fs))).length + 4))
      ((compact (.obj (("type", .str name) :: fs))).toList ++ []) 128 [] 128 (name, .obj fs) :=
    reads_tagged expecting (by omega) hname hfs (by omega)
  rw [List.append_nil] at ht
  unfold frame
  dsimp only
  rw [Reads.run (Reads.bind ht ?_)]
  simp only [hb]
  exact Reads.bind (Reads.ofExcept x) (Reads.bind reads_finish (Reads.pure x))

end Tagged

theorem key_ne {k : String} {v : Json} (h : k ≠ "type") : (k, v).1 ≠ "type" := h

theorem plain_nat {n m : Nat} (h : m < 4294967296) : Plain n (.nat m) :=
  .nat (by unfold significandMax; rw [show Nat.pow 2 64 = 18446744073709551616 from rfl]; omega)

theorem trimEndString_compact_obj (fs : List (String × Json)) :
    Text.trimEndString (compact (.obj fs) ++ "\n") = compact (.obj fs) := by
  have hs : (compact (.obj fs)).toList = ('{' :: (compactFields fs).toList) ++ ['}'] := by
    rw [toList_compact_obj, List.cons_append]
  exact trimEndString_append_lf hs (by decide)

/-- The line of a frame, its trailing blanks dropped, is read as the value its tag and fields
build; the error text is never looked at. -/
theorem frame_line {α : Type} (expecting : String) {names : List String}
    {build : String → Json → Except String α} {g : String → String} {n : Nat} {name : String}
    {fs : List (String × Json)} {x : α} (hn : n < 127) (hname : name ∈ names)
    (hfs : ∀ f ∈ fs, Plain n f.2 ∧ f.1 ≠ "type") (hb : build name (.obj fs) = .ok x) :
    (frame expecting names build
      (Text.trimEndString (compact (.obj (("type", .str name) :: fs)) ++ "\n"))).mapError g =
      .ok x := by
  rw [trimEndString_compact_obj, frame_compact expecting hn hname hfs hb]
  rfl

end Json

/-! ### Requests and responses -/

namespace Operation

theorem plain_toJson (o : Operation) (h : o.tx < 4294967296) : Json.Plain 3 o.toJson := by
  refine .obj ?_
  simp only [List.mem_cons, List.not_mem_nil, or_false]
  rintro f (rfl | rfl | rfl)
  · exact Json.plain_nat h
  · exact .str _
  · cases o.kind with
    | read => exact .str _
    | write => exact .str _
    | compute e =>
      -- `{"compute": {"operand1": .., "operator": .., "operand2": ..}}`
      refine .obj ?_
      simp only [List.mem_cons, List.not_mem_nil, or_false]
      rintro f rfl
      refine .obj ?_
      simp only [List.mem_cons, List.not_mem_nil, or_false]
      rintro f (rfl | rfl | rfl) <;> exact .str _

theorem kept_operator (o : Operator) : Json.Kept.operator o.toJson = .ok o.toJson := by
  cases o <;> simp [Json.Kept.operator, Json.Kept.variant, Json.Kept.unitVariant, Operator.toJson,
    Operator.wireName, bind, Except.bind]

theorem kept_kind (k : OpKind) : Json.Kept.kind (kindJson k) = .ok (kindJson k) := by
  cases k with
  | read => simp [Json.Kept.kind, Json.Kept.variant, Json.Kept.unitVariant, kindJson, bind,
      Except.bind]
  | write => simp [Json.Kept.kind, Json.Kept.variant, Json.Kept.unitVariant, kindJson, bind,
      Except.bind]
  | compute e =>
    simp [Json.Kept.kind, Json.Kept.variant, Json.Kept.expression, Json.Kept.fields,
      Json.Kept.string, kept_operator, kindJson, List.lookup_cons, List.lookup_nil, bind,
      Except.bind, pure, Except.pure]

theorem kept_toJson (o : Operation) (h : o.tx < 4294967296) :
    Json.Kept.operation o.toJson = .ok o.toJson := by
  have h' : (o.tx : Int) ≤ 4294967295 := Int.ofNat_le.2 (Nat.le_of_lt_succ h)
  simp [Json.Kept.operation, Json.Kept.fields, Json.Kept.u32, Json.Kept.string, kept_kind, toJson,
    Json.nat, h', List.lookup_cons, List.lookup_nil, bind, Except.bind, pure, Except.pure]

theorem toOperation?_toJson (o : Operation) : Json.toOperation? o.toJson = some o := by
  obtain ⟨tx, item, kind⟩ := o
  cases kind with
  | read => simp [Json.toOperation?, toJson, kindJson, Json.field?, Json.int?, Json.str?, Json.nat]
  | write => simp [Json.toOperation?, toJson, kindJson, Json.field?, Json.int?, Json.str?, Json.nat]
  | compute e =>
    obtain ⟨l, op, r⟩ := e
    cases op <;> simp [Json.toOperation?, toJson, kindJson, Json.field?, Json.int?, Json.str?,
      Json.nat, Operator.toJson, Operator.wireName]

end Operation

namespace Request

def ids : Request → List Nat
  | bindSite s _ => [s]
  | requestLock o => [o.tx]
  | releaseLock t => [t]
  | _ => []

/-- A request's JSON form is its name as the tag, then plain fields none of which is named
`type`, from which the reader builds the request back. -/
theorem toJson_tagged (r : Request) (h : ∀ i ∈ r.ids, i < 4294967296) :
    ∃ fs, r.toJson = .obj (("type", .str r.name) :: fs) ∧
      (∀ f ∈ fs, Json.Plain 3 f.2 ∧ f.1 ≠ "type") ∧ Json.requestOf r.name (.obj fs) = .ok r := by
  cases r
  -- the frames without fields
  case registerSite | abort | unblock | write =>
    exact ⟨[], rfl, by simp, by simp [name, Json.requestOf, Json.unitFields, bind, Except.bind]⟩
  case bindSite s a =>
    have hs : s < 4294967296 := h s (List.mem_singleton_self s)
    have hs' : (s : Int) ≤ 4294967295 := Int.ofNat_le.2 (Nat.le_of_lt_succ hs)
    refine ⟨[("site_id", .nat s), ("address", .str a)], rfl, ?_, ?_⟩
    · simp only [List.mem_cons, List.not_mem_nil, or_false]
      rintro f (rfl | rfl)
      · exact ⟨Json.plain_nat hs, Json.key_ne (by decide)⟩
      · exact ⟨.str a, Json.key_ne (by decide)⟩
    · simp [name, Json.requestOf, Json.variantFields, Json.Kept.fields, Json.Kept.u32,
        Json.Kept.string, List.lookup_cons, List.lookup_nil, bind, Except.bind, pure, Except.pure, hs', Json.int?,
        Json.str?, Json.nat]
  case releaseLock t =>
    have ht : t < 4294967296 := h t (List.mem_singleton_self t)
    have ht' : (t : Int) ≤ 4294967295 := Int.ofNat_le.2 (Nat.le_of_lt_succ ht)
    refine ⟨[("transaction_id", .nat t)], rfl, ?_, ?_⟩
    · simp only [List.mem_cons, List.not_mem_nil, or_false]
      rintro f rfl
      exact ⟨Json.plain_nat ht, Json.key_ne (by decide)⟩
    · simp [name, Json.requestOf, Json.variantFields, Json.Kept.fields, Json.Kept.u32,
        List.lookup_cons, List.lookup_nil, bind, Except.bind, pure, Except.pure, ht', Json.int?, Json.nat]
  case requestLock o =>
    have ho : o.tx < 4294967296 := h o.tx (List.mem_singleton_self _)
    refine ⟨[("operation", o.toJson)], rfl, ?_, ?_⟩
    · simp only [List.mem_cons, List.not_mem_nil, or_false]
      rintro f rfl
      exact ⟨o.plain_toJson ho, Json.key_ne (by decide)⟩
    · simp [name, Json.requestOf, Json.variantFields, Json.Kept.fields, o.kept_toJson ho,
        o.toOperation?_toJson, List.lookup_cons, List.lookup_nil, bind, Except.bind, pure,
        Except.pure]

theorem name_mem_names (r : Request) : r.name ∈ names := by
  cases r <;> simp [name, names]

theorem decode_encode (r : Request) (h : ∀ i ∈ r.ids, i < 4294967296) :
    decode r.encode = .ok r := by
  obtain ⟨fs, hj, hfs, hb⟩ := r.toJson_tagged h
  unfold decode encode
  rw [hj]
  exact Json.frame_line _ (by decide : 3 < 127) r.name_mem_names hfs hb

theorem isLine_encode (r : Request) : IsLine r.encode :=
  isLine_append_lf (Json.lf_not_mem_compact _)

end Request

namespace Response

def ids : Response → List Nat
  | siteId s => [s]
  | _ => []

/-- A response's JSON form is its name as the tag, then plain fields none of which is named
`type`, from which the reader builds the response back. -/
theorem toJson_tagged (r : Response) (h : ∀ i ∈ r.ids, i < 4294967296) :
    ∃ fs, r.toJson = .obj (("type", .str r.name) :: fs) ∧
      (∀ f ∈ fs, Json.Plain 3 f.2 ∧ f.1 ≠ "type") ∧ Json.responseOf r.name (.obj fs) = .ok r := by
  cases r with
  | ack => exact ⟨[], rfl, by simp, by simp [name, Json.responseOf, Json.unitFields, bind, Except.bind]⟩
  | siteId s =>
    have hs : s < 4294967296 := h s (List.mem_singleton_self s)
    have hs' : (s : Int) ≤ 4294967295 := Int.ofNat_le.2 (Nat.le_of_lt_succ hs)
    refine ⟨[("site_id", .nat s)], rfl, ?_, ?_⟩
    · simp only [List.mem_cons, List.not_mem_nil, or_false]
      rintro f rfl
      exact ⟨Json.plain_nat hs, Json.key_ne (by decide)⟩
    · simp [name, Json.responseOf, Json.variantFields, Json.Kept.fields, Json.Kept.u32,
        List.lookup_cons, List.lookup_nil, bind, Except.bind, pure, Except.pure, hs', Json.int?, Json.nat]
  | granted b =>
    refine ⟨[("granted", .bool b)], rfl, ?_, ?_⟩
    · simp only [List.mem_cons, List.not_mem_nil, or_false]
      rintro f rfl
      exact ⟨.bool b, Json.key_ne (by decide)⟩
    · simp [name, Json.responseOf, Json.variantFields, Json.Kept.fields, Json.Kept.boolean,
        List.lookup_cons, List.lookup_nil, bind, Except.bind, pure, Except.pure, Json.bool?]
  | error c m =>
    refine ⟨[("code", .str c), ("message", .str m)], rfl, ?_, ?_⟩
    · simp only [List.mem_cons, List.not_mem_nil, or_false]
      rintro f (rfl | rfl)
      · exact ⟨.str c, Json.key_ne (by decide)⟩
      · exact ⟨.str m, Json.key_ne (by decide)⟩
    · simp [name, Json.responseOf, Json.variantFields, Json.Kept.fields, Json.Kept.string,
        List.lookup_cons, List.lookup_nil, bind, Except.bind, pure, Except.pure, Json.str?]

theorem name_mem_names (r : Response) : r.name ∈ names := by
  cases r <;> simp [name, names]

theorem decode_encode (r : Response) (h : ∀ i ∈ r.ids, i < 4294967296) :
    decode r.encode = .ok r := by
  obtain ⟨fs, hj, hfs, hb⟩ := r.toJson_tagged h
  unfold decode encode
  rw [hj]
  exact Json.frame_line _ (by decide : 3 < 127) r.name_mem_names hfs hb

theorem isLine_encode (r : Response) : IsLine r.encode :=
  isLine_append_lf (Json.lf_not_mem_compact _)

end Response

/-- Frames cross the wire unchanged. A request or a response whose ids fit in 32 bits is
written as one line, ending in its only line feed, and reading that line gives it back; an
error response read back becomes the remote error with its code and message. -/
theorem frames_round_trip :
    (∀ r : Request, (∀ i ∈ r.ids, i < 4294967296) →
      IsLine r.encode ∧ Request.decode r.encode = .ok r) ∧
    (∀ s : Response, (∀ i ∈ s.ids, i < 4294967296) →
      IsLine s.encode ∧ Response.decode s.encode = .ok s) ∧
    ∀ code message : String,
      (Response.decode (Response.error code message).encode).map Response.toResult =
        .ok (.error (.remote code message)) := by
  refine ⟨fun r h => ⟨r.isLine_encode, r.decode_encode h⟩,
    fun s h => ⟨s.isLine_encode, s.decode_encode h⟩, fun code message => ?_⟩
  rw [Response.decode_encode _ (fun _ h => absurd h List.not_mem_nil)]
  rfl

/-- A site bound at the largest 32-bit id, with an address that holds a quote, a line feed and
a character beyond ASCII, crosses the wire as one line. -/
theorem bindSite_frame_round_trip :
    (∀ i ∈ (Request.bindSite 4294967295 "a \"b\"\n→c").ids, i < 4294967296) ∧
      IsLine (Request.bindSite 4294967295 "a \"b\"\n→c").encode ∧
      Request.decode (Request.bindSite 4294967295 "a \"b\"\n→c").encode =
        .ok (.bindSite 4294967295 "a \"b\"\n→c") :=
  ⟨by decide, frames_round_trip.1 _ (by decide)⟩

end TwoPhaseLocking
