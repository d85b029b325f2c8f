import TwoPhaseLocking.Proofs.Protocol.Frames
import TwoPhaseLocking.Text.Lines

/-!
Frames as a stream of lines: a stream of frames, each followed by its line feed, splits back
into one line for each frame, in order (`Response.linesOf_join_encode`).
-/
namespace TwoPhaseLocking

namespace Text

theorem splitLf_append_lf {a : List Char} (ha : '\n' ∉ a) (rest : List Char) :
    splitLf (a ++ '\n' :: rest) = a :: splitLf rest := by
  induction a with
  | nil => rw [List.nil_append, splitLf, if_pos rfl]
  | cons c a ih =>
    have hc : c ≠ '\n' := fun h => ha (h ▸ List.mem_cons_self)
    rw [List.cons_append, splitLf, if_neg hc, ih fun h => ha (List.mem_cons_of_mem c h)]

theorem lines_append_lf {a : List Char} (ha : '\n' ∉ a) (rest : List Char) :
    lines (a ++ '\n' :: rest) = dropCr a :: lines rest := by
  -- the pieces of `rest` are never empty, so the piece `a` is not the last one
  obtain ⟨p, ps, hp⟩ := List.exists_cons_of_ne_nil (splitLf_ne_nil rest)
  simp only [lines, splitLf_append_lf ha, hp, List.dropLast_cons_of_ne_nil (List.cons_ne_nil p ps),
    List.getLast?_cons_cons, List.map_cons, List.cons_append]

theorem dropCr_append {l : List Char} {ch : Char} (hch : ch ≠ '\r') :
    dropCr (l ++ [ch]) = l ++ [ch] := by
  simp [dropCr, hch]

theorem trim_braces (l : List Char) : trim ('{' :: (l ++ ['}'])) = '{' :: (l ++ ['}']) := by
  have ho : isBlank '{' = false := by decide
  have hc : isBlank '}' = false := by decide
  simp [trim, trimStart, trimEnd, ho, hc]

end Text

/-- The text of a frame: a JSON object, so it opens with a brace and closes with one, on one
line. -/
structure FrameText (s : String) : Prop where
  braces : ∃ l, s.toList = '{' :: (l ++ ['}'])
  noLf : '\n' ∉ s.toList

namespace FrameText

variable {s : String}

theorem compact_obj (fs : List (String × Json)) : FrameText (Json.compact (.obj fs)) :=
  ⟨⟨_, Json.toList_compact_obj fs⟩, Json.lf_not_mem_compact _⟩

theorem linesOf_append (h : FrameText s) (rest : String) :
    Text.linesOf (s ++ "\n" ++ rest) = s :: Text.linesOf rest := by
  obtain ⟨l, hl⟩ := h.braces
  -- the closing brace is no carriage return, so the line keeps all of the frame
  have hcr : Text.dropCr s.toList = s.toList := by
    rw [hl, ← List.cons_append]
    exact Text.dropCr_append (by decide)
  rw [Text.linesOf, String.toList_append, String.toList_append, List.append_assoc,
    show "\n".toList ++ rest.toList = '\n' :: rest.toList from rfl, Text.lines_append_lf h.noLf,
    hcr, List.map_cons, String.ofList_toList, Text.linesOf]

theorem trimString_eq (h : FrameText s) : Text.trimString s = s := by
  obtain ⟨l, hl⟩ := h.braces
  rw [Text.trimString, hl, Text.trim_braces, ← hl, String.ofList_toList]

theorem nonblank (h : FrameText s) : (Text.trimString s).isEmpty = false := by
  obtain ⟨l, hl⟩ := h.braces
  rw [h.trimString_eq, String.isEmpty_eq_false_iff, ne_eq, ← String.toList_eq_nil_iff, hl]
  exact List.cons_ne_nil _ _

theorem trimEndString_eq (h : FrameText s) : Text.trimEndString s = s := by
  obtain ⟨l, hl⟩ := h.braces
  have hc : Text.isBlank '}' = false := by decide
  have htrim : Text.trimEnd s.toList = s.toList := by
    rw [hl, ← List.cons_append]
    simp [Text.trimEnd, hc]
  rw [Text.trimEndString, htrim, String.ofList_toList]

/-- A frame's line and its text are read alike: the line feed is a trailing blank. -/
theorem trimEndString_append_lf (h : FrameText s) :
    Text.trimEndString (s ++ "\n") = Text.trimEndString s := by
  obtain ⟨l, hl⟩ := h.braces
  rw [TwoPhaseLocking.trimEndString_append_lf (l := '{' :: l) (by rw [hl, List.cons_append])
    (by decide), h.trimEndString_eq]

end FrameText

namespace Request

theorem frameText (r : Request) : FrameText r.toJson.compact := by
  cases r <;> exact FrameText.compact_obj _

theorem decode_compact (r : Request) (h : ∀ i ∈ r.ids, i < 4294967296) :
    decode r.toJson.compact = .ok r := by
  have hd := r.decode_encode h
  rw [encode, decode, r.frameText.trimEndString_append_lf] at hd
  exact hd

end Request

namespace Response

/-- Every response is written as the text of a frame, whatever its ids. -/
theorem frameText (r : Response) : FrameText r.toJson.compact := by
  cases r <;> exact FrameText.compact_obj _

/-- A stream of responses reads back as one line for each, in order. -/
theorem linesOf_join_encode (rs : List Response) :
    Text.linesOf (String.join (rs.map encode)) = rs.map (·.toJson.compact) := by
  induction rs with
  | nil => rfl
  | cons r rs ih =>
    rw [List.map_cons, String.join_cons, encode, r.frameText.linesOf_append, ih, List.map_cons]

theorem encode_isEmpty (r : Response) : r.encode.isEmpty = false := by
  rw [String.isEmpty_eq_false_iff, ne_eq, ← String.toList_eq_nil_iff, encode, String.toList_append]
  exact List.append_ne_nil_of_right_ne_nil _ (by decide)

end Response

end TwoPhaseLocking
