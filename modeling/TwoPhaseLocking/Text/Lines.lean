/-!
Lines of a text. A line ends at a line feed; a carriage return right before the line feed is
part of the line ending. The last line needs no line feed, and a text that ends with a line feed
has no empty line after it.
-/
namespace TwoPhaseLocking
namespace Text

/-- Splits at every line feed; a text with `n` line feeds gives `n + 1` pieces. -/
def splitLf : List Char → List (List Char)
  | [] => [[]]
  | c :: cs =>
    if c = '\n' then [] :: splitLf cs
    else match splitLf cs with
      | [] => [[c]]
      | l :: ls => (c :: l) :: ls

def dropCr (l : List Char) : List Char :=
  if l.getLast? = some '\r' then l.dropLast else l

/-- The lines of a text, without their endings. -/
def lines (cs : List Char) : List (List Char) :=
  let pieces := splitLf cs
  let last := pieces.getLast?.getD []
  pieces.dropLast.map dropCr ++ (if last.isEmpty then [] else [last])

def linesOf (s : String) : List String := (lines s.toList).map String.ofList

theorem splitLf_ne_nil (cs : List Char) : splitLf cs ≠ [] := by
  cases cs with
  | nil => simp [splitLf]
  | cons c cs =>
    unfold splitLf
    split
    · simp
    · split <;> simp

@[simp] theorem lines_nil : lines [] = [] := by decide

end Text
end TwoPhaseLocking
