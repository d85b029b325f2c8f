import TwoPhaseLocking.Text.Printable

/-!
The debugging view of a string: in double quotes, with a backslash before a quote or a
backslash, the escapes `\0`, `\t`, `\r`, `\n`, and `\u{h}` (lowercase hexadecimal, no leading
zeros) for every other character that is not printable or that extends a grapheme. Every other
character, also outside ASCII, stands as itself.
-/
namespace TwoPhaseLocking
namespace Text

def unicodeEscape (c : Char) : List Char :=
  ['\\', 'u', '\x7b'] ++ Nat.toDigits 16 c.toNat ++ ['\x7d']

/-- How one character of a string stands in its debugging view. -/
def escapeDebug (c : Char) : List Char :=
  if c.toNat = 0 then ['\\', '0']
  else if c = '\t' then ['\\', 't']
  else if c = '\r' then ['\\', 'r']
  else if c = '\n' then ['\\', 'n']
  else if c = '\\' then ['\\', '\\']
  else if c = '"' then ['\\', '"']
  else if isGraphemeExtend c then unicodeEscape c
  else if isPrintable c then [c]
  else unicodeEscape c

def debugQuote (s : String) : String :=
  String.ofList ('"' :: s.toList.flatMap escapeDebug ++ ['"'])

theorem escapeDebug_ascii (c : Char) (lo : 0x20 ≤ c.toNat) (hi : c.toNat < 0x7F)
    (bs : c ≠ '\\') (q : c ≠ '"') : escapeDebug c = [c] := by
  have low : ∀ d : Char, d.toNat < 0x20 → c ≠ d := fun d hd e => by subst e; omega
  simp [escapeDebug, show c.toNat ≠ 0 by omega, low '\t' (by decide), low '\r' (by decide),
    low '\n' (by decide), bs, q, isGraphemeExtend_of_lt c (by omega), isPrintable_ascii c lo hi]

end Text
end TwoPhaseLocking
