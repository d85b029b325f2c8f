import TwoPhaseLocking.Json.Value
import TwoPhaseLocking.Json.Binary64

/-!
Writing JSON text, compact or pretty. Strings escape the quote, the backslash and the control
characters (`\n`, `\r`, `\t`, `\b`, `\f` by name, the others as `\u00xx`), so no compact text
holds a raw line feed (`Json.lf_not_mem_compact`).
-/
namespace TwoPhaseLocking
namespace Json

/-- The lowercase hexadecimal digit of a number below 16. -/
def hexDigit (n : Nat) : Char :=
  if n < 10 then Char.ofNat ('0'.toNat + n) else Char.ofNat ('a'.toNat + n - 10)

/-- The escaped form of one character inside a string. -/
def escapeChar (c : Char) : List Char :=
  if c = '"' then ['\\', '"']
  else if c = '\\' then ['\\', '\\']
  else if c = '\n' then ['\\', 'n']
  else if c = '\r' then ['\\', 'r']
  else if c = '\t' then ['\\', 't']
  else if c.toNat = 8 then ['\\', 'b']
  else if c.toNat = 12 then ['\\', 'f']
  else if c.toNat < 0x20 then ['\\', 'u', '0', '0', hexDigit (c.toNat / 16), hexDigit (c.toNat % 16)]
  else [c]

/-- A string as a JSON string literal. -/
def quote (s : String) : String := String.ofList ('"' :: (s.toList.flatMap escapeChar ++ ['"']))

mutual

def compact : Json → String
  | null => "null"
  | bool b => if b then "true" else "false"
  | int i => toString i
  | float n m e => Binary64.toJsonText n m e
  | str s => quote s
  | arr xs => "[" ++ compactList xs ++ "]"
  | obj fs => "\x7b" ++ compactFields fs ++ "\x7d"

def compactList : List Json → String
  | [] => ""
  | [x] => compact x
  | x :: xs => compact x ++ "," ++ compactList xs

def compactFields : List (String × Json) → String
  | [] => ""
  | [(k, v)] => quote k ++ ":" ++ compact v
  | (k, v) :: fs => quote k ++ ":" ++ compact v ++ "," ++ compactFields fs

end

def indent (level : Nat) : String := String.ofList (List.replicate (2 * level) ' ')

mutual

/-- Pretty text of a value at an indentation level. -/
def prettyAt (level : Nat) : Json → String
  | arr [] => "[]"
  | obj [] => "\x7b\x7d"
  | arr xs => "[\n" ++ prettyList (level + 1) xs ++ "\n" ++ indent level ++ "]"
  | obj fs => "\x7b\n" ++ prettyFields (level + 1) fs ++ "\n" ++ indent level ++ "\x7d"
  | j => compact j

def prettyList (level : Nat) : List Json → String
  | [] => ""
  | [x] => indent level ++ prettyAt level x
  | x :: xs => indent level ++ prettyAt level x ++ ",\n" ++ prettyList level xs

def prettyFields (level : Nat) : List (String × Json) → String
  | [] => ""
  | [(k, v)] => indent level ++ quote k ++ ": " ++ prettyAt level v
  | (k, v) :: fs => indent level ++ quote k ++ ": " ++ prettyAt level v ++ ",\n" ++
    prettyFields level fs

end

def pretty (j : Json) : String := prettyAt 0 j

end Json
end TwoPhaseLocking
