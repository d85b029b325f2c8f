/-!
Decoding UTF-8 bytes. A fault is the longest start of a valid sequence that is cut off, or a
sequence the text ends inside; strict decoding stops at the first one, lossy decoding puts
U+FFFD in its place and goes on.
-/
namespace TwoPhaseLocking
namespace Utf8

inductive Step where
  /-- A character and the number of bytes it took. -/
  | char (c : Char) (size : Nat)
  /-- An invalid sequence of this many bytes. -/
  | invalid (size : Nat)
  /-- The bytes end inside a sequence. -/
  | cut
  deriving DecidableEq, Repr, Inhabited

def isContinuation (b : UInt8) : Bool := 0x80 ≤ b.toNat && b.toNat ≤ 0xBF

/-- The range the second byte of a sequence must lie in, after its lead byte. -/
def secondRange (lead : Nat) : Nat × Nat :=
  if lead = 0xE0 then (0xA0, 0xBF)
  else if lead = 0xED then (0x80, 0x9F)
  else if lead = 0xF0 then (0x90, 0xBF)
  else if lead = 0xF4 then (0x80, 0x8F)
  else (0x80, 0xBF)

/-- How many bytes a sequence with this lead byte has; 0 for a byte that cannot lead. -/
def width (lead : Nat) : Nat :=
  if lead < 0x80 then 1
  else if 0xC2 ≤ lead ∧ lead ≤ 0xDF then 2
  else if 0xE0 ≤ lead ∧ lead ≤ 0xEF then 3
  else if 0xF0 ≤ lead ∧ lead ≤ 0xF4 then 4
  else 0

/-- Reads the sequence at the front of the bytes (which are not empty). -/
def step (bs : List UInt8) : Step :=
  match bs with
  | [] => .cut
  | b0 :: rest =>
    let lead := b0.toNat
    let n := width lead
    if n = 0 then .invalid 1
    else if n = 1 then .char (Char.ofNat lead) 1
    else
      let (lo, hi) := secondRange lead
      let tail := rest.take (n - 1)
      -- how many bytes after the lead are right, in order
      let good := (tail.zipIdx.takeWhile fun (b, i) =>
        if i = 0 then lo ≤ b.toNat ∧ b.toNat ≤ hi else isContinuation b).length
      if good < tail.length then .invalid (good + 1)
      else if tail.length < n - 1 then .cut
      else
        let bits := tail.foldl (fun acc b => acc * 64 + (b.toNat - 0x80)) (lead % Nat.pow 2 (7 - n))
        .char (Char.ofNat bits) n

/-- A fault of strict decoding: how many bytes were valid before it, and the length of the
invalid sequence (`none` when the bytes end inside one). -/
structure Fault where
  validUpTo : Nat
  errorLen : Option Nat
  deriving DecidableEq, Repr, Inhabited

def Fault.message (f : Fault) : String :=
  match f.errorLen with
  | some n => s!"invalid utf-8 sequence of {n} bytes from index {f.validUpTo}"
  | none => s!"incomplete utf-8 byte sequence from index {f.validUpTo}"

/-- Decodes bytes, stopping at the first fault; `done` counts the bytes already read. -/
def decodeFrom (done : Nat) (bs : List UInt8) : Except Fault (List Char) :=
  match bs with
  | [] => .ok []
  | b :: more =>
    match step (b :: more) with
    | .char c n => (decodeFrom (done + n) (more.drop (n - 1))).map (c :: ·)
    | .invalid n => .error ⟨done, some n⟩
    | .cut => .error ⟨done, none⟩
termination_by bs.length
decreasing_by simp only [List.length_drop, List.length_cons]; omega

def decode (bs : List UInt8) : Except Fault String := (decodeFrom 0 bs).map String.ofList

/-- Decodes bytes, with U+FFFD in place of each fault. -/
def decodeLossy (bs : List UInt8) : String :=
  String.ofList (go bs)
where
  go (bs : List UInt8) : List Char :=
    match bs with
    | [] => []
    | b :: more =>
      match step (b :: more) with
      | .char c n => c :: go (more.drop (n - 1))
      | .invalid n => '�' :: go (more.drop (n - 1))
      | .cut => ['�']
  termination_by bs.length
  decreasing_by all_goals (simp only [List.length_drop, List.length_cons]; omega)

theorem step_ascii (b : UInt8) (rest : List UInt8) (h : b.toNat < 0x80) :
    step (b :: rest) = .char (Char.ofNat b.toNat) 1 := by
  simp [step, width, h]

end Utf8
end TwoPhaseLocking
