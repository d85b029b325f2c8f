import TwoPhaseLocking.Json.Reader
import TwoPhaseLocking.Protocol.Frame
import TwoPhaseLocking.Text.Blank

/-!
Reading frames and operations from JSON text, with the error texts of the wire format. A frame
is read in two stages: its object as a stream, the `type` checked as soon as it is met and the
other fields kept; then the frame's own fields from the kept values. A frame's line decodes back
to the frame (`Request.decode_encode`, `Response.decode_encode`).
-/
namespace TwoPhaseLocking
namespace Json

open Reader

/-- How an unexpected value is named in an error. -/
def unexpected : Json → String
  | null => "null"
  | bool b => if b then "boolean `true`" else "boolean `false`"
  | int i => s!"integer `{i}`"
  | float n m e => s!"floating point `{Binary64.toJsonText n m e}`"
  | str s => s!"string {Text.debugQuote s}"
  | arr _ => "sequence"
  | obj _ => "map"

def invalidType (what exp : String) : String := s!"invalid type: {what}, expected {exp}"

def unknownVariant (v : String) (expected : List String) : String :=
  let q (s : String) : String := "`" ++ s ++ "`"
  match expected with
  | [] => s!"unknown variant {q v}, there are no variants"
  | [a] => s!"unknown variant {q v}, expected {q a}"
  | [a, b] => s!"unknown variant {q v}, expected {q a} or {q b}"
  | _ => s!"unknown variant {q v}, expected one of " ++ ", ".intercalate (expected.map q)

def missingField (f : String) : String := "missing field `" ++ f ++ "`"

def duplicateField (f : String) : String := "duplicate field `" ++ f ++ "`"

def invalidLength (n : Nat) (exp : String) : String := s!"invalid length {n}, expected {exp}"

/-- What a struct of `n` fields kept as an array expects: `... with 1 element`,
`... with 2 elements`. -/
def withElements (expecting : String) (n : Nat) : String :=
  if n = 1 then expecting ++ " with 1 element" else s!"{expecting} with {n} elements"

def elementsInSeq (n : Nat) : String :=
  if n = 1 then "1 element in sequence" else s!"{n} elements in sequence"

/-! ### Kept values -/

namespace Kept

def u32 (j : Json) : Except String Json :=
  match j with
  | int i => if 0 ≤ i ∧ i ≤ 4294967295 then .ok j else .error s!"invalid value: integer `{i}`, expected u32"
  | _ => .error (invalidType (unexpected j) "u32")

def string (j : Json) : Except String Json :=
  match j with
  | str _ => .ok j
  | _ => .error (invalidType (unexpected j) "a string")

def boolean (j : Json) : Except String Json :=
  match j with
  | bool _ => .ok j
  | _ => .error (invalidType (unexpected j) "a boolean")

/-- Nothing: `null` or an empty object. -/
def unit (j : Json) : Except String Unit :=
  match j with
  | null => .ok ()
  | obj [] => .ok ()
  | _ => .error (invalidType (unexpected j) "unit")

/-- Checks the fields of a struct kept as an object or an array: each known field through its
check, in the order met; gives the checked values by name. -/
def fields (expecting : String) (spec : List (String × (Json → Except String Json))) (j : Json) :
    Except String (List (String × Json)) :=
  match j with
  | obj fs => do
    let got ← fs.foldlM (fun (acc : List (String × Json)) (k, v) =>
      match spec.lookup k with
      | none => .ok acc
      | some check =>
        if (acc.lookup k).isSome then .error (duplicateField k)
        else do let v' ← check v; .ok (acc ++ [(k, v')])) []
    spec.foldlM (fun (acc : List (String × Json)) (k, _) =>
      match got.lookup k with
      | some v => .ok (acc ++ [(k, v)])
      | none => .error (missingField k)) []
  | arr xs => do
    let n := spec.length
    let got ← (spec.zipIdx).foldlM (fun (acc : List (String × Json)) ((k, check), i) =>
      match xs[i]? with
      | some v => do let v' ← check v; .ok (acc ++ [(k, v')])
      | none => .error (invalidLength i (withElements expecting n))) []
    if xs.length > n then .error (invalidLength xs.length (elementsInSeq n)) else .ok got
  | _ => .error (invalidType (unexpected j) expecting)

/-- An enum kept as a string (a unit variant) or an object of one field (variant and value);
gives the variant and its value. -/
def variant (names : List String) (j : Json) : Except String (String × Option Json) := do
  let (v, val) ← match j with
    | str s => .ok (s, none)
    | obj [(k, x)] => .ok (k, some x)
    | obj _ => .error "invalid value: map, expected map with a single key"
    | _ => .error (invalidType (unexpected j) "string or map")
  if names.contains v then .ok (v, val) else .error (unknownVariant v names)

/-- A unit variant's value, if it has one, must be nothing. -/
def unitVariant : Option Json → Except String Unit
  | none => .ok ()
  | some x => unit x

def operator (j : Json) : Except String Json := do
  let (v, val) ← variant ["add", "subtract", "multiply", "divide"] j
  unitVariant val
  .ok (str v)

def expression (j : Json) : Except String Json := do
  let fs ← fields "struct Expression"
    [("operand1", string), ("operator", operator), ("operand2", string)] j
  .ok (obj fs)

def kind (j : Json) : Except String Json := do
  let (v, val) ← variant ["read", "write", "compute"] j
  if v = "compute" then
    match val with
    | none => .error (invalidType "unit variant" "newtype variant")
    | some x => do let e ← expression x; .ok (obj [("compute", e)])
  else do unitVariant val; .ok (str v)

def operation (j : Json) : Except String Json := do
  let fs ← fields "struct Operation" [("transaction_id", u32), ("item", string), ("kind", kind)] j
  .ok (obj fs)

end Kept

/-! ### Building values from checked JSON -/

/-- The operation of a checked JSON operation. -/
def toOperation? (j : Json) : Option Operation := do
  let tx ← (j.field? "transaction_id").bind int?
  let item ← (j.field? "item").bind str?
  let kind ← match j.field? "kind" with
    | some (str "read") => some OpKind.read
    | some (str "write") => some OpKind.write
    | some c => do
      let e ← c.field? "compute"
      let a ← (e.field? "operand1").bind str?
      let o ← match e.field? "operator" with
        | some (str "add") => some Operator.add
        | some (str "subtract") => some Operator.subtract
        | some (str "multiply") => some Operator.multiply
        | some (str "divide") => some Operator.divide
        | _ => none
      let b ← (e.field? "operand2").bind str?
      some (OpKind.compute ⟨a, o, b⟩)
    | none => none
  some ⟨tx.toNat, item, kind⟩

/-! ### Frames -/

/-- Fails because the value ahead is not what was wanted, naming that value; a scalar is read
first, an array or object is not. -/
def peekInvalid {α : Type} (exp : String) : Reader α := settle do
  match ← skipBlanks with
  | some '[' => fail (invalidType "sequence" exp)
  | some '{' => fail (invalidType "map" exp)
  | some c =>
    if c = 'n' ∨ c = 't' ∨ c = 'f' ∨ c = '-' ∨ c = '"' ∨ c.isDigit then do
      let v ← value 8
      fail (invalidType (unexpected v) exp)
    else failAtPeek "expected value"
  | none => failAtPeek "EOF while parsing a value"

def variantName (names : List String) : Reader String := settle do
  match ← skipBlanks with
  | some '"' => do
    bump
    let s ← stringBody
    if names.contains s then pure s else fail (unknownVariant s names)
  | _ => peekInvalid "variant identifier"

/-- Reads the fields of a tagged object after `{`: the variant and the other fields. -/
def taggedMembers (names : List String) (fuel : Nat) (first : Bool) (tag : Option String)
    (acc : List (String × Json)) : Reader (String × List (String × Json)) :=
  match fuel with
  | 0 => failAt "EOF while parsing an object"
  | f + 1 => do
    match ← nextKey first with
    | none =>
      match tag with
      | some t => pure (t, acc.reverse)
      | none => fail (missingField "type")
    | some k =>
      if k = "type" then
        if tag.isSome then fail (duplicateField "type")
        else do
          colon
          let t ← variantName names
          taggedMembers names f false (some t) acc
      else do
        colon
        let v ← value f
        taggedMembers names f false tag ((k, v) :: acc)

/-- Reads the rest of a tagged array after `[`: the variant first, then the kept elements. -/
def taggedElements (names : List String) (fuel : Nat) : Reader (String × Json) := do
  if ← hasNextElement true then
    let t ← variantName names
    let rest ← elements fuel false []
    pure (t, arr rest)
  else fail (missingField "type")

/-- Reads an internally tagged value: its variant and the kept rest. -/
def tagged (expecting : String) (names : List String) (fuel : Nat) : Reader (String × Json) :=
  settle do
    match ← skipBlanks with
    | none => failAtPeek "EOF while parsing a value"
    | some '{' => do
      enter
      bump
      let (t, fs) ← andThenAnyway (taggedMembers names fuel true none []) endObject
      leave
      pure (t, obj fs)
    | some '[' => do
      enter
      bump
      let r ← andThenAnyway (taggedElements names fuel) endArray
      leave
      pure r
    | some _ => do
      let v ← value fuel
      fail (invalidType (unexpected v) expecting)

def variantFields (frame v : String) (spec : List (String × (Json → Except String Json)))
    (j : Json) : Except String (List (String × Json)) :=
  Kept.fields s!"struct variant {frame}::{v}" spec j

/-- A unit variant of a frame accepts any kept fields, and an empty array. -/
def unitFields (j : Json) : Except String Unit :=
  match j with
  | arr xs => if xs.isEmpty then .ok () else .error (invalidLength xs.length (elementsInSeq 0))
  | _ => .ok ()

def requestOf (v : String) (j : Json) : Except String Request := do
  let get (fs : List (String × Json)) (k : String) : Json := (fs.lookup k).getD null
  match v with
  | "bind_site" => do
    let fs ← variantFields "Request" "BindSite" [("site_id", Kept.u32), ("address", Kept.string)] j
    .ok (.bindSite ((get fs "site_id").int?.getD 0).toNat ((get fs "address").str?.getD ""))
  | "request_lock" => do
    let fs ← variantFields "Request" "RequestLock" [("operation", Kept.operation)] j
    match toOperation? (get fs "operation") with
    | some o => .ok (.requestLock o)
    | none => .error "invalid operation"
  | "release_lock" => do
    let fs ← variantFields "Request" "ReleaseLock" [("transaction_id", Kept.u32)] j
    .ok (.releaseLock ((get fs "transaction_id").int?.getD 0).toNat)
  | "register_site" => do unitFields j; .ok .registerSite
  | "abort" => do unitFields j; .ok .abort
  | "unblock" => do unitFields j; .ok .unblock
  | _ => do unitFields j; .ok .write

def responseOf (v : String) (j : Json) : Except String Response := do
  let get (fs : List (String × Json)) (k : String) : Json := (fs.lookup k).getD null
  match v with
  | "site_id" => do
    let fs ← variantFields "Response" "SiteId" [("site_id", Kept.u32)] j
    .ok (.siteId ((get fs "site_id").int?.getD 0).toNat)
  | "granted" => do
    let fs ← variantFields "Response" "Granted" [("granted", Kept.boolean)] j
    .ok (.granted ((get fs "granted").bool?.getD false))
  | "error" => do
    let fs ← variantFields "Response" "Error" [("code", Kept.string), ("message", Kept.string)] j
    .ok (.error ((get fs "code").str?.getD "") ((get fs "message").str?.getD ""))
  | _ => do unitFields j; .ok .ack

/-- Reads one frame from a text with nothing after it. -/
def frame {α : Type} (expecting : String) (names : List String)
    (build : String → Json → Except String α) (text : String) : Except String α :=
  let r : Reader α := do
    let (v, j) ← tagged expecting names (2 * text.length + 4)
    let x ← ofExcept (build v j)
    finish
    pure x
  match r.run text with
  | .ok x => .ok x
  | .error e => .error e.text

/-! ### Operations as a stream -/

namespace Stream

def u32 : Reader Json := settle do
  match ← skipBlanks with
  | some c =>
    if c = '-' ∨ c.isDigit then do
      let v ← value 8
      match Kept.u32 v with
      | .ok j => pure j
      | .error m => fail m
    else peekInvalid "u32"
  | none => failAtPeek "EOF while parsing a value"

def string : Reader Json := settle do
  match ← skipBlanks with
  | some '"' => do bump; let s ← stringBody; pure (str s)
  | some _ => peekInvalid "a string"
  | none => failAtPeek "EOF while parsing a value"

def unit : Reader Unit := settle do
  match ← skipBlanks with
  | some 'n' => do bump; ident ['u', 'l', 'l']
  | some _ => peekInvalid "unit"
  | none => failAtPeek "EOF while parsing a value"

/-- An enum: a string names a unit variant, `{"variant": value}` any variant. `payload` reads the
value of a variant that carries one. -/
def enumValue (names : List String) (payload : String → Option (Reader Json)) : Reader Json := do
  match ← skipBlanks with
  | some '"' => do
    let v ← variantName names
    match payload v with
    | none => pure (str v)
    | some _ => fail (invalidType "unit variant" "newtype variant")
  | some '{' => do
    enter
    bump
    let v ← variantName names
    colon
    let j ← match payload v with
      | none => do unit; pure (str v)
      | some r => do let x ← r; pure (obj [(v, x)])
    match ← skipBlanks with
    | some '}' => bump
    | some _ => failAt "expected value"
    | none => failAt "EOF while parsing an object"
    leave
    pure j
  | some _ => failAtPeek "expected value"
  | none => failAtPeek "EOF while parsing a value"

/-- The fields of an object in the stream, after `{`, each known one through its reader. -/
def members (spec : List (String × Reader Json)) (fuel : Nat) (first : Bool)
    (acc : List (String × Json)) : Reader (List (String × Json)) :=
  match fuel with
  | 0 => failAt "EOF while parsing an object"
  | f + 1 => do
    match ← nextKey first with
    | none =>
      spec.foldlM (fun (out : List (String × Json)) (k, _) =>
        match acc.lookup k with
        | some v => pure (out ++ [(k, v)])
        | none => fail (missingField k)) []
    | some k =>
      match spec.lookup k with
      | none => do colon; let _ ← value f; members spec f false acc
      | some r =>
        if (acc.lookup k).isSome then fail (duplicateField k)
        else do colon; let v ← r; members spec f false (acc ++ [(k, v)])

def elementsInOrder (expecting : String) (n : Nat) : List (String × Reader Json) → Nat →
    Reader (List (String × Json))
  | [], _ => pure []
  | (k, r) :: rest, i => do
    if ← hasNextElement (i = 0) then
      let v ← r
      let more ← elementsInOrder expecting n rest (i + 1)
      pure ((k, v) :: more)
    else fail (invalidLength i (withElements expecting n))

/-- A struct: an object of its fields, or an array of them in order. -/
def structValue (expecting : String) (spec : List (String × Reader Json)) (fuel : Nat) :
    Reader Json := settle do
  match ← skipBlanks with
  | some '{' => do
    enter
    bump
    let fs ← andThenAnyway (members spec fuel true []) endObject
    leave
    pure (obj fs)
  | some '[' => do
    enter
    bump
    let fs ← andThenAnyway (elementsInOrder expecting spec.length spec 0) endArray
    leave
    pure (obj fs)
  | some _ => peekInvalid expecting
  | none => failAtPeek "EOF while parsing a value"

def operator : Reader Json := enumValue ["add", "subtract", "multiply", "divide"] fun _ => none

def expression (fuel : Nat) : Reader Json :=
  structValue "struct Expression" [("operand1", string), ("operator", operator), ("operand2", string)]
    fuel

def kind (fuel : Nat) : Reader Json :=
  enumValue ["read", "write", "compute"] fun v => if v = "compute" then some (expression fuel) else none

def operation (fuel : Nat) : Reader Json :=
  structValue "struct Operation" [("transaction_id", u32), ("item", string), ("kind", kind fuel)] fuel

end Stream

end Json

namespace Request

/-- Reads a request from a line; trailing blanks are dropped first. The error is the reader's
text followed by the line. -/
def decode (line : String) : Except String Request :=
  let text := Text.trimEndString line
  (Json.frame "internally tagged enum Request" names Json.requestOf text).mapError (· ++ ": " ++ text)

end Request

namespace Response

/-- Reads a response from a line; trailing blanks are dropped first. The error is the reader's
text followed by the line. -/
def decode (line : String) : Except String Response :=
  let text := Text.trimEndString line
  (Json.frame "internally tagged enum Response" names Json.responseOf text).mapError (· ++ ": " ++ text)

end Response

namespace Operation

/-- Reads an operation from a text holding exactly one. -/
def decode (text : String) : Except String Operation :=
  let r : Json.Reader Json := do
    let v ← Json.Stream.operation (2 * text.length + 4)
    Json.finish
    pure v
  match r.run text with
  | .ok j => match Json.toOperation? j with
    | some o => .ok o
    | none => .error "invalid operation"
  | .error e => .error e.text

end Operation
end TwoPhaseLocking
