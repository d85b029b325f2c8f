import TwoPhaseLocking.Lock.Basic
import TwoPhaseLocking.Protocol.Error

/-!
The errors of the library, by cause: a refused lock, a protocol failure, a failed step of a
transaction, a bad script, exhausted transaction ids, an unreadable script file, a store,
configuration or serialisation failure, and plain messages. Each has a code and one message.
-/
namespace TwoPhaseLocking

/-- Every error the library reports. -/
inductive Error where
  | lock (e : LockError)
  | protocol (e : ProtocolError)
  /-- A write with no computed value for its item. -/
  | missingWriteValue (tx : TxId) (item : String)
  /-- A compute operand that is neither a numeral nor an item read before. -/
  | unknownOperand (tx : TxId) (operand : String)
  | divisionByZero (tx : TxId) (item : String)
  | overflow (tx : TxId) (item : String)
  /-- A script line that is not understood. -/
  | script (line : Nat) (message : String)
  | idsExhausted (site : SiteId)
  /-- A script file that cannot be read; `reason` is the system's text. -/
  | scriptFile (path reason : String)
  | database (message : String)
  | config (message : String)
  | serialization (message : String)
  | other (message : String)
  | io (message : String)
  deriving DecidableEq, Repr, Inhabited

namespace Error

def code : Error → String
  | lock e => e.code
  | protocol e => e.code
  | missingWriteValue .. => "E200"
  | unknownOperand .. => "E201"
  | divisionByZero .. => "E202"
  | overflow .. => "E203"
  | database .. => "E400"
  | config .. => "E600"
  | script .. => "E800"
  | serialization .. => "E801"
  | idsExhausted .. => "E802"
  | scriptFile .. => "E803"
  | other .. | io .. => "E9999"

def kindName : Error → String
  | lock e => e.kindName
  | protocol e => e.kindName
  | missingWriteValue .. => "MissingWriteValue"
  | unknownOperand .. => "UnknownOperand"
  | divisionByZero .. => "DivisionByZero"
  | overflow .. => "Overflow"
  | script .. => "Script"
  | idsExhausted .. => "TransactionIdsExhausted"
  | scriptFile .. => "ScriptFile"
  | database .. => "DatabaseError"
  | config .. => "ConfigError"
  | serialization .. => "Serialization"
  | other .. => "Other"
  | io .. => "Io"

def message : Error → String
  | lock e => e.message
  | protocol e => e.message
  | missingWriteValue t i =>
    s!"Transaction {t}: write of '{i}' has no computed value. Add an " ++
      "\x60" ++ s!"m {i} = ..." ++ "\x60 line before \x60" ++ s!"w({i})" ++ "\x60."
  | unknownOperand t o =>
    s!"Transaction {t}: operand '{o}' was never read. Add " ++ "\x60" ++ s!"r({o})" ++
      "\x60 before using it."
  | divisionByZero t i => s!"Transaction {t}: division by zero while computing '{i}'"
  | overflow t i => s!"Transaction {t}: arithmetic overflow while computing '{i}'"
  | script n m => s!"Transaction script line {n}: {m}"
  | idsExhausted s => s!"Transaction ids of site {s} are exhausted (at most 9999 per site)"
  | scriptFile p r => s!"Failed to read transaction script {p}: {r}"
  | database m => s!"Database error: {m}"
  | config m => s!"Configuration error: {m}"
  | serialization m => s!"Serialization error: {m}"
  | other m | io m => m

/-- Whether the error came from running a transaction's own operations. -/
def isExecutionFailure : Error → Bool
  | missingWriteValue .. | unknownOperand .. | divisionByZero .. | overflow .. => true
  | _ => false

end Error
end TwoPhaseLocking
