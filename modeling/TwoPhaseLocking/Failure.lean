/-!
Failures as a user sees them: a message with the causes under it, outermost first. A report
writes the message, then a `Caused by:` block with each cause indented by four columns (and
numbered when there are several), every line of a cause kept under the first.
-/
namespace TwoPhaseLocking

/-- A failure with its causes, outermost first. -/
structure Failure where
  message : String
  causes : List String := []
  deriving DecidableEq, Repr, Inhabited

namespace Failure

def context (f : Failure) (m : String) : Failure := ⟨m, f.message :: f.causes⟩

/-- Indents every line after the first of a text by `pad`. -/
def indentRest (pad : String) (s : String) : String :=
  "\n".intercalate (match s.splitOn "\n" with
    | [] => []
    | l :: ls => l :: ls.map (pad ++ ·))

/-- The report: the message, then the causes. -/
def report (f : Failure) : String :=
  match f.causes with
  | [] => f.message
  | [c] => f.message ++ "\n\nCaused by:\n    " ++ indentRest "    " c
  | cs =>
    let numbered := (List.range cs.length).zip cs |>.map fun (i, c) =>
      let n := toString i
      String.ofList (List.replicate (5 - min 5 n.length) ' ') ++ n ++ ": " ++ indentRest "       " c
    f.message ++ "\n\nCaused by:\n" ++ "\n".intercalate numbered

@[simp] theorem report_nil (m : String) : report ⟨m, []⟩ = m := rfl

end Failure
end TwoPhaseLocking
