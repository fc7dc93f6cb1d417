import Stemming.Text.Split

/-! Failures with their causes, and how they are reported. -/
namespace Stemming

/-- What failed, and why: the causes stand outermost first. -/
structure Failure where
  message : String
  causes : List String := []
  deriving DecidableEq, Repr

namespace Failure

/-- The failure on one line. -/
def summary (f : Failure) : String := ": ".intercalate (f.message :: f.causes)

/-- The text of one cause. Its further lines are indented as given. -/
def indent (first further cause : String) : String :=
  first ++ ("\n" ++ further).intercalate ((Text.splitAtChar '\n' cause.toList).map String.ofList)

def padStart (width : Nat) (s : String) : String := "".pushn ' ' (width - s.length) ++ s

/-- A single cause stands alone, several are numbered. -/
def causeLines (causes : List String) : List String :=
  match causes with
  | [cause] => [indent "    " "    " cause]
  | _ => causes.mapIdx fun i cause => indent (padStart 5 (Nat.repr i) ++ ": ") "       " cause

/-- The failure on several lines. -/
def report (f : Failure) : String :=
  "Error: " ++ f.message
    ++ (if f.causes.isEmpty then "" else "\n\nCaused by:\n" ++ "\n".intercalate (causeLines f.causes))
    ++ "\n"

end Failure

end Stemming
