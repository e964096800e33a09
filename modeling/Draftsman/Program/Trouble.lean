/-
Why the program gave up, and how it tells.

A trouble is told from the outside in: first what could not be done, then what
caused that, and so on.
-/
import Draftsman.Agent.Failure
import Draftsman.Text.Cut

namespace Draftsman.Program

/-- What could not be done, and the causes of that, each the cause of the one before. -/
structure Trouble where
  text : String
  causes : List String
  deriving DecidableEq, Repr

namespace Trouble

/-- A trouble that something else caused. -/
def because (text : String) (cause : Trouble) : Trouble := ⟨text, cause.text :: cause.causes⟩

/-- What caused a failure, if the failure has a cause. -/
def causesOf : Failure → List String
  | .settingsText => ["TOML parse error"]
  | _ => []

/-- A failure as a trouble. -/
def ofFailure (f : Failure) : Trouble := ⟨f.message, causesOf f⟩

/-- A text whose first line stands behind `first`, and every other behind `other`. -/
def hung (first other text : String) : String :=
  first ++ ("\n" ++ other).intercalate ((text.toList.splitOn '\n').map String.ofList)

/-- A number with spaces before it, five characters wide. -/
def numeral (n : Nat) : String :=
  let ds := toString n
  String.ofList (List.replicate (5 - ds.length) ' ') ++ ds

/-- The causes as they are told; they are numbered if there are several. -/
def causeLines : List String → List String
  | [cause] => [hung "    " "    " cause]
  | causes => causes.zipIdx.map fun (cause, n) => hung s!"{numeral n}: " "       " cause

/-- A trouble as it is told. -/
def report (t : Trouble) : String :=
  let causes :=
    if t.causes.isEmpty then ""
    else "\n\nCaused by:\n" ++ "\n".intercalate (causeLines t.causes)
  s!"Error: {t.text}{causes}\n"

end Trouble

end Draftsman.Program
