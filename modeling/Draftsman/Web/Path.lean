/-
The paths of addresses on the web.

A path leads from the root of a host in steps.  A step may also stay where it is or
go back; such steps are carried out, and going back from the root stays there.  The
letter of a drive is never left by a step back.
-/
import Draftsman.Web.Percent

namespace Draftsman.Web

/-- A step of a path as it is written. -/
abbrev Step := List Char

namespace Step

/-- A step in small letters. -/
def small (step : Step) : List Char := step.map Char.toLower

/-- Whether a step stays where it is. -/
def staysPut (step : Step) : Bool := step.small == ['.'] || step.small == "%2e".toList

/-- Whether a step goes back. -/
def goesBack (step : Step) : Bool :=
  ["..", ".%2e", "%2e.", "%2e%2e"].any fun back => step.small == back.toList

/-- Whether a step is the letter of a drive. -/
def isDrive (step : Step) : Bool :=
  match step with
  | [letter, mark] => letter.isAlpha && (mark == ':' || mark == '|')
  | _ => false

/-- The letter of a drive with a colon behind it. -/
def drive (step : Step) : Step := step.take 1 ++ [':']

end Step

/-- The steps done, last first, after a step back. -/
def goBack (done : List Step) : List Step :=
  match done with
  | [] => []
  | last :: before => if last.isDrive then last :: before else before

/--
The steps of a path after those that stay and go back have been carried out; the steps
done stand last first.  Where a path ends in such a step, an empty step follows.  If
`drives`, the letter of a drive that stands first gets its colon.
-/
def walk (drives : Bool) (done : List Step) : List Step → List Step
  | [] => done.reverse
  | step :: rest =>
    let ending := if rest.isEmpty then [[]] else []
    if step.goesBack then walk drives (ending ++ goBack done) rest
    else if step.staysPut then walk drives (ending ++ done) rest
    else if drives && done.isEmpty && step.isDrive then walk drives [step.drive] rest
    else walk drives (step :: done) rest

/-- The steps of a path, in which only some characters stand as they are. -/
def stepsOf (isSlash : Char → Bool) (path : List Char) : List Step :=
  let behind := if (path.head?.map isSlash).getD false then path.drop 1 else path
  (behind.splitOnP isSlash).map (encode standsInPath)

/-- A path as it is written. -/
def pathText (steps : List Step) : List Char := steps.flatMap fun step => '/' :: step

end Draftsman.Web
