/-
The problems found in a story.

* `Issue`: an error or a warning, and whether the warning was denied;
* `Issue.report`: the report of a problem;
* `Policy.judge`, `Policy.fails`: the problems that a policy leaves, in order, and whether they
  make the run fail;
* `printIssues`: problems on a terminal, in full or one a line;
* `Policy.report`: what is printed about an error and warnings, and whether a run fails.
-/
import TweeStory.Config.File
import TweeStory.Report.Basic
import TweeStory.Story.Error
import TweeStory.Warning

namespace TweeStory

/-- A problem of a story. -/
inductive Issue where
  | error (e : CompileError)
  /-- A warning that was not ignored, and whether it counts as an error. -/
  | warning (w : Warning) (denied : Bool)
deriving DecidableEq, Repr

namespace Issue

/-- The name of the problem. -/
def name : Issue → Text
  | error e => e.name
  | warning w _ => w.name

/-- The words of the problem. -/
def message : Issue → Text
  | error e => e.message
  | warning w _ => w.kind.message

/-- The line that the problem is on. -/
def context : Issue → Option Origin
  | error e => e.origin?
  | warning w _ => w.context

/-- The line that the problem refers to. -/
def referent : Issue → Option Origin
  | error _ => none
  | warning w _ => w.referent

/-- Whether the problem makes a run fail. -/
def isError : Issue → Bool
  | error _ => true
  | warning _ denied => denied

/-- Whether the problem is a warning that only informs. -/
def isNotice : Issue → Bool
  | error _ => false
  | warning w _ => w.kind.isNotice

/-- How bad the problem is in a report. -/
def severity : Issue → Severity
  | warning w false => if w.kind.isNotice then .note else .warning
  | warning _ true | error _ => .error

/-- What might help. -/
def hint : Issue → Option Text
  | error _ => none
  | warning w _ =>
    match w.kind with
    | .missingStartPassage _ (some close) =>
      some ("Found passage with similar name: \"".toList ++ close ++ "\"".toList)
    | .unterminatedQuote .. | .unquotedQuote .. =>
      some "Escape quotes inside quoted link text with a backslash".toList
    | _ => none

/-- The label of a line, if it is a line of a loaded source. -/
def label? (sources : Sources) (primary : Bool) (message : Text) (origin : Option Origin) :
    Option Label :=
  origin.bind fun origin =>
    (sources.span? origin).map fun range => ⟨primary, origin.file, range, message⟩

/-- The report of the problem. -/
def report (sources : Sources) (issue : Issue) : Report where
  severity := issue.severity
  code := issue.name
  message := issue.message
  labels := (label? sources true [] issue.context).toList ++
    (label? sources false "Previously defined here. Overwritten.".toList issue.referent).toList
  notes := issue.hint.toList

/-- Whether a problem may stand before another: those without a line come first,
the others by their lines. -/
def le (a b : Issue) : Bool :=
  match a.context, b.context with
  | none, _ => true
  | some _, none => false
  | some o, some p => o.le p

end Issue

/-! ### Policies -/

namespace Policy

/-- The name that stands for all warnings. -/
def allName : Text := "all".toList

/-- Whether a list names a warning or all of them. -/
def covers (names : List Text) (w : Warning) : Bool :=
  names.contains allName || names.contains w.name

/-- The problem that a policy makes of a warning, if it does not ignore it. -/
def judgeWarning (policy : Policy) (w : Warning) : Option Issue :=
  if covers policy.allow w then none else some (.warning w (covers policy.deny w))

/-- The problems that a policy leaves of an error and of warnings.  Problems on the
same line keep their order, an error after the warnings. -/
def judge (policy : Policy) (error : Option CompileError) (warnings : Diagnostics) :
    List Issue :=
  let issues := warnings.filterMap policy.judgeWarning ++ (error.map Issue.error).toList
  issues.mergeSort Issue.le

/-- Whether an error and warnings make a run fail under a policy. -/
def fails (policy : Policy) (error : Option CompileError) (warnings : Diagnostics) : Bool :=
  warnings.any (fun w => !covers policy.allow w && covers policy.deny w) || error.isSome

end Policy

/-- Whether any of the problems makes a run fail. -/
def anyError (issues : List Issue) : Bool :=
  issues.any Issue.isError

/-! ### Printing -/

namespace Issue

/-- A problem on one line. -/
def printCompact (sources : Sources) (issue : Issue) : List Terminal.Item :=
  let (colour, word) : Terminal.Colour × Text :=
    if issue.isError then (.red, "Error: ".toList)
    else if issue.isNotice then (.cyan, "Notice: ".toList)
    else (.yellow, "Warning: ".toList)
  let place :=
    match issue.context with
    | some origin => sources.describe origin ++ ": ".toList
    | none => []
  Terminal.styled (.strong colour) word ++ [.text (place ++ issue.message ++ ['\n'])]

/-- A problem on a terminal, on one line if `compact` and with its lines if not. -/
def print (sources : Sources) (compact : Bool) (issue : Issue) : List Terminal.Item :=
  if compact then issue.printCompact sources else (issue.report sources).print sources

end Issue

/-- Problems on a terminal. -/
def printIssues (sources : Sources) (compact : Bool) (issues : List Issue) :
    List Terminal.Item :=
  issues.flatMap (Issue.print sources compact) ++ [.reset]

/-- What is printed about an error and warnings under a policy, and whether they make a run
fail. -/
def Policy.report (policy : Policy) (sources : Sources) (compact : Bool)
    (error : Option CompileError) (warnings : Diagnostics) : List Terminal.Item × Bool :=
  (printIssues sources compact (policy.judge error warnings), policy.fails error warnings)

end TweeStory
