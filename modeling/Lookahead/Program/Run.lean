import Lookahead.Program.Options
import Lookahead.Program.Workspace
import Lookahead.Source.Reading

/-!
# Runs

A run reads the grammar file, chooses the start symbol, computes the sets and
writes the report.  Each step can fail, and the first failure is what the run
says.
-/

namespace Lookahead.Program

/-- Why a run gives no report. -/
inductive RunFault where
  | unreadable (file : String) (fault : ReadFault)
  | malformed (text : String) (diagnostics : List Source.Diagnostic)
  | unknownStart (name : String)

/-- What is said about a run without a report. -/
def RunFault.message : RunFault → String
  | .unreadable file fault => "Could not read " ++ file ++ ": " ++ fault.message
  | .malformed text diagnostics => Source.renderDiagnostics text diagnostics
  | .unknownStart name => "No rule defines the start symbol `" ++ name ++ "`"

/-- The grammar with the start symbol that was asked for, which has to be
declared. -/
def chooseStart (grammar : Grammar) : Option String → Except RunFault Grammar
  | none => .ok grammar
  | some name =>
      if grammar.rules.contains name then .ok (grammar.withStart name)
      else .error (.unknownStart name)

/-- The report on a grammar. -/
def report (grammar : Grammar) (sections : Report.Sections) : String :=
  let firstSets := grammar.firstSets
  Report.render grammar firstSets (grammar.followSetsFrom firstSets) sections

/-- The report on the text of a grammar file. -/
def reportText (options : Options) (text : String) : Except RunFault String := do
  let grammar ← (Source.parse text).mapError (.malformed text)
  let chosen ← chooseStart grammar options.start
  return report chosen options.sections

/-- A run, given what reading the file came to. -/
def run (options : Options) (content : Except ReadFault String) : Except RunFault String := do
  let text ← content.mapError (.unreadable options.file)
  reportText options text

/-- What a finished program leaves behind. -/
structure Outcome where
  status : Nat
  output : String
  errors : String
  deriving DecidableEq, Repr

/-- The outcome of a run: its report, or its message on a line of its own. -/
def Outcome.ofRun : Except RunFault String → Outcome
  | .ok report => ⟨0, report, ""⟩
  | .error fault => ⟨1, "", fault.message ++ "\n"⟩

/-- The exit status when no run takes place. -/
def Stop.status : Stop → Nat
  | .help => 0
  | .version => 0
  | .refused _ => 2

/-- The program on its arguments in a workspace: the options and the outcome of
their run, or what ended the reading of the arguments. -/
def execute (workspace : Workspace) (arguments : List String) :
    Except Stop (Options × Outcome) := do
  let options ← Options.ofArguments arguments
  return (options, Outcome.ofRun (run options (workspace.readText options.file)))

end Lookahead.Program
