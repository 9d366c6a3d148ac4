import RangeLab.Document.Record
import RangeLab.Document.Scenario
import RangeLab.Text.Blank

/-!
# The command line

What a run of the program asks for, what it prints and what it reports when something is wrong. The
files and the environment are functions from names to contents, so a run is a value that depends on
nothing else.

The scenario is named by the first argument or by `SCENARIO_PATH`, an edition by `EDITION_PATH`.
A query is made of the lists `RANGE_INSTANCES`, `RANGE_GUESTS`, `RANGE_COPIES` and `RANGE_EXCLUDE`,
with commas between their items, and of `RANGE_ALL_MACHINES`, which adds the machines of services.
-/

namespace RangeLab.CommandLine

/-- The values of the variables that are set. -/
abbrev Environment := String → Option String

/-! ## Failures -/

inductive FileFault where
  | missing
  | notText
  /-- Any other reason, in the words of the system. -/
  | other (message : String)
  deriving DecidableEq

def FileFault.message : FileFault → String
  | .missing => "No such file or directory (os error 2)"
  | .notText => "stream did not contain valid UTF-8"
  | .other message => message

/-- The files that a run can read. -/
abbrev Files := String → Except FileFault String

inductive Failure where
  | noScenario
  | badItem (item variableName : String) (cause : Numeral.CountFault)
  | unread (path : String) (cause : FileFault)
  | notUnderstood (path : String)
  | notCompiled (cause : Fault)
  | notResolved (cause : Fault)
  deriving DecidableEq

namespace Failure

/-- What the run was about to do. -/
def context : Failure → String
  | .noScenario => "No scenario given. Usage: range-inventory <scenario.json>"
  | .badItem item variableName _ => "Invalid value " ++ Text.quoted item ++ " in " ++ variableName
  | .unread path _ => "Failed to read " ++ path
  | .notUnderstood path => "Failed to parse " ++ path
  | .notCompiled _ => "Failed to compile scenario"
  | .notResolved _ => "Failed to resolve machines"

/-- What kept it from doing so. -/
def cause? : Failure → Option String
  | .noScenario => none
  | .badItem _ _ cause => some cause.message
  | .unread _ cause => some cause.message
  | .notUnderstood _ => some Fault.malformed.message
  | .notCompiled cause => some cause.message
  | .notResolved cause => some cause.message

def linesOf (s : String) : List String := (s.toList.splitOn '\n').map String.ofList

/-- The lines that report a failure: the context and, below it, the indented cause. -/
def report (f : Failure) : List String :=
  linesOf ("Error: " ++ f.context)
    ++ match f.cause? with
      | none => []
      | some cause => ["", "Caused by:"] ++ (linesOf cause).map fun line => "    " ++ line

end Failure

/-! ## Requests -/

structure Request where
  scenarioPath : String
  editionPath : Option String
  /-- The query to answer; the whole inventory is printed if there is none. -/
  query : Option Query
  deriving DecidableEq

/-- The items of a list: what is between its commas, without the white space around it. Items that
are blank are passed over. -/
def items (list : String) : List (List Char) :=
  ((list.toList.splitOn ',').map Text.trim).filter fun item => !item.isEmpty

def itemsOf (env : Environment) (name : String) : List (List Char) := items ((env name).getD "")

def textsOf (env : Environment) (name : String) : List String :=
  (itemsOf env name).map String.ofList

def numbersOf (env : Environment) (name : String) : Except Failure (List UInt32) :=
  (itemsOf env name).mapM fun item =>
    (Numeral.count item).mapError (.badItem (String.ofList item) name)

def asksForAll (env : Environment) : Bool :=
  match env "RANGE_ALL_MACHINES" with
  | some value => value == "1" || value == "true" || value == "yes"
  | none => false

/-- The query that an environment asks, if it asks one: if some list has an item, or all machines
are asked for. -/
def queryOf (env : Environment) : Except Failure (Option Query) := do
  let instances ← numbersOf env "RANGE_INSTANCES"
  let guests := textsOf env "RANGE_GUESTS"
  let copies ← numbersOf env "RANGE_COPIES"
  let exclude := textsOf env "RANGE_EXCLUDE"
  let all := asksForAll env
  if all || !instances.isEmpty || !guests.isEmpty || !copies.isEmpty || !exclude.isEmpty then
    return some { instances, guests, copies, onlyInstances := !all, exclude }
  else return none

/-- What the arguments, without the name of the program, and an environment ask for. -/
def requestOf (args : List String) (env : Environment) : Except Failure Request := do
  let some scenarioPath := args.head?.or (env "SCENARIO_PATH") | throw .noScenario
  let query ← queryOf env
  return { scenarioPath, editionPath := env "EDITION_PATH", query }

/-! ## Runs -/

def load {α : Type} (files : Files) (path : String) (read : String → Option α) :
    Except Failure α := do
  let text ← (files path).mapError (.unread path)
  match read text with
  | some value => return value
  | none => throw (.notUnderstood path)

/-- The scenario of a request, as its edition has it. -/
def scenarioOf (files : Files) (r : Request) : Except Failure Scenario := do
  let scenario ← load files r.scenarioPath Scenario.ofText?
  match r.editionPath with
  | none => return scenario
  | some path => return scenario.edited (← load files path Edition.ofText?)

def answer (files : Files) (r : Request) : Except Failure String := do
  let scenario ← scenarioOf files r
  let inventory ← (Inventory.compile scenario).mapError .notCompiled
  match r.query with
  | none => return inventory.toRecord.toText
  | some query =>
    let names ← (inventory.resolve query).mapError .notResolved
    return (Json.ofList .ofString names).pretty

structure Outcome where
  exitCode : UInt32
  output : String
  report : List String
  deriving DecidableEq

def run (args : List String) (env : Environment) (files : Files) : Outcome :=
  match requestOf args env >>= answer files with
  | .ok document => { exitCode := 0, output := document ++ "\n", report := [] }
  | .error failure => { exitCode := 1, output := "", report := failure.report }

end RangeLab.CommandLine
