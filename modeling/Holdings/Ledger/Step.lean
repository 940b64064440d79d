/-
# Steps

A script is a row of steps; each is one command, and may bind its result to a name.  A step is run in the
world that the one before left, with an empty journal.  It gives a value or fails, and a name is
bound only to a value.
-/
import Holdings.Ledger.Methods

namespace Holdings.Ledger

open Act

/-! ## 1. Commands -/

/-- What a step does. -/
inductive Command where
  | build (kind : EntityKind) (args : List Term) (named : List (String × Term))
  | eval (t : Term)
  | make (m : Maker) (args : List Term)
  | call (on : Term) (m : Method) (args : List Term)
  | operate (op : BinaryOp) (a b : Term)
  | negate (a : Term)
  | update (op : BinaryOp) (name : String) (b : Term)
  | get (on : Term) (field : String)
  | set (on : Term) (field : String) (value : Term)
  | display (on : Term)
  | same (a b : Term)
  | countDistinct (values : List Term)
  | roundTrip (on : Term)
  | setVariable (name : String) (value : Term)
  | writeEnvFile (text : String)
  | currentSettings
  | clearSettings
  | configure (named : List (String × Term))
  | setUp (args : List Term)
  | logState
  deriving Inhabited

/-! ## 2. Settings and the log -/

/-- The settings in use; they are made when they are first asked for. -/
def currentSettings : Act Nat := do
  let w ← get
  match w.current with
  | some r => return r
  | none =>
    let r ← newSettings (← findSettings [])
    modify fun w => { w with current := some r }
    return r

/-- Sets a variable of the environment to a text, or takes it away. -/
def setVariable (name : String) (v : Item) : Act Item := do
  let w ← get
  let e ← match v with
    | .null => pure (w.environment.dropVariable name)
    | .text s => perform (w.environment.setVariable name s)
    | _ => throw .wrongKind
  set { w with environment := e }
  return .null

/-- The state of the log as plain data. -/
def logState : Act Item := do return (← get).logging.toValue

/-- Sets output and level of the log. -/
def configureLog (level : Datum) (json : Bool) : Act Item := do
  let w ← get
  let (result, logging) := w.logging.configure level json
  set { w with logging := logging }
  perform result
  logState

/-- Sets the log by named values. -/
def configureNamed (named : List (String × Item)) : Act Item := do
  if !named.all (fun p => p.1 == "level" || p.1 == "log_json") then throw .wrongKind
  let level ← datum ((named.lookup "level").getD (.int Threshold.warning))
  configureLog level ((named.lookup "log_json").getD (.bool false)).isTruthy

/-- Sets the log by settings that are given, or by those in use. -/
def setUpLog (args : List Item) : Act Item := do
  let given ←
    match args with
    | [] => pure .null
    | [v] => pure v
    | _ => throw .wrongKind
  let r ←
    if given.isTruthy then
      match given with
      | .object (.settings r) => pure r
      | _ => throw .noAttribute
    else currentSettings
  let s := (← get).heap.settings.get r
  configureLog (.ofPlain s.logLevel) s.logJson.isTruthy

/-! ## 3. Running -/

/-- Changes a variable by an operator in place.  A list that grows does so under all its names. -/
def updateVariable (op : BinaryOp) (name : String) (v : Binding) (w : Item) : Act Item := do
  match extend? op v.value w with
  | some grown =>
    let xs ← perform grown
    rebindOrigin v.origin xs
    return xs
  | none =>
    let result ← operateInPlace op v.value w
    bindVariable name result (← newOrigin)
    return result

/-- The act of a command. -/
def Command.act : Command → Act Item
  | build kind args named => do
    let args ← Term.evalAll args
    let named ← Term.evalEntries named
    Ledger.build kind args named
  | eval t => t.eval
  | make m args => do Ledger.make m (← Term.evalAll args)
  | call on m args => do
    let v ← on.eval
    let args ← Term.evalAll args
    callMethod v m args
  | operate op a b => do
    let v ← a.eval
    let w ← b.eval
    Ledger.operate op v w
  | negate a => do Ledger.negate (← a.eval)
  | update op name b => do
    let v ← readBinding name
    updateVariable op name v (← b.eval)
  | get on field => do readAttribute (← on.eval) field
  | set on field value => do
    let target ← on.eval
    let v ← value.eval
    setAttribute target field v
  | display on => do Ledger.display (← on.eval)
  | same a b => do
    let v ← a.eval
    let w ← b.eval
    return .bool (isSame ⟨v, ← a.origin⟩ ⟨w, ← b.origin⟩)
  | countDistinct values => do
    let vs ← Term.evalAll values
    return .int (← perform (Ledger.countDistinct (← getThe World).heap vs))
  | roundTrip on => do Ledger.roundTrip (← on.eval)
  | setVariable name value => do Ledger.setVariable name (← value.eval)
  | writeEnvFile text => do
    modify fun w => { w with environment := w.environment.writeFile text }
    return .null
  | currentSettings => do return .object (.settings (← Ledger.currentSettings))
  | clearSettings => do
    modify fun w => { w with current := none }
    return .null
  | configure named => do configureNamed (← Term.evalEntries named)
  | setUp args => do setUpLog (← Term.evalAll args)
  | logState => Ledger.logState

/-- Where the result of a command comes from, right after it. -/
def Command.origin : Command → Act Origin
  | eval t => t.origin
  | get on field => on.originOfPart field
  | call on .code _ => on.originOfPart "code_value"
  | update _ name _ => do return (← readBinding name).origin
  | _ => newOrigin

/-- A command, and the name for its result. -/
structure Step where
  command : Command
  name : Option String
  deriving Inhabited

/-- The result of a step and the world after it. -/
def Step.run (s : Step) (w : World) : Except Fault Item × World :=
  let act : Act Item := do
    let v ← s.command.act
    if let some name := s.name then bindVariable name v (← s.command.origin)
    return v
  match act { w with journal := [], notices := [] } with
  | .ok v w => (.ok v, w)
  | .error f w => (.error f, w)

/-- The results of steps, each with the world after it. -/
def runSteps (w : World) : List Step → List (Except Fault Item × World)
  | [] => []
  | s :: rest =>
    let r := s.run w
    r :: runSteps r.2 rest

/-- The world after steps. -/
def World.after (w : World) (steps : List Step) : World :=
  steps.foldl (fun w s => (s.run w).2) w

end Holdings.Ledger
