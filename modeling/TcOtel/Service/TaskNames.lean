import TcOtel.Client.Scalar
import TcOtel.Service.PollSuspension

/-!
# The names of the tasks

`DiagnosticsPoller` starts with the task names of the configuration and asks the runtimes for those of
their task ports. The configured names are to take precedence, but an answer is written over them.
-/

namespace TcOtel.Service.Polling

open Decoding Ads

/-- A target with the names that are configured for its task ports, in the order of the map. -/
structure NamedTarget extends TargetConfig where
  taskNames : List (UInt16 × String)

abbrev TaskPort := AmsNetId × UInt16

def configuredNames (targets : List NamedTarget) : List (TaskPort × String) :=
  targets.flatMap fun target => target.taskNames.map fun entry => ((target.netId, entry.1), entry.2)

def parseDeviceInfoName (body : List UInt8) : Option String :=
  if body.length < 24 then none
  else if leNat (body.take 4) ≠ 0 then none
  else
    (fromUtf8 (((body.drop 8).take 16).takeWhile (· ≠ 0))).bind fun text =>
      let name := (text.toList.dropWhile Client.isWhitespace).rdropWhile Client.isWhitespace
      if name = [] then none else some (String.ofList name)

/-- What `DiagnosticsPoller` knows about names. -/
structure TaskNames where
  invokeCounter : UInt32
  taskNames : HashMap TaskPort String
  /-- The ports that were asked for their names, by the invoke ids of the requests. -/
  pendingDeviceInfo : HashMap UInt32 TaskPort

inductive NameEvent where
  /-- A poll takes an invoke id. -/
  | poll
  /-- `discover_task_names` asks a port. -/
  | ask (task : TaskPort)
  | response (payload : List UInt8)

namespace TaskNames

def new (targets : List NamedTarget) : TaskNames := ⟨1, .ofList (configuredNames targets), ∅⟩

/-- The name under which the bridge reports a task. -/
def reportedName (s : TaskNames) (task : TaskPort) : String := (s.taskNames.lookup task).getD s!"port-{task.2}"

variable (localNetId : AmsNetId) (s : TaskNames)

/-- The request that a response answers, its port and the name that it gives. -/
def answered (payload : List UInt8) : Option (UInt32 × TaskPort × Option String) :=
  match AmsHeader.parse payload with
  | .error _ => none
  | .ok header =>
    if header.targetNetId ≠ localNetId then none
    else if payload.length < 32 then none
    else if header.commandId = adsCmdReadDeviceInfo then
      (s.pendingDeviceInfo.lookup header.invokeId).map fun task =>
        (header.invokeId, task, parseDeviceInfoName (payload.drop 32))
    else none

/-- `on_response`. Other responses are for the observer. -/
def onResponse (payload : List UInt8) : TaskNames :=
  match s.answered localNetId payload with
  | none => s
  | some (invokeId, task, name) =>
    { s with
      pendingDeviceInfo := s.pendingDeviceInfo.erase invokeId
      taskNames := name.elim s.taskNames (s.taskNames.insert task) }

def step : NameEvent → TaskNames
  | .poll => { s with invokeCounter := s.invokeCounter + 1 }
  | .ask task =>
    { s with
      invokeCounter := s.invokeCounter + 1
      pendingDeviceInfo := s.pendingDeviceInfo.insert s.invokeCounter task }
  | .response payload => s.onResponse localNetId payload

def run (events : List NameEvent) : TaskNames := events.foldl (step localNetId) s

/-- The name that an event brings in. -/
def discovery : NameEvent → Option (TaskPort × String)
  | .response payload => (s.answered localNetId payload).bind fun answer => answer.2.2.map (answer.2.1, ·)
  | .poll | .ask _ => none

def discovered (s : TaskNames) : List NameEvent → List (TaskPort × String)
  | [] => []
  | event :: events => (s.discovery localNetId event).toList ++ (s.step localNetId event).discovered events

/-- A task with a configured name is reported under it. -/
def KeepsName (targets : List NamedTarget) (events : List NameEvent) (task : TaskPort) : Prop :=
  ∀ name, HashMap.lastValue task (configuredNames targets) = some name →
    ((new targets).run localNetId events).reportedName task = name

variable {localNetId s}

theorem taskNames_step : (s.step localNetId event).taskNames =
    HashMap.insertAll s.taskNames (s.discovery localNetId event).toList := by
  cases event with
  | poll | ask => rfl
  | response payload =>
    rw [step, onResponse, discovery]
    cases s.answered localNetId payload with
    | none => rfl
    | some answer =>
      obtain ⟨invokeId, task, name⟩ := answer
      cases name <;> rfl

theorem taskNames_run (events : List NameEvent) : (s.run localNetId events).taskNames =
    HashMap.insertAll s.taskNames (s.discovered localNetId events) := by
  induction events generalizing s with
  | nil => rfl
  | cons event events ih =>
    rw [discovered, HashMap.insertAll_append, ← taskNames_step, ← ih]
    rfl

def samplePlc : AmsNetId := ⟨[5, 9, 8, 7, 1, 1], rfl⟩

def sampleTargets : List NamedTarget := [⟨.withDefaults samplePlc, [(350, "Control")]⟩]

/-- The runtime is asked for the name of the port, and gives that of its own. -/
def sampleEvents (localNetId : AmsNetId) : List NameEvent :=
  let header : AmsHeader := ⟨localNetId, pollerSourcePort, samplePlc, 350, adsCmdReadDeviceInfo, 5, 24, 0, 1⟩
  [.ask (samplePlc, 350),
    .response (header.serialize ++ ([0, 0, 0, 0, 3, 1, 0, 0] ++ utf8Bytes "PlcTask" ++ List.replicate 9 0))]

end TaskNames

end TcOtel.Service.Polling
