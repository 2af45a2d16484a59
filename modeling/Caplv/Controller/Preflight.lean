import Caplv.Controller.Op

namespace Caplv.Controller

open Text Api Libvirt Scope Program

def setTerminalError (reason : Reason) (message : String) : StatusFn Unit := fun status => do
  ask (.recordFailure reason message)
  .done ((), status.recordFailure reason message)

def terminalMessage (operation : String) (err : GoError) : String :=
  "terminal error during " ++ operation ++ ": " ++ err.message

-- A terminal error is recorded and nil returned; any other error is returned for retry.
def handleLibvirtError {α : Type} (err : GoError) (operation : String) : StepBody α :=
  if err.isTerminal then do
    Body.call (onStatus (setTerminalError .specMismatch (terminalMessage operation err)))
    Body.leave none
  else Body.leave (some (.wrap ("error during " ++ operation) err))

def clientCall (rc : ReconcileCtx) (call : ClientCall) : StepBody (Except GoError call.Result) :=
  issue (.client rc.hostKey call)

-- A client call whose error ends the step through handleLibvirtError.
def callOrHandle (rc : ReconcileCtx) (call : ClientCall) (operation : String) :
    StepBody call.Result := do
  match ← clientCall rc call with
  | .ok value => pure value
  | .error err => handleLibvirtError err operation

def updateStatus {ρ : Type} (f : LibvirtMachineStatus → LibvirtMachineStatus) :
    Body signature RunState ρ Unit :=
  Body.modify fun st => { st with status := f st.status }

def createClients (deps : Deps) (host : LibvirtHost) : Prog signature (Except GoError Unit) :=
  match host.secretRef with
  | none => .done (.error (.text ("LibvirtHost " ++ host.name ++ " has no secretRef configured")))
  | some ref => do
      let secretNS := if ref.namespaceName = "" then host.namespaceName else ref.namespaceName
      match ← ask (.getSecret ⟨secretNS, ref.name⟩) with
      | .error err => .done (.error (.wrap "failed to get SSH secret" (.api err)))
      | .ok _ =>
        match localConnectionURI deps host.uri with
        | .error err => .done (.error (.wrap "invalid libvirt connection URI" err))
        | .ok _ =>
          match ← ask (.dialSSH (LibvirtHost.key host)) with
          | .error err => .done (.error (.wrap "failed to create SSH client" err))
          | .ok _ => .done (.ok ())

-- The result and error reconcileNormal returns with, or none to go on.
def ensureBootstrapData (lm : LibvirtMachine) (machine : Machine) :
    StatusFn (Option (Result × Option GoError)) := fun status =>
  let notReady (message : String) :=
    status.setCondition lm.generation .bootstrapDataReady false .bootstrapDataNotReady message
  match machine.bootstrapDataSecretName with
  | none =>
    .done (some (⟨bootstrapNotReadyRequeueInterval⟩, none), notReady "Waiting for bootstrap data secret")
  | some secretName => do
      match ← ask (.getSecret ⟨machine.namespaceName, secretName⟩) with
      | .error err =>
        if err.isNotFound then
          .done (some (⟨bootstrapNotReadyRequeueInterval⟩, none),
            notReady ("Bootstrap secret " ++ quote secretName ++ " not found"))
        else
          .done (some ({}, some (.wrap "failed to check bootstrap secret" (.api err))), status)
      | .ok _ =>
        .done (none, status.setCondition lm.generation .bootstrapDataReady true .bootstrapDataReady
          "Bootstrap data secret is available")

-- Sizes taken from the host's capacity have to be positive.
def checkSizes (host : LibvirtHost) (vcpus memoryMB : Int) :
    StatusFn (Except Result (Int × Int)) := fun status =>
  if vcpus ≤ 0 ∨ memoryMB ≤ 0 then do
    let out ← setTerminalError .storageInsufficient ("host " ++ host.name ++
      " has insufficient available resources: " ++ toString vcpus ++ " vCPUs, " ++
      toString memoryMB ++ " MB") status
    .done (.error {}, out.2)
  else .done (.ok (vcpus, memoryMB), status)

-- The sizes to use, or the result reconcileNormal returns with.
def resolveAutoSizing (lm : LibvirtMachine) (host : LibvirtHost) :
    StatusFn (Except Result (Int × Int)) := fun status =>
  let vcpus := lm.spec.domain.vcpus
  let memoryMB := lm.spec.domain.memoryMB
  if vcpus = 0 ∨ memoryMB = 0 then
    match host.capacity with
    | none => .done (.error ⟨hostNotReadyRequeueInterval⟩, status)
    | some capacity =>
      checkSizes host (if vcpus = 0 then capacity.availableVCPUs else vcpus)
        (if memoryMB = 0 then capacity.availableMemoryMB else memoryMB) status
  else .done (.ok (vcpus, memoryMB), status)

def preflightSessionMode (deps : Deps) (rc : ReconcileCtx) : Fn signature RunState Unit :=
  match localConnectionURI deps rc.libvirtHost.uri with
  | .ok .session =>
    if rc.spec.network.type = .network then
      let message := "Host " ++ quote rc.libvirtHost.name ++ " uses session-mode libvirt (" ++
        rc.libvirtHost.uri ++ "), which cannot attach machines to libvirt-managed networks; " ++
        "use network.type=bridge or a /system host"
      Body.run do
        Body.call (onStatus (setTerminalError .networkTypeUnsupported message))
        updateStatus fun status => status.setCondition rc.libvirtMachine.generation
          .infrastructureReady false .networkTypeUnsupported message
    else fun st => .done ((), st)
  | _ => fun st => .done ((), st)

structure RequiredPool where
  name : String
  label : String
  reason : Reason
deriving DecidableEq, Repr

-- The closure `add` of preflightPools: empty and repeated names are dropped.
def addRequired (required : List RequiredPool) (pool : RequiredPool) : List RequiredPool :=
  if pool.name = "" ∨ pool.name ∈ required.map RequiredPool.name then required
  else required ++ [pool]

def referencedPools (rc : ReconcileCtx) : List RequiredPool :=
  (match rc.libvirtCluster.baseImage with
    | some baseImage => [⟨baseImage.pool, "base image", .baseImagePoolNotFound⟩]
    | none => []) ++
  [⟨rc.baseImagePool, "base image", .baseImagePoolNotFound⟩] ++
  (if rc.spec.rootDisk.ephemeralPool then []
    else [⟨rc.spec.rootDisk.storagePool, "root disk", .storagePoolNotFound⟩]) ++
  rc.spec.additionalDisks.map fun disk =>
    ⟨disk.storagePool, "additional disk", .storagePoolNotFound⟩

def requiredPools (rc : ReconcileCtx) : List RequiredPool :=
  (referencedPools rc).foldl addRequired []

def missingPoolMessage (rc : ReconcileCtx) (pool : RequiredPool) : String :=
  "Storage pool " ++ quote pool.name ++ " (" ++ pool.label ++ ") does not exist on host " ++
    quote rc.libvirtHost.name ++ "; create it on the host or point the spec at an existing pool"

def preflightPool (rc : ReconcileCtx) (pool : RequiredPool) : StepBody Unit := do
  let found ← callOrHandle rc (.poolExists pool.name) ("checking " ++ pool.label ++ " pool")
  if found then pure ()
  else do
    Body.call (onStatus (setTerminalError pool.reason (missingPoolMessage rc pool)))
    updateStatus fun status => status.setCondition rc.libvirtMachine.generation
      .infrastructureReady false pool.reason (missingPoolMessage rc pool)
    Body.leave none

def eachInOrder {α : Type} (f : α → StepBody Unit) : List α → StepBody Unit
  | [] => pure ()
  | a :: rest => do
      f a
      eachInOrder f rest

-- A step ends with a nil error when its body falls through.
def stepFn (body : StepBody Unit) : StepFn := Body.run do
  body
  pure none

def preflightPools (rc : ReconcileCtx) : StepFn :=
  stepFn (eachInOrder (preflightPool rc) (requiredPools rc))

end Caplv.Controller
