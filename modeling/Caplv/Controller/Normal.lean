import Caplv.Controller.Steps

namespace Caplv.Controller

open Text Api Libvirt Scope Program

def insertSorted (key : String) : List String → List String
  | [] => [key]
  | head :: rest => if key ≤ head then key :: head :: rest else head :: insertSorted key rest

def sortStrings (keys : List String) : List String := keys.foldr insertSorted []

def formatManagedKeys (m : StringMap) : String :=
  String.intercalate "," (sortStrings (m.map Prod.fst))

-- strings.Split on commas, without the empty parts.
def splitKeys : List Char → List Char → List String
  | current, [] => if current = [] then [] else [String.ofList current.reverse]
  | current, c :: rest =>
    if c = ',' then
      if current = [] then splitKeys [] rest
      else String.ofList current.reverse :: splitKeys [] rest
    else splitKeys (c :: current) rest

def parseManagedKeys (s : String) : List String := splitKeys [] s.toList

-- Drop the keys CAPLV managed that are no longer wanted, then write the wanted ones.
def replaceManaged (current desired : StringMap) (managed : List String) : StringMap :=
  ((managed.filter fun key => (desired.get? key).isNone).foldl StringMap.delete current).copy desired

def setManagedKeys (annotations : StringMap) (key : String) (desired : StringMap) : StringMap :=
  if desired.length > 0 then annotations.set key (formatManagedKeys desired)
  else annotations.delete key

def labelledNode (spec : LibvirtMachineSpec) (node : Node) : Node :=
  let labels := replaceManaged node.labels spec.nodeLabels
    (parseManagedKeys (node.annotations.index managedNodeLabelsAnnotation))
  let annotations := replaceManaged node.annotations spec.nodeAnnotations
    (parseManagedKeys (node.annotations.index managedNodeAnnotationsAnnotation))
  let annotations := setManagedKeys annotations managedNodeLabelsAnnotation spec.nodeLabels
  let annotations := setManagedKeys annotations managedNodeAnnotationsAnnotation spec.nodeAnnotations
  { node with labels := labels, annotations := annotations }

def reconcileNodeLabels (lm : LibvirtMachine) (nodeName : String) : StatusFn Return := fun status =>
  if lm.spec.nodeLabels.length = 0 ∧ lm.spec.nodeAnnotations.length = 0 then
    .done (({}, none), status.removeCondition .nodeLabelled)
  else do
    match ← ask (.getNode nodeName) with
    | .error err =>
      if err.isNotFound then
        .done ((⟨nodeJoinRequeueInterval⟩, none),
          status.setCondition lm.generation .nodeLabelled false .nodeNotJoined
            ("waiting for Node " ++ quote nodeName ++ " to join the cluster"))
      else .done (({}, some (.wrap ("failed to get Node " ++ quote nodeName) (.api err))), status)
    | .ok node =>
      match ← ask (.patchNode nodeName (labelledNode lm.spec node)) with
      | .error err =>
        .done (({}, some (.wrap ("failed to patch Node " ++ quote nodeName) (.api err))), status)
      | .ok _ =>
        .done (({}, none), status.setCondition lm.generation .nodeLabelled true .nodeLabelled
          "Node labels and annotations applied")

abbrev NormalBody (α : Type) := Body signature RunState Return α

-- `if err := step(ctx, rc); err != nil { return ctrl.Result{}, err }`
def runStep (step : StepFn) : NormalBody Unit := do
  match ← Body.call step with
  | some err => Body.leave ({}, some err)
  | none => pure ()

def stopIfFailed : NormalBody Unit := do
  Body.leaveIf (← Body.get).status.failureReason.isSome ({}, none)

def managedArtifacts (deps : Deps) (rc : ReconcileCtx) (st : RunState) : ManagedArtifacts :=
  { domainName := rc.domainName
    rootDiskVolume := rc.rootDiskVolume
    nvramPath := rc.nvramPath deps
    additionalDiskVolumes := st.additionalDiskVolumes
    ignitionFile := if rc.spec.bootstrapFormat = .ignition then rc.ignitionFilePath else ""
    bootstrapISO := if rc.spec.bootstrapFormat = .cloudInit then rc.bootstrapISO else ""
    ephemeralPoolName :=
      if rc.spec.rootDisk.ephemeralPool then rc.machineScope.ephemeralPoolName else "" }

def markReady (deps : Deps) (rc : ReconcileCtx) (domainInfo : DomainInfo) (st : RunState) :
    RunState :=
  let status := { st.status with
    addresses := rc.machineScope.getAddresses
    managedArtifacts := some (managedArtifacts deps rc st)
    domainState := domainInfo.state
    domainUUID := domainInfo.uuid
    ready := true }
  { st with
    providerID := some rc.machineScope.providerID
    status := status.setCondition rc.libvirtMachine.generation .infrastructureReady true
      .provisioned "Machine infrastructure is ready" }

-- Steps -3 and -2: nothing on the host is changed before these have passed.
def preflight (deps : Deps) (rc : ReconcileCtx) : NormalBody Unit := do
  Body.call (preflightSessionMode deps rc)
  stopIfFailed
  runStep (preflightPools rc)
  stopIfFailed

-- Steps -1 to 3.5. The caller marks the start of the first.
def prepareArtifacts (deps : Deps) (rc : ReconcileCtx) : NormalBody Unit := do
  runStep (reconcileBaseImage deps rc)
  issue (.enter .rootDisk)
  runStep (reconcileRootDisk rc)
  issue (.enter .bootstrapArtifacts)
  runStep (reconcileBootstrapArtifacts deps rc)
  issue (.enter .additionalDisks)
  runStep (reconcileAdditionalDisks rc)
  issue (.enter .bootArtifacts)
  runStep (reconcileBootArtifacts deps rc)

-- Steps 4 and 5. A nil domain info means that a terminal failure was recorded.
def bringUpDomain (deps : Deps) (rc : ReconcileCtx) : NormalBody DomainInfo := do
  issue (.enter .domain)
  match ← Body.call (reconcileDomain deps rc) with
  | .error err => Body.leave ({}, some err)
  | .ok none => Body.leave ({}, none)
  | .ok (some domainInfo) => pure domainInfo

def hostWork (deps : Deps) (rc : ReconcileCtx) : NormalBody Return := do
  prepareArtifacts deps rc
  let domainInfo ← bringUpDomain deps rc
  Body.modify (markReady deps rc domainInfo)
  Body.call (onStatus (reconcileNodeLabels rc.libvirtMachine rc.domainName))

def provision (deps : Deps) (rc : ReconcileCtx) : Fn signature RunState Return := Body.run do
  preflight deps rc
  issue (.enter .baseImage)
  hostWork deps rc

namespace ReconcileCtx

variable (rc : ReconcileCtx)

def initialState (status : LibvirtMachineStatus) : RunState :=
  { status := status
    providerID := rc.spec.providerID
    storagePool := rc.spec.rootDisk.storagePool }

-- The object in memory when the steps have left `st`.
def object (st : RunState) : LibvirtMachine :=
  { rc.libvirtMachine with
    spec := { rc.spec with providerID := st.providerID }
    status := st.status }

end ReconcileCtx

def reconcileNormal (deps : Deps) (fetched : LibvirtMachine) (machine : Machine) (cluster : Cluster)
    (libvirtCluster : LibvirtCluster) (host : LibvirtHost) :
    Prog signature (Return × LibvirtMachine) :=
  let lm := fetched.addFinalizer
  if !host.ready then
    .done ((⟨hostNotReadyRequeueInterval⟩, none),
      lm.setCondition .hostReachable false .hostNotReady "LibvirtHost is not ready")
  else do
    match ← createClients deps host with
    | .error err => .done (({}, some (.wrap "failed to create clients" err)), lm)
    | .ok _ =>
      let bootstrap ← ensureBootstrapData lm machine lm.status
      match bootstrap.1 with
      | some early => .done (early, { lm with status := bootstrap.2 })
      | none =>
        let sizing ← resolveAutoSizing lm host bootstrap.2
        match sizing.1 with
        | .error result => .done ((result, none), { lm with status := sizing.2 })
        | .ok (vcpus, memoryMB) =>
          let rc : ReconcileCtx := ⟨lm, machine, cluster, libvirtCluster, host, vcpus, memoryMB⟩
          let out ← provision deps rc (rc.initialState sizing.2)
          .done (out.1, rc.object out.2)

end Caplv.Controller
