import Caplv.Controller.Preflight

namespace Caplv.Controller

open Text Api Libvirt Scope Program

abbrev DeleteBody (α : Type) := Body signature LibvirtMachine Return α

-- A deletion whose target may already be gone; any other error is returned for retry.
def deleteCall (host : LibvirtHost) (call : ClientCall) (what : String) : DeleteBody Unit := do
  match ← issue (.client (LibvirtHost.key host) call) with
  | .ok _ => pure ()
  | .error err => if err.isNotFound then pure () else Body.leave ({}, some (.wrap what err))

def stallCleanup (message : String) : DeleteBody Unit := do
  Body.modify fun lm => lm.setCondition .cleanupStalled true .cleanupStalled message
  Body.leave (⟨cleanupStalledRequeueInterval⟩, none)

def deleteDomain (scope : MachineScope) : DeleteBody Unit := do
  deleteCall scope.libvirtHost (.destroyDomain scope.domainName) "failed to destroy domain"
  deleteCall scope.libvirtHost (.undefineDomain scope.domainName) "failed to undefine domain"

-- The pool reconcileDelete looks for the root disk and the ISO in.
def deletionPool (scope : MachineScope) : String :=
  if scope.libvirtMachine.spec.rootDisk.ephemeralPool then scope.ephemeralPoolName
  else scope.libvirtMachine.spec.rootDisk.storagePool

def deleteBootstrapArtifacts (scope : MachineScope) : DeleteBody Unit :=
  match scope.libvirtMachine.spec.bootstrapFormat with
  | .ignition => do
      -- an error is logged as non-fatal
      let _ ← issue (.client (LibvirtHost.key scope.libvirtHost) (.deleteRemoteFile scope.ignitionFilePath))
      pure ()
  | .cloudInit =>
    deleteCall scope.libvirtHost (.deleteVolume (deletionPool scope) scope.bootstrapISOName)
      "failed to delete cloud-init ISO"
  | .other _ => pure ()

def deleteAdditionalDisks (scope : MachineScope) : List AdditionalDiskSpec → DeleteBody Unit
  | [] => pure ()
  | disk :: rest => do
      let volName := scope.additionalDiskVolumeName disk
      deleteCall scope.libvirtHost (.deleteVolume disk.storagePool volName)
        ("failed to delete additional disk " ++ volName)
      deleteAdditionalDisks scope rest

def deleteEphemeralPool (scope : MachineScope) : DeleteBody Unit :=
  if scope.libvirtMachine.spec.rootDisk.ephemeralPool then
    deleteCall scope.libvirtHost (.destroyPool scope.ephemeralPoolName)
      "failed to destroy ephemeral pool"
  else pure ()

-- An error of the read or of the deletion does not stop the cleanup.
def deleteNodeObject (nodeName : String) : DeleteBody Unit := do
  match ← issue (.getNode nodeName) with
  | .error _ => pure ()
  | .ok _ => do
      let _ ← issue (.deleteNode nodeName)
      pure ()

def cleanUp (scope : MachineScope) : DeleteBody Unit := do
  deleteDomain scope
  deleteCall scope.libvirtHost (.deleteVolume (deletionPool scope) scope.rootDiskVolumeName)
    "failed to delete root disk"
  deleteBootstrapArtifacts scope
  deleteAdditionalDisks scope scope.libvirtMachine.spec.additionalDisks
  deleteEphemeralPool scope
  deleteNodeObject scope.domainName

def reconcileDeleteBody (deps : Deps) (lm : LibvirtMachine) (cluster : Cluster) (host : LibvirtHost) :
    DeleteBody Return := do
  Body.leaveIf (!lm.containsFinalizer) ({}, none)
  (if host.ready then pure ()
    else stallCleanup "Cannot clean up: LibvirtHost is not reachable")
  (match ← Body.lift (createClients deps host) with
    | .ok _ => pure ()
    | .error err => stallCleanup ("Cannot clean up: " ++ err.message))
  cleanUp ⟨cluster, lm, host⟩
  Body.modify LibvirtMachine.removeFinalizer
  pure ({}, none)

def reconcileDelete (deps : Deps) (lm : LibvirtMachine) (cluster : Cluster) (host : LibvirtHost) :
    Prog signature (Return × LibvirtMachine) :=
  (reconcileDeleteBody deps lm cluster host).run lm

end Caplv.Controller
