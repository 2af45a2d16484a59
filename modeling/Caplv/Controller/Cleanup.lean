import Caplv.Controller.Provision

namespace Caplv.Controller

open Text Api Libvirt Scope Program

inductive DeleteCall (scope : MachineScope) : ClientCall → Prop where
  | destroyDomain : DeleteCall scope (.destroyDomain scope.domainName)
  | undefineDomain : DeleteCall scope (.undefineDomain scope.domainName)
  | deleteRoot : DeleteCall scope (.deleteVolume (deletionPool scope) scope.rootDiskVolumeName)
  | deleteIgnition (hformat : scope.libvirtMachine.spec.bootstrapFormat = .ignition) :
      DeleteCall scope (.deleteRemoteFile scope.ignitionFilePath)
  | deleteISO (hformat : scope.libvirtMachine.spec.bootstrapFormat = .cloudInit) :
      DeleteCall scope (.deleteVolume (deletionPool scope) scope.bootstrapISOName)
  | deleteDisk (disk : AdditionalDiskSpec) (hdisk : disk ∈ scope.libvirtMachine.spec.additionalDisks) :
      DeleteCall scope (.deleteVolume disk.storagePool (scope.additionalDiskVolumeName disk))
  | destroyPool (heph : scope.libvirtMachine.spec.rootDisk.ephemeralPool = true) :
      DeleteCall scope (.destroyPool scope.ephemeralPoolName)

def DeleteOp (scope : MachineScope) : Op → Prop
  | .client host call => host = LibvirtHost.key scope.libvirtHost ∧ DeleteCall scope call
  | .getNode name | .deleteNode name => name = scope.domainName
  | _ => False

section Rules

variable {scope : MachineScope} {replies : Replies signature} {inv : LibvirtMachine → Prop}

theorem deleteCall_keeps {call : ClientCall} (hcall : DeleteCall scope call) (what : String) :
    Body.Keeps replies (DeleteOp scope) inv (deleteCall scope.libvirtHost call what) := by
  refine Body.Keeps.perform_bind ⟨rfl, hcall⟩ fun reply _ => ?_
  cases reply with
  | ok value => exact Body.Keeps.pure _
  | error err => exact Body.Keeps.ite (fun _ => Body.Keeps.pure _) fun _ => Body.Keeps.leave _

theorem deleteBootstrapArtifacts_keeps :
    Body.Keeps replies (DeleteOp scope) inv (deleteBootstrapArtifacts scope) := by
  rw [deleteBootstrapArtifacts]
  split
  · exact Body.Keeps.perform_bind ⟨rfl, .deleteIgnition ‹_›⟩ fun _ _ => Body.Keeps.pure _
  · exact deleteCall_keeps (.deleteISO ‹_›) _
  · exact Body.Keeps.pure _

theorem deleteAdditionalDisks_keeps {disks : List AdditionalDiskSpec}
    (hdisks : ∀ disk ∈ disks, disk ∈ scope.libvirtMachine.spec.additionalDisks) :
    Body.Keeps replies (DeleteOp scope) inv (deleteAdditionalDisks scope disks) := by
  induction disks with
  | nil => exact Body.Keeps.pure _
  | cons disk rest ih =>
    refine (deleteCall_keeps (.deleteDisk disk (hdisks disk List.mem_cons_self)) _).bind fun _ => ?_
    exact ih fun other hother => hdisks other (List.mem_cons_of_mem _ hother)

theorem deleteEphemeralPool_keeps :
    Body.Keeps replies (DeleteOp scope) inv (deleteEphemeralPool scope) :=
  Body.Keeps.ite (fun heph => deleteCall_keeps (.destroyPool heph) _) fun _ => Body.Keeps.pure _

theorem deleteNodeObject_keeps :
    Body.Keeps replies (DeleteOp scope) inv (deleteNodeObject scope.domainName) := by
  refine Body.Keeps.perform_bind rfl fun node _ => ?_
  cases node with
  | error err => exact Body.Keeps.pure _
  | ok node => exact Body.Keeps.perform_bind rfl fun _ _ => Body.Keeps.pure _

theorem cleanUp_keeps : Body.Keeps replies (DeleteOp scope) inv (cleanUp scope) := by
  refine Body.Keeps.bind ((deleteCall_keeps .destroyDomain _).bind
    fun _ => deleteCall_keeps .undefineDomain _) fun _ => ?_
  refine (deleteCall_keeps .deleteRoot _).bind fun _ => ?_
  refine deleteBootstrapArtifacts_keeps.bind fun _ => ?_
  refine (deleteAdditionalDisks_keeps fun _ h => h).bind fun _ => ?_
  refine deleteEphemeralPool_keeps.bind fun _ => ?_
  exact deleteNodeObject_keeps

end Rules

end Caplv.Controller
