import Caplv.Controller.Delete
import Caplv.Webhook.Machine

namespace Caplv.Controller

open Text Api Libvirt Scope Program

-- Two views of one machine that agree on what its artifacts are computed from.
structure SameMachine (scope other : MachineScope) : Prop where
  base : other.artifactBaseName = scope.artifactBaseName
  rootDisk : other.libvirtMachine.spec.rootDisk = scope.libvirtMachine.spec.rootDisk
  disks : other.libvirtMachine.spec.additionalDisks = scope.libvirtMachine.spec.additionalDisks
  format : other.libvirtMachine.spec.bootstrapFormat = scope.libvirtMachine.spec.bootstrapFormat

-- The object as later reconciles read it, after updates that ValidateUpdate lets through and
-- updates that leave the spec alone.
inductive Version (obj : LibvirtMachine) : LibvirtMachine → Prop where
  | created : Version obj obj
  | updated {old new : LibvirtMachine} (h : Version obj old) (hkey : new.key = old.key)
      (hvalid : Webhook.validateUpdate old new = .ok () ∨ new.spec = old.spec) : Version obj new

section SameMachine

variable {scope other : MachineScope} {obj lm : LibvirtMachine}

theorem SameMachine.symm (h : SameMachine scope other) : SameMachine other scope :=
  ⟨h.base.symm, h.rootDisk.symm, h.disks.symm, h.format.symm⟩

theorem SameMachine.rootDiskVolumeName (h : SameMachine scope other) :
    other.rootDiskVolumeName = scope.rootDiskVolumeName := congrArg (· ++ "-root.qcow2") h.base

theorem SameMachine.deletionPool (h : SameMachine scope other) :
    Controller.deletionPool other = Controller.deletionPool scope := by
  have hpool : other.ephemeralPoolName = scope.ephemeralPoolName := congrArg (· ++ "-pool") h.base
  rw [Controller.deletionPool, Controller.deletionPool, h.rootDisk, hpool]

theorem Version.spec (h : Version obj lm) :
    { lm.spec with providerID := none } = { obj.spec with providerID := none } := by
  induction h with
  | created => rfl
  | updated h hkey hvalid ih =>
    rcases hvalid with hvalid | hsame
    · exact (Webhook.validateUpdate_spec hvalid).trans ih
    · rw [hsame]
      exact ih

theorem Version.key (h : Version obj lm) : lm.key = obj.key := by
  induction h with
  | created => rfl
  | updated h hkey hvalid ih => exact hkey.trans ih

theorem Version.addFinalizer (h : Version obj lm) : Version obj lm.addFinalizer := by
  refine h.updated ?_ (.inr lm.addFinalizer_spec)
  rw [LibvirtMachine.addFinalizer]
  split <;> rfl

theorem Version.same {lm : LibvirtMachine} (h : Version scope.libvirtMachine lm) {cluster : Cluster}
    (hcluster : cluster.name = scope.cluster.name) (host : LibvirtHost) :
    SameMachine scope ⟨cluster, lm, host⟩ := by
  have hkey := ObjectKey.mk.inj h.key
  refine ⟨?_, congrArg (·.rootDisk) h.spec, congrArg (·.additionalDisks) h.spec,
    congrArg (·.bootstrapFormat) h.spec⟩
  rw [MachineScope.artifactBaseName, MachineScope.artifactBaseName, hcluster, hkey.1, hkey.2]

end SameMachine

end Caplv.Controller
