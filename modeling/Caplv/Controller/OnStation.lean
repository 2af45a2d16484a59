import Caplv.Controller.Naming
import Caplv.Controller.Retry
import Caplv.Libvirt.StationCalls
import Caplv.Program.Relay

namespace Caplv.Controller

open Text Api Libvirt Scope Program

-- A host behind SSH, and the Node objects of the cluster beside it.
structure Site where
  station : Station
  nodes : String → Option Node

structure Site.Represents (site : Site) (h : Host) : Prop where
  station : Libvirt.Represents site.station h
  nodes : ∀ name, site.nodes name = h (.node name)

-- The operations of a reconcile that go to the host do so in SSH sessions.
def overSSH (connURI : String) : (op : Op) → Option (Prog sessions (Except Panic (Reply op)))
  | .client _ call => some (Sessions.perform connURI call)
  | _ => none

def clusterAnswer (answers : (op : Op) → Reply op) (site : Site) : (op : Op) → Reply op × Site
  | .getNode name =>
    match site.nodes name with
    | some node => (.ok node, site)
    | none => (.error (.notFound ("nodes " ++ quote name ++ " not found")), site)
  | .patchNode name node =>
    match site.nodes name with
    | some _ => (.ok (), { site with nodes := Function.update site.nodes name (some node) })
    | none => (.error (.notFound ("nodes " ++ quote name ++ " not found")), site)
  | .deleteNode name =>
    match site.nodes name with
    | some _ => (.ok (), { site with nodes := Function.update site.nodes name none })
    | none => (.error (.notFound ("nodes " ++ quote name ++ " not found")), site)
  | op => (answers op, site)

def clusterMachine (answers : (op : Op) → Reply op) : Machine signature Site :=
  fun site op => clusterAnswer answers site op

def sessionMachine (daemon : Daemon) : Machine sessions Site := fun site op =>
  ((stationMachine daemon site.station op).1, { site with station := (stationMachine daemon site.station op).2 })

def siteMachine (daemon : Daemon) (answers : (op : Op) → Reply op) : Machine (signature.sum sessions) Site :=
  (clusterMachine answers).sum (sessionMachine daemon)

def ReadyOp (daemon : Daemon) (h : Host) : Op → Prop
  | .client _ call => Ready daemon h call
  | _ => True

section Relay

variable {daemon : Daemon} {answers : (op : Op) → Reply op} {site : Site} {h : Host}

theorem run_sessionMachine {α : Type} (prog : Prog sessions α) (site : Site) :
    run (sessionMachine daemon) prog site = ((run (stationMachine daemon) prog site.station).1,
      { site with station := (run (stationMachine daemon) prog site.station).2 }) := by
  induction prog generalizing site with
  | done value => rfl
  | ask op next ih => exact ih _ _

theorem represents_of_eq {above : Host} (hrep : Libvirt.Represents site.station h)
    (hsame : ∀ key, (∀ name, key ≠ .node name) → above key = h key) : Libvirt.Represents site.station above := by
  refine ⟨fun name => ?_, fun name => ?_, fun pool name => ?_, fun path => ?_, fun path hpath => ?_⟩
  · rw [hrep.domains, hsame (.domain name) (by simp)]
  · rw [hrep.pools, hsame (.pool name) (by simp)]
  · rw [hrep.volumes, hsame (.volume pool name) (by simp)]
  · rw [hrep.mounts, hsame (.mount path) (by simp)]
  · rw [hrep.files path hpath, hsame (.file path) (by simp)]

theorem setNode_represents (hrep : site.Represents h) (name : String) (node : Option Node) :
    Site.Represents { site with nodes := Function.update site.nodes name node }
      (Function.update h (.node name) node) := by
  refine ⟨represents_of_eq hrep.station fun key hkey => Function.update_of_ne (hkey name) .., fun other => ?_⟩
  by_cases hother : other = name
  · subst hother
    simp
  · simp [hother, hrep.nodes]

theorem clusterAnswer_refines (hrep : site.Represents h) {op : Op} (hop : overSSH daemon.uri op = none) :
    (clusterAnswer answers site op).1 = (hostAnswer daemon.newUUID answers h op).1 ∧
      (clusterAnswer answers site op).2.Represents (hostAnswer daemon.newUUID answers h op).2 := by
  cases op with
  | client host call => cases hop
  | getNode name =>
    rw [clusterAnswer, hostAnswer, hrep.nodes]
    cases h (.node name) with
    | none => exact ⟨rfl, hrep⟩
    | some node => exact ⟨rfl, hrep⟩
  | patchNode name node =>
    rw [clusterAnswer, hostAnswer, hrep.nodes]
    cases h (.node name) with
    | none => exact ⟨rfl, hrep⟩
    | some found => exact ⟨rfl, setNode_represents hrep name (some node)⟩
  | deleteNode name =>
    rw [clusterAnswer, hostAnswer, hrep.nodes]
    cases h (.node name) with
    | none => exact ⟨rfl, hrep⟩
    | some found => exact ⟨rfl, setNode_represents hrep name none⟩
  | _ => exact ⟨rfl, hrep⟩

theorem call_node (newUUID : DomainXML → String) (call : ClientCall) (name : String) :
    (h.call newUUID call).2 (.node name) = h (.node name) := by
  cases call <;>
    simp only [Host.call, Host.defineDomain, Host.startDomain, Host.destroyDomain, Host.undefineDomain,
      Host.startPool, Host.createTmpfsPool, Host.destroyPool, Host.unmount, Host.createVolume, Host.cloneVolume,
      Host.deleteVolume]
  all_goals repeat' split
  all_goals simp [filesUnder, volumesOf]

theorem perform_refines (hrep : site.Represents h) {op : Op} {prog : Prog sessions (Except Panic (Reply op))}
    (hop : overSSH daemon.uri op = some prog) (hready : ReadyOp daemon h op) :
    ∃ after, run (sessionMachine daemon) prog site = (.ok (hostAnswer daemon.newUUID answers h op).1, after) ∧
      after.Represents (hostAnswer daemon.newUUID answers h op).2 := by
  cases op with
  | client host call =>
    obtain rfl := Option.some.inj hop
    obtain ⟨after, hrun, hafter⟩ := client_refines hready hrep.station
    refine ⟨{ site with station := after }, ?_, hafter, fun name => ?_⟩
    · rw [run_sessionMachine, hrun]
      rfl
    · exact (hrep.nodes name).trans (call_node daemon.newUUID call name).symm
  | _ => cases hop

theorem run_overSSH {α : Type} {prog : Prog signature α} (hrep : site.Represents h)
    (hready : Holds (hostMachine daemon.newUUID answers).handler (ReadyOp daemon) (fun _ _ => True) prog h) :
    ∃ after, run (siteMachine daemon answers) (prog.relay (overSSH daemon.uri)) site =
        (.ok (run (hostMachine daemon.newUUID answers) prog h).1, after) ∧
      after.Represents (run (hostMachine daemon.newUUID answers) prog h).2 := by
  refine @run_relay _ _ _ _ _ _ (overSSH daemon.uri) (hostMachine daemon.newUUID answers) (clusterMachine answers)
    (sessionMachine daemon) Site.Represents (ReadyOp daemon) ?_ ?_ _ prog h site hready hrep
  · intro above below op hop hbelow _
    exact clusterAnswer_refines hbelow hop
  · intro above below op sent hop hbelow hguard
    exact perform_refines hbelow hop hguard

end Relay

-- A whole reconcile, or any other program of the controller, over SSH: where each call of the
-- client is issued in a state it is ready for, the bytes sent to the shell of the host and read
-- back from it amount to the calls of the client, and no expression of the client panics.
theorem runs_over_ssh (daemon : Daemon) (answers : (op : Op) → Reply op) {α : Type} (prog : Prog signature α)
    (site : Site) (h : Host) (hrep : site.Represents h)
    (hready : Holds (hostMachine daemon.newUUID answers).handler (ReadyOp daemon) (fun _ _ => True) prog h) :
    ∃ after, run (siteMachine daemon answers) (prog.relay (overSSH daemon.uri)) site =
        (.ok (run (hostMachine daemon.newUUID answers) prog h).1, after) ∧
      after.Represents (run (hostMachine daemon.newUUID answers) prog h).2 := run_overSSH hrep hready

def siteOf (h : Host) : Site where
  station :=
    { domains := fun name => h (.domain name)
      pools := fun name => h (.pool name)
      volumes := fun pool name => (h (.volume pool name)).map Volume.disk
      mounts := fun path => if (h (.mount path)).isSome then 1 else 0
      files := fun path => h (.file path)
      clock := 0 }
  nodes := fun name => h (.node name)

theorem siteOf_represents (h : Host) : (siteOf h).Represents h :=
  ⟨⟨fun _ => rfl, fun _ => rfl, fun _ _ => rfl, fun _ => rfl, fun _ _ => rfl⟩, fun _ => rfl⟩

def sampleDaemon : Daemon := ⟨"qemu:///system", sampleUUID⟩

def provisioning : Prog signature (Return × LibvirtMachine) :=
  reconcileNormal sampleDeps ephemeralMachine sampleOwner sampleCluster sampleLibvirtCluster sampleHost

def provisionedParams : DomainXMLParams :=
  { name := "ns-c-m", vcpus := 2, memoryKB := 2097152, machine := "q35", firmware := "uefi", firmwarePath := "",
    nvramPath := "", nvramTemplate := "", rootDiskPath := "/run/caplv/ns-c-m/ns-c-m-root.qcow2",
    rootDiskBus := "virtio", ignitionPath := "/run/caplv/ns-c-m/ignition.json", additionalDisks := [],
    networkType := "bridge", networkName := "br0", networkModel := "virtio", macAddress := "", kernelPath := "",
    initrdPath := "", kernelCmdline := "" }

def testReady (h : Host) : Op → Bool
  | .client _ (.domainExists name) | .client _ (.startDomain name) | .client _ (.poolExists name)
  | .client _ (.volumeExists _ name) => !isOption name
  | .client _ (.createTmpfsPool name path _) =>
    !isOption name && (h (.pool name)).isNone && (h (.mount path)).isNone
  | .client _ (.getVolumePath pool name) =>
    !isOption name && ((h (.pool pool)).all fun p => decide (Trimmed (p.path ++ "/" ++ name)))
  | .client _ (.createVolumeFromBackingStore pool name _ sizeBytes) =>
    !isOption pool && !isOption name && decide (0 ≤ sizeBytes)
  | .client _ (.writeRemoteFile path _) =>
    decide ('/' ∈ path.toList) && !temporary path && (h (.mount path)).isNone
  | .client _ (.defineDomain xmlDef) =>
    decide (xmlDef = domainDocument provisionedParams) && (h (.domain xmlDef.name)).isNone
  | .client _ (.getDomain name) => decide (name = "ns-c-m") &&
      ((h (.domain name)).all fun d => decide ('\n' ∉ d.uuid.toList) && decide (Trimmed d.uuid))
  | .client _ _ => false
  | _ => true

theorem ready_of_test {h : Host} {op : Op} (htest : testReady h op = true) : ReadyOp sampleDaemon h op := by
  cases op with
  | client host call =>
    cases call <;> simp only [testReady, Bool.and_eq_true, Bool.not_eq_true', decide_eq_true_eq,
      Option.isNone_iff_eq_none, Option.all_eq_true, Bool.false_eq_true] at htest
    case defineDomain xmlDef =>
      obtain ⟨rfl, hnone⟩ := htest
      exact ⟨⟨_, rfl⟩, by decide, by decide, by decide, by decide, hnone, by decide, by decide⟩
    case getDomain name =>
      obtain ⟨rfl, hinfo⟩ := htest
      exact ⟨by decide, by decide, hinfo⟩
    case createTmpfsPool => exact ⟨htest.1.1, htest.1.2, htest.2⟩
    case createVolumeFromBackingStore => exact ⟨htest.1.1, htest.1.2, htest.2⟩
    case writeRemoteFile => exact ⟨htest.1.1, htest.1.2, htest.2⟩
    all_goals exact htest
  | _ => trivial

theorem runs_over_ssh_provisioning :
    ∃ after, run (siteMachine sampleDaemon freshAnswer) (provisioning.relay (overSSH "qemu:///system"))
        (siteOf bareHost) = (.ok (provisioned ephemeralMachine).1, after) ∧
      after.Represents (provisioned ephemeralMachine).2 := by
  -- the abstract run is evaluated, with a test of readiness at each of its calls
  have hpermitted : permitted (hostMachine sampleUUID freshAnswer) testReady provisioning bareHost = true := by
    decide +kernel
  exact runs_over_ssh sampleDaemon freshAnswer provisioning (siteOf bareHost) bareHost (siteOf_represents bareHost)
    (holds_of_permitted (fun _ _ => ready_of_test) hpermitted)

end Caplv.Controller
