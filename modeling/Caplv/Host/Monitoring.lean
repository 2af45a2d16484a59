import Caplv.Host.Coherence
import Caplv.Host.Sizing
import Caplv.Program.Workqueue

namespace Caplv.Host

open Text Api Libvirt Program Controller

-- The LibvirtHost object with the interval of its spec.
structure MonitoredHost where
  object : HostObject
  healthCheckIntervalSeconds : Int32
deriving DecidableEq

-- The calls of Reconcile beside those of the health check. A listed machine is the name in its
-- spec.hostRef.
inductive MonitorOp where
  | getLibvirtHost (key : ObjectKey)
  | newPatchHelper (key : ObjectKey)
  | listMachines (namespaceName : String)
  | patchHost (fetched checked : MonitoredHost)
deriving DecidableEq

@[reducible] def MonitorReply : MonitorOp → Type
  | .getLibvirtHost _ => Except ApiError MonitoredHost
  | .listMachines _ => Except ApiError (List String)
  | _ => Except ApiError Unit

abbrev monitoring : Signature := ⟨MonitorOp, MonitorReply⟩

abbrev monitor (op : MonitorOp) : Prog (monitoring.sum probes) (MonitorReply op) := .ask (.inl op) .done

-- Durations are counted in nanoseconds.
def second : Int64 := 1000000000

def hostActiveRequeueInterval : Int64 := 5 * 60 * second

def healthCheckIntervalForHost (host : MonitoredHost) : Int64 :=
  if host.healthCheckIntervalSeconds > 0 then host.healthCheckIntervalSeconds.toInt64 * second
  else hostActiveRequeueInterval

def hasReferencingMachines (host : MonitoredHost) : Prog (monitoring.sum probes) (Except ApiError Bool) := do
  match ← monitor (.listMachines host.object.namespaceName) with
  | .error err => .done (.error err)
  | .ok hostRefs => .done (.ok (hostRefs.any fun hostRef => hostRef == host.object.name))

-- When the host is to be checked again: never where no machine refers to it.
def nextCheck (host : MonitoredHost) : Prog (monitoring.sum probes) Int64 := do
  match ← hasReferencingMachines host with
  | .error _ => .done (healthCheckIntervalForHost host)
  | .ok hasActiveMachines => .done (if hasActiveMachines then healthCheckIntervalForHost host else 0)

-- What Reconcile returns: the time after which it is to be called again, or an error. The patch is
-- deferred, and its error only logged.
def reconcileHost (deps : Deps) (key : ObjectKey) :
    Prog (monitoring.sum probes) (Except ApiError Int64) := do
  match ← monitor (.getLibvirtHost key) with
  | .error err => .done (if err.isNotFound then .ok 0 else .error err)
  | .ok fetched =>
    match ← monitor (.newPatchHelper key) with
    | .error err => .done (.error err)
    | .ok _ => do
        let object ← (performHealthCheck deps fetched.object).inr
        let host := { fetched with object := object }
        let requeueAfter ← nextCheck host
        let _ ← monitor (.patchHost fetched host)
        .done (.ok requeueAfter)

def comesBack : Except ApiError Int64 → Bool
  | .error _ => true
  | .ok requeueAfter => decide (0 < requeueAfter)

section Interval

theorem second_toInt : second.toInt = 1000000000 := by decide

theorem healthCheckIntervalForHost_toInt {host : MonitoredHost} (hpos : host.healthCheckIntervalSeconds > 0) :
    (healthCheckIntervalForHost host).toInt = host.healthCheckIntervalSeconds.toInt * 1000000000 := by
  have hlow : 0 < host.healthCheckIntervalSeconds.toInt := by
    rwa [gt_iff_lt, Int32.lt_iff_toInt_lt, Int32.toInt_zero] at hpos
  have hhigh := Int32.toInt_lt host.healthCheckIntervalSeconds
  rw [healthCheckIntervalForHost, if_pos hpos, Int64.toInt_mul, Int32.toInt_toInt64, second_toInt]
  exact Int.bmod_eq_of_le (by omega) (by omega)

theorem healthCheckIntervalForHost_pos (host : MonitoredHost) : 0 < healthCheckIntervalForHost host := by
  by_cases hpos : host.healthCheckIntervalSeconds > 0
  · have hlow : 0 < host.healthCheckIntervalSeconds.toInt := by
      rwa [gt_iff_lt, Int32.lt_iff_toInt_lt, Int32.toInt_zero] at hpos
    rw [Int64.lt_iff_toInt_lt, Int64.toInt_zero, healthCheckIntervalForHost_toInt hpos]
    omega
  · rw [healthCheckIntervalForHost, if_neg hpos]
    decide

end Interval

-- What the controller has seen of the cluster: the hosts under their names, and for each machine
-- the host it refers to.
structure Seen where
  hosts : ObjectKey → Option MonitoredHost
  machines : ObjectKey → Option String
  named : ∀ key host, hosts key = some host →
    host.object.namespaceName = key.namespaceName ∧ host.object.name = key.name

-- The requests the watch on machines maps a machine to.
def machineRequests (machine : ObjectKey) : Option String → List ObjectKey
  | none => []
  | some hostRef => [⟨machine.namespaceName, hostRef⟩]

-- A host or a machine appears, changes or goes away. An update of a machine maps the old and the
-- new object.
inductive Observed (before after : Seen) : List ObjectKey → Prop where
  | host (key : ObjectKey) (hosts : ∀ other, other ≠ key → after.hosts other = before.hosts other)
      (machines : after.machines = before.machines) : Observed before after [key]
  | machine (key : ObjectKey) (hosts : after.hosts = before.hosts)
      (machines : ∀ other, other ≠ key → after.machines other = before.machines other) :
      Observed before after
        (machineRequests key (before.machines key) ++ machineRequests key (after.machines key))

-- Reads are answered from what was seen, or fail.
def monitorStep : Handler (monitoring.sum probes) Seen := fun before op =>
  match op with
  | .inl (.getLibvirtHost key) => fun reply after => after = before ∧
      match (reply : Except ApiError MonitoredHost) with
      | .ok host => before.hosts key = some host
      | .error err => err.isNotFound = true → before.hosts key = none
  | .inl (.listMachines namespaceName) => fun reply after => after = before ∧
      ∀ hostRefs, (reply : Except ApiError (List String)) = .ok hostRefs → ∀ hostRef,
        hostRef ∈ hostRefs ↔ ∃ machine : ObjectKey, machine.namespaceName = namespaceName ∧
          before.machines machine = some hostRef
  | _ => fun _ after => after = before

def hostMonitor (deps : Deps) : Reconciler (monitoring.sum probes) Seen ObjectKey where
  act := fun _ => monitorStep
  changes := Observed
  reconcile := fun key => reconcileHost deps key >>= fun ret => .done (comesBack ret)

def Referenced (seen : Seen) (key : ObjectKey) : Prop :=
  seen.hosts key ≠ none ∧ ∃ machine : ObjectKey, machine.namespaceName = key.namespaceName ∧
    seen.machines machine = some key.name

section Monitoring

theorem referenced_watches (deps : Deps) : (hostMonitor deps).Watches Referenced fun _ _ => () := by
  refine fun before after keys key hobserved => ⟨?_, .inl rfl⟩
  rintro ⟨hhost, machine, hnamespace, hmachine⟩
  cases hobserved with
  | host changed hosts machines =>
    by_cases hkey : key = changed
    · exact .inr (List.mem_singleton.mpr hkey)
    · rw [hosts key hkey] at hhost
      rw [machines] at hmachine
      exact .inl ⟨hhost, machine, hnamespace, hmachine⟩
  | machine changed hosts machines =>
    rw [hosts] at hhost
    by_cases hkey : machine = changed
    · subst hkey
      refine .inr (List.mem_append_right _ ?_)
      rw [hmachine, machineRequests, hnamespace]
      exact List.mem_singleton.mpr rfl
    · rw [machines machine hkey] at hmachine
      exact .inl ⟨hhost, machine, hnamespace, hmachine⟩

theorem monitorStep_same {before after : Seen} {op : (monitoring.sum probes).Op}
    {reply : (monitoring.sum probes).Reply op} (hstep : monitorStep before op reply after) : after = before := by
  cases op with
  | inl op =>
    cases op with
    | getLibvirtHost key => exact hstep.1
    | newPatchHelper key => exact hstep
    | listMachines namespaceName => exact hstep.1
    | patchHost fetched checked => exact hstep
  | inr op => exact hstep

theorem referenced_modest (deps : Deps) : (hostMonitor deps).Modest Referenced fun _ _ => () := by
  refine fun own before op reply after key hstep => ⟨fun hneeds => ?_, fun _ => rfl⟩
  rwa [monitorStep_same hstep] at hneeds

theorem performHealthCheck_others (deps : Deps) (host : HostObject) :
    Holds recording (fun _ _ => True) (fun after _ => { after with status := host.status } = host)
      (performHealthCheck deps host) [] :=
  (health_check_coherent deps host).post_mono fun _ _ hcoherent => hcoherent.others

-- Nothing is remembered of a host between two operations.
abbrev SettlesHost (key : ObjectKey) (known : Unit → Prop) (prog : Prog (monitoring.sum probes) Bool) : Prop :=
  Reconciler.Settles monitorStep (Referenced · key) (fun _ => ()) known prog

theorem nextCheck_settles {host : MonitoredHost} {key : ObjectKey}
    (hnamespace : host.object.namespaceName = key.namespaceName) (hname : host.object.name = key.name)
    {f : Int64 → Prog (monitoring.sum probes) Bool}
    (hf : ∀ requeueAfter, 0 < requeueAfter → SettlesHost key (fun now => now = ()) (f requeueAfter)) :
    SettlesHost key (fun now => now = ()) (nextCheck host >>= f) := by
  have hinterval := hf _ (healthCheckIntervalForHost_pos host)
  rintro before listed after - ⟨rfl, hlisted⟩
  cases listed with
  | error err => exact .inr hinterval
  | ok hostRefs =>
    by_cases hreferenced : host.object.name ∈ hostRefs
    · refine .inr ?_
      have hany : (hostRefs.any fun hostRef => hostRef == host.object.name) = true :=
        List.any_eq_true.mpr ⟨_, hreferenced, beq_self_eq_true _⟩
      change SettlesHost key _ (f (if hostRefs.any _ then _ else _))
      rw [hany, if_pos rfl]
      exact hinterval
    · refine .inl ?_
      rintro ⟨-, machine, hmachine, href⟩
      rw [← hname] at href
      exact hreferenced ((hlisted hostRefs rfl host.object.name).mpr ⟨machine, hmachine.trans hnamespace.symm, href⟩)

theorem reconcileHost_settles (deps : Deps) (key : ObjectKey) :
    SettlesHost key (fun _ => True) ((hostMonitor deps).reconcile key) := by
  rintro before reply after - ⟨rfl, hreply⟩
  cases reply with
  | error err =>
    cases hfound : err.isNotFound with
    | true => exact .inl fun hneeds => hneeds.1 (hreply hfound)
    | false =>
      refine .inr ?_
      change comesBack (if err.isNotFound then .ok 0 else .error err) = true
      rw [hfound]
      rfl
  | ok fetched =>
    obtain ⟨hnamespace, hname⟩ := after.named key fetched hreply
    refine .inr fun _ helper _ _ _ => .inr ?_
    cases helper with
    | error err => exact rfl
    | ok _ =>
      change SettlesHost key _ (((performHealthCheck deps fetched.object).inr >>= _) >>= _)
      rw [bind_assoc]
      refine Reconciler.Settles.bind_inr (performHealthCheck_others deps fetched.object)
        (fun _ _ _ _ _ _ => rfl) fun object hothers => ?_
      have hnamespace' := (congrArg HostObject.namespaceName hothers).trans hnamespace
      have hname' := (congrArg HostObject.name hothers).trans hname
      change SettlesHost key _ ((nextCheck { fetched with object := object } >>= _) >>= _)
      rw [bind_assoc]
      refine nextCheck_settles hnamespace' hname' fun requeueAfter hpos => ?_
      exact fun _ _ _ _ _ => .inr (decide_eq_true hpos)

-- Monitoring is never lost: in whatever order hosts and machines come and go, times run out and
-- checks run, a host with a machine is being checked, is going to be, or waits for its interval.
theorem monitoring_never_lost (deps : Deps) {c : Config _ (Seen × Workqueue ObjectKey) ObjectKey Unit}
    (hc : (hostMonitor deps).system.Reachable (fun state => ∀ key, state.1.hosts key ≠ none → state.2.dirty key = true) c)
    (key : ObjectKey) (hfree : c.state.2.processing key = false) (hreferenced : Referenced c.state.1 key) :
    c.state.2.Pending key :=
  Reconciler.never_lost (referenced_watches deps) (referenced_modest deps)
    (fun key => Reconciler.Settles.reconciles (referenced_modest deps) (reconcileHost_settles deps key))
    (fun _ hstate key hneeds => .inl (hstate key hneeds.1)) hc hfree hreferenced

def monitoredKey : ObjectKey := ⟨"ns", "h"⟩

def nothingSeen : Seen := ⟨fun _ => none, fun _ => none, nofun⟩

def monitoredSeen (machines : ObjectKey → Option String) : Seen where
  hosts := Function.update (fun _ => none) monitoredKey (some ⟨sampleHostObject, 0⟩)
  machines := machines
  named := by
    intro key host hhost
    by_cases hkey : key = monitoredKey
    · rw [hkey, Function.update_self] at hhost
      obtain rfl := Option.some.inj hhost
      rw [hkey]
      exact ⟨rfl, rfl⟩
    · rw [Function.update_of_ne hkey] at hhost
      cases hhost

def oneMachine : ObjectKey → Option String := Function.update (fun _ => none) ⟨"ns", "m"⟩ (some "h")

theorem oneMachine_eq_iff {machine : ObjectKey} {hostRef : String} :
    oneMachine machine = some hostRef ↔ machine = ⟨"ns", "m"⟩ ∧ hostRef = "h" := by
  by_cases hkey : machine = ⟨"ns", "m"⟩
  · simp [oneMachine, hkey, eq_comm]
  · simp [oneMachine, hkey]

theorem monitored_run {machines : ObjectKey → Option String} {hostRefs : List String}
    (hlisted : ∀ hostRef, hostRef ∈ hostRefs ↔ ∃ machine : ObjectKey, machine.namespaceName = "ns" ∧
      machines machine = some hostRef) :
    Completes monitorStep ((hostMonitor sampleDeps).reconcile monitoredKey) (monitoredSeen machines)
      (decide (0 < if hostRefs.any fun hostRef => hostRef == "h" then hostActiveRequeueInterval else 0))
      (monitoredSeen machines) := by
  let fetched : MonitoredHost := ⟨sampleHostObject, 0⟩
  have hfetched : (monitoredSeen machines).hosts monitoredKey = some fetched := by
    simp [monitoredSeen, fetched]
  have hget : monitorStep (monitoredSeen machines) (.inl (.getLibvirtHost monitoredKey)) (.ok fetched)
      (monitoredSeen machines) := ⟨rfl, hfetched⟩
  have hhelper : monitorStep (monitoredSeen machines) (.inl (.newPatchHelper monitoredKey)) (.ok ())
      (monitoredSeen machines) := rfl
  have hsecret : monitorStep (monitoredSeen machines) (.inr (.getSecret ⟨"ns", "ssh"⟩)) (.error (.other "timeout"))
      (monitoredSeen machines) := rfl
  have hlist : monitorStep (monitoredSeen machines) (.inl (.listMachines "ns")) (.ok hostRefs)
      (monitoredSeen machines) := ⟨rfl, fun _ hrefs => Except.ok.inj hrefs ▸ hlisted⟩
  have hpatch (checked : MonitoredHost) : monitorStep (monitoredSeen machines) (.inl (.patchHost fetched checked))
      (.ok ()) (monitoredSeen machines) := rfl
  exact ⟨_, .ask hget (.ask hhelper (.ask hsecret (.ask hlist (.ask (hpatch _) (.refl _ _)))))⟩

-- The work queue after a host without machines was seen and checked, a machine appeared for it and
-- it was checked again.
def checkedTwice : Workqueue ObjectKey :=
  (((Workqueue.empty.addAll [monitoredKey]).worked monitoredKey false).addAll [monitoredKey]).worked monitoredKey true

theorem monitoring_never_lost_first_machine :
    Referenced (monitoredSeen oneMachine) monitoredKey ∧ checkedTwice.dirty monitoredKey = false ∧
      checkedTwice.Pending monitoredKey := by
  have hreferenced : Referenced (monitoredSeen oneMachine) monitoredKey :=
    ⟨Option.some_ne_none _, ⟨"ns", "m"⟩, rfl, oneMachine_eq_iff.mpr ⟨rfl, rfl⟩⟩
  have hidle : (hostMonitor sampleDeps).system.Reachable
      (fun state => ∀ key, state.1.hosts key ≠ none → state.2.dirty key = true)
      (System.idle (nothingSeen, Workqueue.empty)) := System.reachable_idle fun _ hhost => absurd rfl hhost
  have hothers (key : ObjectKey) (hkey : key ≠ monitoredKey) :
      (monitoredSeen fun _ => none).hosts key = nothingSeen.hosts key := by simp [monitoredSeen, nothingSeen, hkey]
  have hhost : (hostMonitor sampleDeps).system.env (nothingSeen, Workqueue.empty)
      (monitoredSeen fun _ => none, Workqueue.empty.addAll [monitoredKey]) :=
    .changes _ (.host monitoredKey hothers rfl) rfl
  -- without a machine the first check asks for no other
  have hchecked := Reconciler.reachable_worked (hidle.env hhost) rfl rfl (@monitored_run (fun _ => none) [] (by simp))
  have hnone (key : ObjectKey) (hkey : key ≠ ⟨"ns", "m"⟩) : (monitoredSeen oneMachine).machines key = none := by
    simp [monitoredSeen, oneMachine, hkey]
  have hmachine : (hostMonitor sampleDeps).system.env
      (monitoredSeen fun _ => none, (Workqueue.empty.addAll [monitoredKey]).worked monitoredKey false)
      (monitoredSeen oneMachine,
        ((Workqueue.empty.addAll [monitoredKey]).worked monitoredKey false).addAll [monitoredKey]) :=
    .changes _ (.machine ⟨"ns", "m"⟩ rfl hnone) rfl
  have hagain := Reconciler.reachable_worked (hchecked.env hmachine) rfl rfl
    (@monitored_run oneMachine ["h"] (by simp [oneMachine_eq_iff]))
  exact ⟨hreferenced, rfl, monitoring_never_lost sampleDeps hagain monitoredKey rfl hreferenced⟩

end Monitoring

end Caplv.Host
