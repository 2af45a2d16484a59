import Caplv.Host.HealthCheck

namespace Caplv.Host

open Text Api Libvirt Program Controller

-- The Reachable condition says whether the host is ready, for the generation that was checked.
def ReachableTells (host : HostObject) : Prop :=
  ∃ condition, findStatusCondition host.status.conditions .reachable = some condition ∧
    (host.status.ready = true ↔ condition.status = true) ∧ condition.observedGeneration = host.generation

-- The probes a ready host has passed, VerifySessionPrerequisites exactly on a session host.
structure Verified (deps : Deps) (host : HostObject) (events : List (Event probes)) : Prop where
  ping : ⟨.ping, .ok ()⟩ ∈ events
  hypervisor : ⟨.verifyHypervisor, .ok ()⟩ ∈ events
  session : localConnectionURI deps host.spec.uri = .ok .session →
    ⟨.verifySessionPrerequisites, .ok ()⟩ ∈ events
  sessionOnly : ∀ reply, ⟨.verifySessionPrerequisites, reply⟩ ∈ events →
    localConnectionURI deps host.spec.uri = .ok .session

structure Coherent (deps : Deps) (host after : HostObject) (events : List (Event probes)) : Prop where
  reachable : ReachableTells after
  verified : after.status.ready = true → Verified deps host events
  discovered : after.status.ready = true → ∃ nodeInfo, ⟨.getNodeInfo, .ok nodeInfo⟩ ∈ events ∧
    after.status.capacity = some (capacityFor host.spec.reservedResources nodeInfo)
  capacity : after.status.ready = false → after.status.capacity = host.status.capacity
  conditions : after.status.conditions.filter (fun condition => condition.type ≠ .reachable) =
    host.status.conditions.filter fun condition => condition.type ≠ .reachable
  others : { after with status := host.status } = host

section Coherent

variable {deps : Deps} {host : HostObject} {events : List (Event probes)}

theorem setReachable_reachable (ready : Bool) (reason : Reason) (message : String) :
    ReachableTells (host.setReachable ready reason message) := by
  refine ⟨⟨.reachable, ready, reason, message, host.generation⟩, ?_, Iff.rfl, rfl⟩
  exact (findStatusCondition_set _ _ _).trans (if_pos rfl)

theorem setReachable_conditions (ready : Bool) (reason : Reason) (message : String) :
    (host.setReachable ready reason message).status.conditions.filter
      (fun condition => condition.type ≠ .reachable) =
    host.status.conditions.filter fun condition => condition.type ≠ .reachable :=
  filter_setStatusCondition host.status.conditions ⟨.reachable, ready, reason, message, host.generation⟩

theorem coherent_of_failed (reason : Reason) (message : String) :
    Coherent deps host (host.setReachable false reason message) events where
  reachable := setReachable_reachable false reason message
  verified := fun hready => by cases hready
  discovered := fun hready => by cases hready
  capacity := fun _ => rfl
  conditions := setReachable_conditions false reason message
  others := rfl

theorem coherent_of_discovered (hverified : Verified deps host events) {nodeInfo : NodeInfo}
    (hinfo : ⟨.getNodeInfo, .ok nodeInfo⟩ ∈ events) : Coherent deps host (host.discovered nodeInfo) events where
  reachable := setReachable_reachable true _ _
  verified := fun _ => hverified
  discovered := fun _ => ⟨nodeInfo, hinfo, rfl⟩
  capacity := fun hready => by cases hready
  conditions := setReachable_conditions true _ _
  others := rfl

theorem Verified.append (hverified : Verified deps host events) (info : Except GoError NodeInfo) :
    Verified deps host (events ++ [⟨.getNodeInfo, info⟩]) where
  ping := List.mem_append_left _ hverified.ping
  hypervisor := List.mem_append_left _ hverified.hypervisor
  session := fun hsession => List.mem_append_left _ (hverified.session hsession)
  sessionOnly := by
    intro reply hreply
    rcases List.mem_append.mp hreply with hreply | hreply
    · exact hverified.sessionOnly reply hreply
    · cases List.mem_singleton.mp hreply

theorem discoverCapacity_coherent (hverified : Verified deps host events) :
    Holds recording (fun _ _ => True) (Coherent deps host) (discoverCapacity host) events := by
  refine ⟨trivial, ?_⟩
  rintro info after rfl
  cases info with
  | error err => exact coherent_of_failed _ _
  | ok nodeInfo => exact coherent_of_discovered (hverified.append _) (by simp)

theorem probeLibvirt_coherent {connURI : ConnURI} (huri : localConnectionURI deps host.spec.uri = .ok connURI)
    (hevents : ∀ reply, ⟨.verifySessionPrerequisites, reply⟩ ∉ events) :
    Holds recording (fun _ _ => True) (Coherent deps host) (probeLibvirt host connURI) events := by
  refine ⟨trivial, ?_⟩
  rintro pinged _ rfl
  cases pinged with
  | error err => exact coherent_of_failed _ _
  | ok _ =>
    refine ⟨trivial, ?_⟩
    rintro hypervisor _ rfl
    cases hypervisor with
    | error err => exact coherent_of_failed _ _
    | ok _ =>
      change @Holds probes _ _ _ _ _ (if connURI = .session then _ else _) _
      by_cases hsession : connURI = .session
      · rw [if_pos hsession]
        refine ⟨trivial, ?_⟩
        rintro session _ rfl
        cases session with
        | error err => exact coherent_of_failed _ _
        | ok _ =>
          refine discoverCapacity_coherent ⟨by simp, by simp, fun _ => by simp, fun _ _ => ?_⟩
          rw [huri, hsession]
      · rw [if_neg hsession]
        refine discoverCapacity_coherent ⟨by simp, by simp, fun huri' => ?_, fun reply hreply => ?_⟩
        · rw [huri] at huri'
          exact absurd (Except.ok.inj huri') hsession
        · simp [hevents reply] at hreply

end Coherent

-- The status after a health check, for every outcome of the lookup, the dial and the probes.
theorem health_check_coherent (deps : Deps) (host : HostObject) :
    Holds recording (fun _ _ => True) (Coherent deps host) (performHealthCheck deps host) [] := by
  rw [performHealthCheck]
  split
  · exact coherent_of_failed _ _
  · refine ⟨trivial, ?_⟩
    rintro secret _ rfl
    cases secret with
    | error err => exact coherent_of_failed _ _
    | ok secret =>
      refine ⟨trivial, ?_⟩
      rintro dialled _ rfl
      cases dialled with
      | error err => exact coherent_of_failed _ _
      | ok _ =>
        dsimp only
        cases huri : localConnectionURI deps host.spec.uri with
        | error err => exact coherent_of_failed _ _
        | ok connURI => exact probeLibvirt_coherent huri (by simp)

end Caplv.Host
