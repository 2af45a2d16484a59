import Caplv.Controller.Reconcile
import Caplv.Libvirt.Virsh

namespace Caplv.Controller

open Text Api Libvirt Scope Program

-- A reconcile on one host that works. Client calls and Node requests act on its objects,
-- every other operation is answered by a fixed function.
def hostAnswer (newUUID : DomainXML → String) (answers : (op : Op) → Reply op) (h : Host) :
    (op : Op) → Reply op × Host
  | .client _ call => h.call newUUID call
  | .getNode name =>
    match h (.node name) with
    | some node => (.ok node, h)
    | none => (.error (.notFound ("nodes " ++ quote name ++ " not found")), h)
  | .patchNode name node =>
    match h (.node name) with
    | some _ => (.ok (), h.set (.node name) node)
    | none => (.error (.notFound ("nodes " ++ quote name ++ " not found")), h)
  | .deleteNode name =>
    match h (.node name) with
    | some _ => (.ok (), h.erase (.node name))
    | none => (.error (.notFound ("nodes " ++ quote name ++ " not found")), h)
  | op => (answers op, h)

def hostMachine (newUUID : DomainXML → String) (answers : (op : Op) → Reply op) :
    Machine signature Host :=
  fun h op => hostAnswer newUUID answers h op

-- The same with the client's deletions run command by command.
def virshAnswer (newUUID : DomainXML → String) (commands : Machine shell Host)
    (answers : (op : Op) → Reply op) (h : Host) : (op : Op) → Reply op × Host
  | .client _ call =>
    match VirshClient.deletion call with
    | some prog => run commands prog h
    | none => h.call newUUID call
  | op => hostAnswer newUUID answers h op

def virshMachine (newUUID : DomainXML → String) (commands : Machine shell Host)
    (answers : (op : Op) → Reply op) : Machine signature Host :=
  fun h op => virshAnswer newUUID commands answers h op

theorem virshMachine_commandMachine (newUUID : DomainXML → String) (answers : (op : Op) → Reply op) :
    virshMachine newUUID commandMachine answers = hostMachine newUUID answers := by
  funext h op
  cases op with
  | client host call =>
    change (match VirshClient.deletion call with
      | some prog => run commandMachine prog h
      | none => h.call newUUID call) = h.call newUUID call
    split
    · rename_i prog hprog
      exact deletion_run newUUID h hprog
    · rfl
  | _ => rfl

-- A client call on a host where commands may fail: a deletion runs its commands, any other
-- call takes its effect or fails without one.
def clientStep (newUUID : DomainXML → String) (mayFail : Command → Prop) (before : Host)
    (call : ClientCall) (reply : Except GoError call.Result) (after : Host) : Prop :=
  (∀ prog, VirshClient.deletion call = some prog →
      Completes (commandStep mayFail) prog before reply after) ∧
    (VirshClient.deletion call = none →
      before.call newUUID call = (reply, after) ∨ after = before ∧ ∃ err, reply = .error err)

-- Every other operation may get any reply; of the host's objects it can only change Nodes.
def hostStep (newUUID : DomainXML → String) (mayFail : Command → Prop) : Handler signature Host :=
  fun before op reply after =>
    match op, reply with
    | .client _ call, reply => clientStep newUUID mayFail before call reply after
    | .patchNode _ _, _ | .deleteNode _, _ => ∀ key, (∀ name, key ≠ .node name) → after key = before key
    | _, _ => after = before

theorem virshMachine_hostStep {newUUID : DomainXML → String} {commands : Machine shell Host}
    {mayFail : Command → Prop} {answers : (op : Op) → Reply op}
    (hcommands : ∀ before cmd reply after, commands.handler before cmd reply after →
      commandStep mayFail before cmd reply after)
    {before after : Host} {op : Op} {reply : Reply op}
    (h : (virshMachine newUUID commands answers).handler before op reply after) :
    hostStep newUUID mayFail before op reply after := by
  cases op with
  | client host call =>
    change (match VirshClient.deletion call with
      | some prog => run commands prog before
      | none => before.call newUUID call) = (reply, after) at h
    split at h
    · rename_i prog hprog
      refine ⟨fun prog' hprog' => ?_, fun hnone => nomatch hnone.symm.trans hprog⟩
      obtain rfl : prog = prog' := Option.some.inj (hprog.symm.trans hprog')
      obtain ⟨events, hexec⟩ := run_exec commands prog before
      rw [h] at hexec
      have htrue : (fun _ : Host => True) before := trivial
      exact ⟨events, hexec.strengthen htrue fun before cmd reply after _ hs =>
        ⟨hcommands before cmd reply after hs, trivial⟩⟩
    · rename_i hnone
      exact ⟨fun prog hprog => (nomatch hnone.symm.trans hprog), fun _ => .inl h⟩
  | getNode name =>
    change (match before (.node name) with | some node => _ | none => _) = _ at h
    split at h <;> exact (Prod.mk.inj h).2.symm
  | patchNode name node =>
    change (match before (.node name) with | some node => _ | none => _) = _ at h
    intro key hkey
    split at h <;> obtain ⟨-, rfl⟩ := Prod.mk.inj h
    · exact before.set_of_ne _ (hkey name)
    · rfl
  | deleteNode name =>
    change (match before (.node name) with | some node => _ | none => _) = _ at h
    intro key hkey
    split at h <;> obtain ⟨-, rfl⟩ := Prod.mk.inj h
    · exact before.erase_of_ne (hkey name)
    · rfl
  | _ => exact (Prod.mk.inj h).2.symm

end Caplv.Controller
