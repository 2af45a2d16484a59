import Caplv.Libvirt.StationHost
import Caplv.Libvirt.StationRuns

namespace Caplv.Libvirt

open Text Program GoString

section Messages

theorem trimSpace_line {chars : List Char} (hfirst : chars.head?.map isSpace = some false)
    (hlast : chars.getLast?.map isSpace = some false) :
    trimSpace (String.ofList chars ++ "\n") = String.ofList chars ∧ String.ofList chars ≠ "" := by
  obtain ⟨first, hhead, hblank⟩ := Option.map_eq_some_iff.mp hfirst
  obtain ⟨rest, rfl⟩ := List.head?_eq_some_iff.mp hhead
  have hnewline : (String.ofList (first :: rest) ++ "\n").toList = first :: rest ++ ['\n'] := by
    rw [String.toList_append, String.toList_ofList]
    rfl
  have hback : (first :: rest).reverse.dropWhile isSpace = (first :: rest).reverse := by
    cases hreverse : (first :: rest).reverse with
    | nil => rfl
    | cons last others =>
      rw [← List.head?_reverse, hreverse] at hlast
      apply List.dropWhile_cons_of_neg
      rw [Option.some.inj hlast]
      exact Bool.false_ne_true
  constructor
  · rw [trimSpace, hnewline, List.cons_append, List.dropWhile_cons_of_neg (by simp [hblank]), ← List.cons_append,
      List.reverse_append, List.reverse_singleton, List.singleton_append,
      List.dropWhile_cons_of_pos (by decide), hback, List.reverse_reverse]
  · intro hempty
    have hnil := congrArg String.toList hempty
    rw [String.toList_ofList] at hnil
    cases hnil

def failureTexts : List String :=
  [Host.noDomain, Host.notRunning, Host.alreadyRunning, Host.domainDefined, Host.noPool, Host.inactivePool,
    Host.activePool, Host.poolDefined, Host.noTarget, Host.noVolume, Host.volumeDefined]

theorem trimSpace_failureTexts : ∀ text ∈ failureTexts, trimSpace (text ++ "\n") = text ∧ text ≠ "" := by
  simp only [failureTexts, List.forall_mem_cons]
  refine ⟨?_, ?_, ?_, ?_, ?_, ?_, ?_, ?_, ?_, ?_, ?_, List.forall_mem_nil _⟩
  all_goals
    apply trimSpace_line
    · decide
    · decide

end Messages

section Runs

variable {daemon : Daemon} {s after : Station} {args : List String} {stdout : Bytes} {stderr : String}

theorem run_session (cmd : RemoteCommand) (stdin : Bytes) :
    run (stationMachine daemon) (Sessions.session cmd stdin) s = s.effect daemon cmd stdin :=
  s.session_text daemon cmd stdin

theorem runArgs_eq (cmd : VirshCommand) (hargs : VirshCommand.ofArgs args = some cmd)
    (hpositional : ∀ arg ∈ cmd.positional, Positional arg) : s.runArgs daemon args = s.virsh daemon cmd := by
  have hnone : cmd.positional.any isOption = false := by
    rw [List.any_eq_false]
    intro arg harg
    rw [hpositional arg harg]
    exact Bool.false_ne_true
  rw [Station.runArgs, hargs]
  simp only [hnone, Bool.false_eq_true, if_false]

theorem effect_virsh (args : List String) (stdin : Bytes) :
    s.effect daemon (.virsh daemon.uri args) stdin = Station.answer (s.runArgs daemon args) := by
  rw [Station.effect, if_pos rfl]

theorem answer_succeed : Station.answer (after.succeed stdout) = (.ok stdout, after) := rfl

theorem answer_fail : Station.answer (s.fail stderr) =
    (.error (.exit (stderr ++ "\n") "Process exited with status 1"), s) := rfl

theorem virshOutput_fail (hstderr : stderr ∈ failureTexts) (args : List String) :
    Caplv.Host.virshOutput args (.error (.exit (stderr ++ "\n") "Process exited with status 1")) =
      .error (classifyVirshError stderr (args.headD "") (getResourceArg args)) := by
  obtain ⟨htrim, hne⟩ := trimSpace_failureTexts stderr hstderr
  rw [Caplv.Host.virshOutput, virshFailure, htrim, if_neg hne]

theorem run_virsh_ok (h : s.runArgs daemon args = after.succeed stdout) :
    run (stationMachine daemon) (Sessions.runVirsh daemon.uri args) s = (.ok (trim (decode stdout)), after) := by
  rw [Sessions.runVirsh, run_bind, run_session, effect_virsh, h, answer_succeed]
  rfl

theorem run_virsh_fail (h : s.runArgs daemon args = s.fail stderr) (hstderr : stderr ∈ failureTexts) :
    run (stationMachine daemon) (Sessions.runVirsh daemon.uri args) s =
      (.error (classifyVirshError stderr (args.headD "") (getResourceArg args)), s) := by
  rw [Sessions.runVirsh, run_bind, run_session, effect_virsh, h, answer_fail, run_done, virshOutput_fail hstderr]

theorem runQuietly_eq (connURI : String) (args : List String) : Sessions.runQuietly connURI args =
    Sessions.runVirsh connURI args >>= fun out => .done (out.map fun _ => ()) := by
  refine congrArg _ (funext fun out => ?_)
  cases out <;> rfl

theorem run_quietly_ok (h : s.runArgs daemon args = after.succeed stdout) :
    run (stationMachine daemon) (Sessions.runQuietly daemon.uri args) s = (.ok (), after) := by
  rw [runQuietly_eq, run_bind, run_virsh_ok h]
  rfl

theorem runDeletion_eq (connURI : String) (args : List String) : Sessions.runDeletion connURI args =
    Sessions.runVirsh connURI args >>= fun out => .done (ignoreNotFound (out.map fun _ => ())) := by
  rw [Sessions.runDeletion, runQuietly_eq, bind_assoc]
  rfl

theorem ignoreNotFound_missing (h : virshCategory stderr = .notFound) (op resource : String) :
    ignoreNotFound (.error (classifyVirshError stderr op resource)) = .ok () := by
  rw [ignoreNotFound, isNotFound_classifyVirshError, h]
  rfl

theorem ignoreNotFound_transient (h : virshCategory stderr = .transient) (op resource : String) :
    ignoreNotFound (.error (classifyVirshError stderr op resource)) =
      .error (classifyVirshError stderr op resource) := by
  rw [ignoreNotFound, isNotFound_classifyVirshError, h]
  rfl



theorem run_ssh_ok {cmd : RemoteCommand} (h : s.effect daemon cmd [] = (.ok stdout, after)) :
    run (stationMachine daemon) (Sessions.runSSH cmd) s = (.ok (), after) := by
  rw [Sessions.runSSH, run_bind, run_session, h]
  rfl

theorem run_ssh_snd (cmd : RemoteCommand) :
    (run (stationMachine daemon) (Sessions.runSSH cmd) s).2 = (s.effect daemon cmd []).2 := by
  rw [Sessions.runSSH, run_bind, run_session]
  cases (s.effect daemon cmd []).1 with
  | ok stdout => rfl
  | error failure => rfl

theorem run_now : run (stationMachine daemon) (@Prog.perform sessions .now) s =
    (s.clock, { s with clock := s.clock + 1 }) := rfl

section Temporary

theorem temporary_domain (time : Nat) : temporary ("/tmp/caplv-domain-" ++ toString time ++ ".xml") = true := by
  have hhead : "/tmp/caplv-domain-" = "/tmp/caplv-" ++ "domain-" := by decide
  rw [temporary, hhead, String.append_assoc, String.append_assoc]
  exact hasPrefix_append _ _

variable {tmpFile : String} (htemp : temporary tmpFile = true)

include htemp

theorem positional_of_temporary : Positional tmpFile := by
  obtain ⟨rest, rfl⟩ := (hasPrefix_iff _ _).mp htemp
  simp [Positional, isOption, hasPrefix, List.isPrefixOf]

theorem run_upload (data : Bytes) : run (stationMachine daemon) (Sessions.session (.upload tmpFile) data) s =
    (.ok [], s.setFile tmpFile (some data)) := by
  have hne : tmpFile ≠ "/dev/null" := by
    rintro rfl
    exact absurd htemp (by decide)
  rw [run_session, Station.effect, Station.write, if_neg hne]

theorem run_removeTemp {h : Host} (hrep : Represents s h) :
    ∃ after, run (stationMachine daemon) (Sessions.removeTemp tmpFile) s = ((), after) ∧ Represents after h := by
  rw [Sessions.removeTemp, run_bind, run_session, Station.effect]
  by_cases hmounts : s.mounts tmpFile = 0
  · rw [if_pos hmounts]
    exact ⟨_, rfl, hrep.setTemp htemp none⟩
  · rw [if_neg hmounts]
    exact ⟨s, rfl, hrep⟩

end Temporary

theorem run_settled {α : Type} {prog : Prog sessions (Except GoError α)} {result : Except GoError α}
    (h : run (stationMachine daemon) prog s = (result, after)) :
    run (stationMachine daemon) (Sessions.settled prog) s = (.ok result, after) := by
  rw [Sessions.settled, run_bind, h]
  rfl

end Runs

section Calls

variable {daemon : Daemon} {s : Station} {h : Host}

theorem Refines.intro {call : ClientCall} {result : Except GoError call.Result} {after : Station} {above : Host}
    (hcall : h.call daemon.newUUID call = (result, above))
    (hrun : run (stationMachine daemon) (Sessions.perform daemon.uri call) s = (.ok result, after))
    (hafter : Represents after above) : Refines daemon s h call := by
  rw [Refines, hcall]
  exact ⟨after, hrun, hafter⟩

-- What a virsh command does, beside what the call it serves does on the host above.
inductive CommandAnswer (s : Station) (h : Host) (args : List String) {α : Type}
    (settle : Except GoError GoString → Except GoError α) :
    Shell.Outcome × Station → Except GoError α × Host → Prop where
  | fails {stderr : String} {result : Except GoError α} (hmem : stderr ∈ failureTexts)
      (hresult : settle (.error (classifyVirshError stderr (args.headD "") (getResourceArg args))) = result) :
      CommandAnswer s h args settle (s.fail stderr) (result, h)
  | succeeds {after : Station} {above : Host} {stdout : Bytes} {result : Except GoError α}
      (hafter : Represents after above) (hresult : settle (.ok (trim (decode stdout))) = result) :
      CommandAnswer s h args settle (after.succeed stdout) (result, above)

variable (hrep : Represents s h)

section Commands

include hrep

theorem command_refines {call : ClientCall} (args : List String) (cmd : VirshCommand)
    {settle : Except GoError GoString → Except GoError call.Result}
    (hperform : Sessions.perform daemon.uri call =
      Sessions.settled (Sessions.runVirsh daemon.uri args >>= fun out => .done (settle out)))
    (hargs : VirshCommand.ofArgs args = some cmd) (hpositional : ∀ arg ∈ cmd.positional, Positional arg)
    (hanswer : CommandAnswer s h args settle (s.virsh daemon cmd) (h.call daemon.newUUID call)) :
    Refines daemon s h call := by
  rw [← runArgs_eq cmd hargs hpositional] at hanswer
  generalize hout : s.runArgs daemon args = out at hanswer
  generalize hcall : h.call daemon.newUUID call = result at hanswer
  cases hanswer with
  | fails hmem hresult =>
    refine .intro hcall ?_ hrep
    rw [hperform]
    apply run_settled
    rw [run_bind, run_virsh_fail hout hmem, run_done, hresult]
  | succeeds hafter hresult =>
    refine .intro hcall ?_ hafter
    rw [hperform]
    apply run_settled
    rw [run_bind, run_virsh_ok hout, run_done, hresult]

end Commands

section Domains

include hrep

variable {name : String}

theorem domainExists_refines (hname : Positional name) : Refines daemon s h (.domainExists name) := by
  refine command_refines hrep ["dominfo", name] (.dominfo name) rfl rfl (List.forall_mem_singleton.mpr hname) ?_
  rw [Station.virsh, hrep.domains, Host.call, Host.domainInfo]
  cases h (.domain name) with
  | none => exact .fails (by simp [failureTexts]) rfl
  | some d => exact .succeeds hrep (by simp only [existsOrError])

theorem run_getDomain (hname : Positional name) (hline : OneLine name)
    (huuid : ∀ d, h (.domain name) = some d → OneLine d.uuid ∧ Trimmed d.uuid) :
    run (stationMachine daemon) (Sessions.getDomain daemon.uri name) s = (.ok (h.domainInfo name), s) := by
  rw [Sessions.getDomain, run_bind, run_session, effect_virsh,
    runArgs_eq (.dominfo name) rfl (List.forall_mem_singleton.mpr hname), Station.virsh, hrep.domains, Host.domainInfo]
  cases hd : h (.domain name) with
  | none =>
    have hnone : Host.noDomain ∈ failureTexts := by simp [failureTexts]
    rw [answer_fail, run_done, Caplv.Host.getDomain, virshOutput_fail hnone]
    rfl
  | some d =>
    obtain ⟨hline', htrimmed⟩ := huuid d hd
    rw [answer_succeed, run_done, getDomain_dominfoTable hline hline' htrimmed]
    simp only [Except.map, reportedInfo, shown_ofString]

theorem getDomain_refines (hready : Ready daemon h (.getDomain name)) :
    Refines daemon s h (.getDomain name) := by
  obtain ⟨hname, hline, huuid⟩ := hready
  exact .intro rfl (run_getDomain hrep hname hline huuid) hrep

theorem startDomain_refines (hname : Positional name) : Refines daemon s h (.startDomain name) := by
  refine command_refines hrep ["start", name] (.start name)
    (congrArg Sessions.settled (runQuietly_eq _ _)) rfl (List.forall_mem_singleton.mpr hname) ?_
  rw [Station.virsh, hrep.domains, Host.call, Host.startDomain]
  cases h (.domain name) with
  | none => exact .fails (by simp [failureTexts]) rfl
  | some d =>
    by_cases hrunning : d.running = true
    · simp only [if_pos hrunning]
      exact .fails (by simp [failureTexts]) rfl
    · simp only [if_neg hrunning]
      exact .succeeds (hrep.setDomain name _) rfl

theorem destroyDomain_refines (hname : Positional name) : Refines daemon s h (.destroyDomain name) := by
  refine command_refines hrep ["destroy", name] (.destroy name)
    (congrArg Sessions.settled (runDeletion_eq _ _)) rfl (List.forall_mem_singleton.mpr hname) ?_
  rw [Station.virsh, hrep.domains, Host.call, Host.destroyDomain]
  cases h (.domain name) with
  | none => exact .fails (by simp [failureTexts]) (ignoreNotFound_missing (Host.category_eq _) _ _)
  | some d =>
    by_cases hrunning : d.running = true
    · simp only [if_pos hrunning]
      exact .succeeds (hrep.setDomain name _) rfl
    · simp only [if_neg hrunning]
      exact .fails (by simp [failureTexts]) (ignoreNotFound_transient (Host.category_eq _) _ _)

theorem undefineDomain_refines (hname : Positional name) : Refines daemon s h (.undefineDomain name) := by
  refine command_refines hrep ["undefine", name, "--nvram"] (.undefine name)
    (congrArg Sessions.settled (runDeletion_eq _ _)) rfl (List.forall_mem_singleton.mpr hname) ?_
  rw [Station.virsh, hrep.domains, Host.call, Host.undefineDomain]
  cases h (.domain name) with
  | none => exact .fails (by simp [failureTexts]) (ignoreNotFound_missing (Host.category_eq _) _ _)
  | some d =>
    by_cases hrunning : d.running = true
    · simp only [if_pos hrunning]
      exact .succeeds hrep rfl
    · simp only [if_neg hrunning]
      exact .succeeds (hrep.setDomain name none) rfl

theorem defineDomain_refines {xmlDef : DomainXML} (hready : Ready daemon h (.defineDomain xmlDef)) :
    Refines daemon s h (.defineDomain xmlDef) := by
  obtain ⟨⟨params, hparams⟩, hlegal, hescape, hname, hline, hnone, huuid⟩ := hready
  let tmpFile := "/tmp/caplv-domain-" ++ toString s.clock ++ ".xml"
  have htemp : temporary tmpFile = true := temporary_domain s.clock
  let staged := { s with clock := s.clock + 1 }.setFile tmpFile (some (encode xmlDef.text.toList))
  let defined : Domain := ⟨xmlDef, daemon.newUUID xmlDef, false⟩
  have hstaged : Represents staged h := (hrep.tick (s.clock + 1)).setTemp htemp _
  have hcmd : staged.runArgs daemon ["define", tmpFile] =
      (staged.setDomain xmlDef.name (some defined)).succeed [] := by
    have hfile : staged.files tmpFile = some (encode xmlDef.text.toList) := Function.update_self ..
    have hread : staged.files tmpFile >>= readDefinition = some xmlDef := by
      rw [hfile, Option.bind_eq_bind, Option.bind_some, readDefinition_text, hlegal]
    rw [runArgs_eq (.define tmpFile) rfl (List.forall_mem_singleton.mpr (positional_of_temporary htemp)),
      Station.virsh, hread]
    simp only [hstaged.domains, hnone]
    rfl
  have hdefined := hstaged.setDomain xmlDef.name (some defined)
  obtain ⟨after, hremove, hafter⟩ := @run_removeTemp daemon _ _ htemp _ hdefined
  have hextract : extractDomainNameFromXML xmlDef.text = .ok xmlDef.name := by
    have htext : xmlDef.text = generateDomainXML params := by rw [hparams]; rfl
    have hescape' : Xml.escape params.name = params.name.toList := by
      rw [hparams] at hescape
      exact hescape
    rw [htext, extractDomainNameFromXML_generateDomainXML, hescape', String.ofList_toList, hparams]
    rfl
  have hget : run (stationMachine daemon) (Sessions.getDomain daemon.uri xmlDef.name) after = _ :=
    run_getDomain hafter hname hline ?_
  · have hinfo : Host.domainInfo (Function.update h (.domain xmlDef.name) (some defined)) xmlDef.name =
        .ok ⟨xmlDef.name, daemon.newUUID xmlDef, "shut off"⟩ := by
      simp [Host.domainInfo, defined]
    have hcall : h.call daemon.newUUID (.defineDomain xmlDef) = (.ok ⟨xmlDef.name, daemon.newUUID xmlDef, "shut off"⟩,
        Function.update h (.domain xmlDef.name) (some defined)) := by
      simp [Host.call, Host.defineDomain, hnone, Host.set, defined]
    refine .intro hcall ?_ hafter
    change run _ (Sessions.defineDomain daemon.uri xmlDef.text) s = _
    rw [Sessions.defineDomain, run_bind, run_now, run_bind, run_upload htemp]
    change run _ (Sessions.runVirsh daemon.uri ["define", tmpFile] >>= _) staged = _
    rw [run_bind, run_virsh_ok hcmd]
    change run _ (Sessions.removeTemp tmpFile >>= _) _ = _
    rw [run_bind, hremove, hextract]
    change run _ (Sessions.getDomain daemon.uri xmlDef.name) after = _
    rw [hget, hinfo]
  · intro d hd
    rw [Function.update_self] at hd
    obtain rfl := Option.some.inj hd
    exact huuid

end Domains

section Pools

theorem clear_update {region : Key → Bool} {key : Key} (hkey : region key = false) (value : Option key.Value) :
    Host.clear (Function.update h key value) region = Function.update (h.clear region) key value := by
  funext other
  by_cases hother : other = key
  · subst hother
    simp [hkey]
  · simp [hother]

include hrep

variable {name : String}

theorem poolExists_refines (hname : Positional name) : Refines daemon s h (.poolExists name) := by
  refine command_refines hrep ["pool-info", name] (.poolInfo name) rfl rfl (List.forall_mem_singleton.mpr hname) ?_
  rw [Station.virsh, hrep.pools, Host.call]
  cases h (.pool name) with
  | none =>
    refine .fails (by simp [failureTexts]) ?_
    rw [existsOrError, isNotFound_classifyVirshError, (Host.category_eq Host.noPool : _ = .notFound)]
    rfl
  | some p => exact .succeeds hrep rfl

theorem poolIsActive_refines (hready : Ready daemon h (.poolIsActive name)) :
    Refines daemon s h (.poolIsActive name) := by
  obtain ⟨hname, hline⟩ := hready
  have hrun : run (stationMachine daemon) (Sessions.perform daemon.uri (.poolIsActive name)) s =
      (Caplv.Host.poolIsActive name (Station.answer (s.virsh daemon (.poolInfo name))).1,
        (Station.answer (s.virsh daemon (.poolInfo name))).2) := by
    change run _ (Sessions.poolIsActive daemon.uri name) s = _
    rw [Sessions.poolIsActive, run_bind, run_session, effect_virsh,
      runArgs_eq (.poolInfo name) rfl (List.forall_mem_singleton.mpr hname)]
    rfl
  rw [Station.virsh, hrep.pools] at hrun
  cases hp : h (.pool name) with
  | none =>
    have hnone : Host.noPool ∈ failureTexts := by simp [failureTexts]
    rw [hp, answer_fail, Caplv.Host.poolIsActive, virshOutput_fail hnone] at hrun
    exact .intro (by simp [Host.call, hp]; rfl) hrun hrep
  | some p =>
    rw [hp, answer_succeed, poolIsActive_poolInfoTable hline] at hrun
    exact .intro (by simp [Host.call, hp]) hrun hrep

theorem startPool_refines (hname : Positional name) : Refines daemon s h (.startPool name) := by
  refine command_refines hrep ["pool-start", name] (.poolStart name)
    (congrArg Sessions.settled (runQuietly_eq _ _)) rfl (List.forall_mem_singleton.mpr hname) ?_
  rw [Station.virsh, hrep.pools, Host.call, Host.startPool]
  cases h (.pool name) with
  | none => exact .fails (by simp [failureTexts]) rfl
  | some p =>
    by_cases hactive : p.active = true
    · simp only [if_pos hactive]
      exact .fails (by simp [failureTexts]) rfl
    · simp only [if_neg hactive, hrep.mounts]
      cases h (.mount p.path) with
      | none => exact .fails (by simp [failureTexts]) rfl
      | some mounted => exact .succeeds (hrep.setPool name _) rfl

theorem createTmpfsPool_refines {name path size : String}
    (hready : Ready daemon h (.createTmpfsPool name path size)) :
    Refines daemon s h (.createTmpfsPool name path size) := by
  obtain ⟨hname, hpool, hmount⟩ := hready
  let mounted := s.setMounts path 1
  let inactive := (mounted.clearVolumes name).setPool name (some ⟨path, false⟩)
  have hmounted : Represents mounted (Function.update (h.clear (filesUnder path)) (.mount path) (some ())) :=
    hrep.setMounts path true
  have hdefine : mounted.runArgs daemon ["pool-define-as", name, "dir", "--target", path] = inactive.succeed [] := by
    have hnone : mounted.pools name = none := by rw [← hpool]; exact hrep.pools name
    rw [runArgs_eq (.poolDefineAs name path) rfl (List.forall_mem_singleton.mpr hname), Station.virsh, hnone]
  have hstart : inactive.runArgs daemon ["pool-start", name] =
      (inactive.setPool name (some ⟨path, true⟩)).succeed [] := by
    have hfound : inactive.pools name = some ⟨path, false⟩ := Function.update_self ..
    have hhigh : inactive.mounts path = 1 := Function.update_self ..
    rw [runArgs_eq (.poolStart name) rfl (List.forall_mem_singleton.mpr hname), Station.virsh, hfound]
    simp [hhigh]
  have hafter := ((hmounted.clearVolumes name).setPool name (some ⟨path, false⟩)).setPool name (some ⟨path, true⟩)
  rw [clear_update rfl, Function.update_idem] at hafter
  have hcall : h.call daemon.newUUID (.createTmpfsPool name path size) = (.ok (),
      Function.update (Function.update ((h.clear (filesUnder path)).clear (volumesOf name)) (.mount path) (some ()))
        (.pool name) (some ⟨path, true⟩)) := by
    simp [Host.call, Host.createTmpfsPool, hpool, Host.set]
  refine .intro hcall (run_settled ?_) hafter
  have hup : s.effect daemon (.mount path size) [] = (.ok [], mounted) := by
    rw [Station.effect, hrep.mounts_eq_zero hmount]
  have hmkdir : s.effect daemon (.mkdir path) [] = (.ok [], s) := rfl
  rw [Sessions.createTmpfsPool, run_bind, run_ssh_ok hmkdir]
  change run _ (Sessions.runSSH (.mount path size) >>= _) s = _
  rw [run_bind, run_ssh_ok hup]
  change run _ (Sessions.runVirsh daemon.uri _ >>= _) mounted = _
  rw [run_bind, run_virsh_ok hdefine]
  change run _ (Sessions.runVirsh daemon.uri ["pool-start", name] >>= _) inactive = _
  rw [run_bind, run_virsh_ok hstart]
  rfl

theorem stopPool_represents (hname : Positional name) {p : Pool} (hp : h (.pool name) = some p) :
    Represents (run (stationMachine daemon) (Sessions.runVirsh daemon.uri ["pool-destroy", name]) s).2
      (Function.update h (.pool name) (some ⟨p.path, false⟩)) := by
  have hargs : s.runArgs daemon ["pool-destroy", name] = s.virsh daemon (.poolDestroy name) :=
    runArgs_eq _ rfl (List.forall_mem_singleton.mpr hname)
  by_cases hactive : p.active = true
  · have hcmd : s.runArgs daemon ["pool-destroy", name] = (s.setPool name (some ⟨p.path, false⟩)).succeed [] := by
      simp [hargs, Station.virsh, hrep.pools, hp, hactive]
    rw [run_virsh_ok hcmd]
    exact hrep.setPool name _
  · have hcmd : s.runArgs daemon ["pool-destroy", name] = s.fail Host.inactivePool := by
      simp [hargs, Station.virsh, hrep.pools, hp, hactive]
    have hstopped : p = ⟨p.path, false⟩ := by
      rw [Bool.not_eq_true] at hactive
      rw [← hactive]
    rw [run_virsh_fail hcmd (by simp [failureTexts]), ← hstopped, ← hp, Function.update_eq_self]
    exact hrep

theorem undefinePool_represents {name path : String} (hname : Positional name)
    (hp : h (.pool name) = some ⟨path, false⟩) :
    Represents (run (stationMachine daemon) (Sessions.runVirsh daemon.uri ["pool-undefine", name]) s).2
      ((h.clear (volumesOf name)).erase (.pool name)) := by
  have hcmd : s.runArgs daemon ["pool-undefine", name] =
      ((s.clearVolumes name).setPool name none).succeed [] := by
    rw [runArgs_eq (.poolUndefine name) rfl (List.forall_mem_singleton.mpr hname)]
    simp [Station.virsh, hrep.pools, hp]
  rw [run_virsh_ok hcmd]
  exact (hrep.clearVolumes name).setPool name none

theorem umount_represents (path : String) :
    Represents (s.effect daemon (.umount path) []).2 (h.unmount path) := by
  rw [Station.effect, Host.unmount]
  cases hmount : h (.mount path) with
  | none =>
    rw [if_pos (hrep.mounts_eq_zero hmount)]
    exact hrep
  | some mounted =>
    have hone : s.mounts path = 1 := by
      rw [hrep.mounts, hmount]
      rfl
    rw [hone, if_neg (by decide)]
    exact hrep.setMounts path false

theorem destroyPool_refines (hready : Ready daemon h (.destroyPool name)) :
    Refines daemon s h (.destroyPool name) := by
  obtain ⟨hname, hpath⟩ := hready
  have hargs : s.runArgs daemon ["pool-dumpxml", name] = s.virsh daemon (.poolDumpxml name) :=
    runArgs_eq _ rfl (List.forall_mem_singleton.mpr hname)
  cases hp : h (.pool name) with
  | none =>
    have hcmd : s.runArgs daemon ["pool-dumpxml", name] = s.fail Host.noPool := by
      simp [hargs, Station.virsh, hrep.pools, hp]
    refine .intro (by simp [Host.call, Host.destroyPool, hp]; rfl) ?_ hrep
    change run _ (Sessions.destroyPool daemon.uri name) s = _
    rw [Sessions.destroyPool, run_bind, run_virsh_fail hcmd (by simp [failureTexts])]
    simp [isNotFound_classifyVirshError, (Host.category_eq Host.noPool : _ = .notFound)]
  | some p =>
    have hcmd : s.runArgs daemon ["pool-dumpxml", name] = s.succeed (poolXml name p) := by
      simp [hargs, Station.virsh, hrep.pools, hp]
    have hstopped : Represents (run (stationMachine daemon) (Sessions.runVirsh daemon.uri ["pool-destroy", name]) s).2
        _ := stopPool_represents hrep hname hp
    have hgone := @undefinePool_represents daemon _ _ hstopped name p.path hname (Function.update_self ..)
    rw [Host.erase, clear_update (show volumesOf name (.pool name) = false from rfl), Function.update_idem] at hgone
    have hextract := @extractXMLElement_poolXml name p (hpath p hp)
    have hcall : h.call daemon.newUUID (.destroyPool name) = (.ok (),
        if p.path = "" then (h.clear (volumesOf name)).erase (.pool name)
        else ((h.clear (volumesOf name)).erase (.pool name)).unmount p.path) := by
      simp [Host.call, Host.destroyPool, hp]
    by_cases hempty : p.path = ""
    · rw [if_pos hempty] at hcall
      refine .intro hcall ?_ hgone
      change run _ (Sessions.destroyPool daemon.uri name) s = _
      have hchars : ofString p.path = [] := by rw [hempty]; rfl
      rw [Sessions.destroyPool, run_bind, run_virsh_ok hcmd]
      simp only [hextract, run_bind, if_pos hchars, run_done]
    · rw [if_neg hempty] at hcall
      refine .intro hcall ?_ (@umount_represents daemon _ _ hgone p.path)
      have hchars : ofString p.path ≠ [] := by simpa [ofString] using hempty
      change run _ (Sessions.destroyPool daemon.uri name) s = _
      have hrmdir (below : Station) : (below.effect daemon (.rmdir p.path) []).2 = below := rfl
      rw [Sessions.destroyPool, run_bind, run_virsh_ok hcmd]
      simp only [hextract, run_bind, if_neg hchars, shown_ofString, run_ssh_snd, hrmdir, run_done]

end Pools

section Volumes

theorem poolFailure_mem {pool stderr : String} (hfailure : h.poolFailure pool = some stderr) :
    stderr ∈ failureTexts := by
  rw [Host.poolFailure] at hfailure
  split at hfailure
  · obtain rfl := Option.some.inj hfailure
    simp [failureTexts]
  · split at hfailure
    · cases hfailure
    · obtain rfl := Option.some.inj hfailure
      simp [failureTexts]

theorem lookupVolume_mem {pool name stderr : String} (hlookup : h.lookupVolume pool name = .error stderr) :
    stderr ∈ failureTexts := by
  rcases Host.lookupVolume_error hlookup with ⟨rfl, -⟩ | rfl | ⟨rfl, -⟩
  · simp [failureTexts]
  · simp [failureTexts]
  · simp [failureTexts]

section Lookup

include hrep

theorem Represents.poolFailure (pool : String) : s.poolFailure pool = h.poolFailure pool := by
  rw [Station.poolFailure, Host.poolFailure, hrep.pools]
  cases h (.pool pool) <;> rfl

theorem Represents.lookupVolume (pool name : String) :
    s.lookupVolume pool name = (h.lookupVolume pool name).map Volume.disk := by
  rw [Station.lookupVolume, Host.lookupVolume, hrep.poolFailure, hrep.volumes]
  cases h.poolFailure pool with
  | some stderr => rfl
  | none => cases h (.volume pool name) <;> rfl

end Lookup

theorem addVolume_cases (hrep : Represents s h) (pool name : String) (disk : Disk) (content : Volume)
    (failure : String → GoError) :
    (∃ stderr ∈ failureTexts, s.addVolume pool name disk = s.fail stderr ∧
      h.createVolume pool name failure content = (.error (failure stderr), h)) ∨
    s.addVolume pool name disk = (s.setVolume pool name (some disk)).succeed [] ∧ h.poolFailure pool = none ∧
      h.createVolume pool name failure content = (.ok (), Function.update h (.volume pool name) (some content)) := by
  rw [Station.addVolume, Host.createVolume, hrep.poolFailure, hrep.volumes]
  cases hfailure : h.poolFailure pool with
  | some stderr => exact .inl ⟨stderr, poolFailure_mem hfailure, rfl, rfl⟩
  | none =>
    cases hvolume : h (.volume pool name) with
    | some volume => exact .inl ⟨Host.volumeDefined, by simp [failureTexts], rfl, rfl⟩
    | none => exact .inr ⟨rfl, rfl, rfl⟩

theorem addVolume_answer (hrep : Represents s h) (args : List String) (pool name : String) (content : Volume) :
    CommandAnswer s h args (fun out => out.map fun _ => ()) (s.addVolume pool name content.disk)
      (h.createVolume pool name (fun stderr => classifyVirshError stderr (args.headD "") (getResourceArg args))
        content) := by
  rcases addVolume_cases hrep pool name content.disk content _ with
    ⟨stderr, hstderr, hadd, hcreate⟩ | ⟨hadd, -, hcreate⟩
  · rw [hadd, hcreate]
    exact .fails hstderr rfl
  · rw [hadd, hcreate]
    exact .succeeds (hrep.setVolume pool name (some content)) rfl

theorem positional_digits (n : Nat) (suffix : String) : Positional (toString (n : Int) ++ suffix) := by
  have hchars : (toString (n : Int) ++ suffix).toList = Nat.toDigits 10 n ++ suffix.toList := by
    rw [String.toList_append, toList_toString_ofNat]
  obtain ⟨digit, digits, hdigits⟩ := List.exists_cons_of_ne_nil (Nat.toDigits_ne_nil : Nat.toDigits 10 n ≠ [])
  have hdigit : digit.isDigit = true := @isDigit_of_mem_toDigits n digit (by rw [hdigits]; exact List.mem_cons_self)
  have hne : '-' ≠ digit := by
    rintro rfl
    exact absurd hdigit (by decide)
  rw [Positional, isOption, hasPrefix, hchars, hdigits]
  simp [List.isPrefixOf, hne]

variable {sizeBytes : Int} {pool name : String}

theorem positional_mebibytes (h : 0 ≤ sizeBytes) : Positional (Sessions.mebibytes sizeBytes) := by
  obtain ⟨n, rfl⟩ := Int.eq_ofNat_of_zero_le h
  exact positional_digits (n / 1048576) "M"

include hrep

theorem createVolume_refines (hready : Ready daemon h (.createVolume pool name sizeBytes)) :
    Refines daemon s h (.createVolume pool name sizeBytes) := by
  obtain ⟨hpool, hname, hsize⟩ := hready
  have hpositional : ∀ arg ∈ [pool, name, Sessions.mebibytes sizeBytes], Positional arg := by
    simp [hpool, hname, positional_mebibytes hsize]
  refine command_refines hrep ["vol-create-as", pool, name, Sessions.mebibytes sizeBytes, "--format", "qcow2"]
    (.volCreateAs pool name _ "qcow2" none) (congrArg Sessions.settled (runQuietly_eq _ _)) rfl hpositional ?_
  rw [Station.virsh, readSize_mebibytes hsize]
  exact addVolume_answer hrep _ pool name (.blank sizeBytes)

theorem createVolumeFromBackingStore_refines {pool name backingPath : String}
    (hready : Ready daemon h (.createVolumeFromBackingStore pool name backingPath sizeBytes)) :
    Refines daemon s h (.createVolumeFromBackingStore pool name backingPath sizeBytes) := by
  obtain ⟨hpool, hname, hsize⟩ := hready
  have hpositional : ∀ arg ∈ [pool, name, Sessions.mebibytes sizeBytes], Positional arg := by
    simp [hpool, hname, positional_mebibytes hsize]
  refine command_refines hrep ["vol-create-as", pool, name, Sessions.mebibytes sizeBytes, "--format", "qcow2",
      "--backing-vol-format", "qcow2", "--backing-vol", backingPath]
    (.volCreateAs pool name _ "qcow2" (some backingPath)) (congrArg Sessions.settled (runQuietly_eq _ _))
    rfl hpositional ?_
  rw [Station.virsh, readSize_mebibytes hsize]
  exact addVolume_answer hrep _ pool name (.overlay backingPath sizeBytes)

theorem cloneVolume_refines {pool sourceName targetName : String}
    (hready : Ready daemon h (.cloneVolume pool sourceName targetName)) :
    Refines daemon s h (.cloneVolume pool sourceName targetName) := by
  obtain ⟨hsource, htarget⟩ := hready
  have hpositional : ∀ arg ∈ [sourceName, targetName], Positional arg := by simp [hsource, htarget]
  refine command_refines hrep ["vol-clone", sourceName, targetName, "--pool", pool]
    (.volClone sourceName targetName pool) (congrArg Sessions.settled (runQuietly_eq _ _)) rfl hpositional ?_
  rw [Station.virsh, hrep.lookupVolume, Host.call, Host.cloneVolume]
  cases hlookup : h.lookupVolume pool sourceName with
  | error stderr => exact .fails (lookupVolume_mem hlookup) rfl
  | ok content =>
    exact addVolume_answer hrep ["vol-clone", sourceName, targetName, "--pool", pool] pool targetName content

theorem deleteVolume_refines (hname : Positional name) : Refines daemon s h (.deleteVolume pool name) := by
  refine command_refines hrep ["vol-delete", name, "--pool", pool] (.volDelete name pool)
    (congrArg Sessions.settled (runDeletion_eq _ _)) rfl (List.forall_mem_singleton.mpr hname) ?_
  rw [Station.virsh, hrep.lookupVolume, Host.call, Host.deleteVolume]
  cases hlookup : h.lookupVolume pool name with
  | error stderr => exact .fails (lookupVolume_mem hlookup) rfl
  | ok content => exact .succeeds (hrep.setVolume pool name none) rfl

theorem volumeExists_refines (hname : Positional name) : Refines daemon s h (.volumeExists pool name) := by
  refine command_refines hrep ["vol-info", name, "--pool", pool] (.volInfo name pool)
    rfl rfl (List.forall_mem_singleton.mpr hname) ?_
  rw [Station.virsh, hrep.lookupVolume, Host.call]
  cases hlookup : h.lookupVolume pool name with
  | error stderr => exact .fails (lookupVolume_mem hlookup) rfl
  | ok content => exact .succeeds hrep rfl

theorem getVolumePath_refines (hready : Ready daemon h (.getVolumePath pool name)) :
    Refines daemon s h (.getVolumePath pool name) := by
  obtain ⟨hname, hpath⟩ := hready
  refine command_refines hrep ["vol-path", name, "--pool", pool] (.volPath name pool)
    rfl rfl (List.forall_mem_singleton.mpr hname) ?_
  rw [Station.virsh, hrep.lookupVolume, hrep.pools, Host.call, Host.volumePath]
  cases hlookup : h.lookupVolume pool name with
  | error stderr =>
    cases h (.pool pool) <;> exact .fails (lookupVolume_mem hlookup) rfl
  | ok content =>
    cases hp : h (.pool pool) with
    | none => exact .fails (by simp [failureTexts]) rfl
    | some p =>
      refine .succeeds hrep ?_
      rw [trim_echoed (hpath p hp), Except.map, shown_ofString]

end Volumes

section Uploads

theorem temporary_upload (time : Nat) : temporary ("/tmp/caplv-upload-" ++ toString time) = true := by
  have hhead : "/tmp/caplv-upload-" = "/tmp/caplv-" ++ "upload-" := by decide
  rw [temporary, hhead, String.append_assoc]
  exact hasPrefix_append _ _

theorem setVolume_setVolume (pool name : String) (first second : Option Disk) :
    (s.setVolume pool name first).setVolume pool name second = s.setVolume pool name second := by
  simp [Station.setVolume]

theorem runArgs_volUpload (hrep : Represents s h) {pool name tmpFile : String} {disk : Disk} {content : Bytes}
    (hname : Positional name) (htemp : temporary tmpFile = true) (hpool : h.poolFailure pool = none)
    (hfile : s.files tmpFile = some content) :
    (s.setVolume pool name (some disk)).runArgs daemon ["vol-upload", name, tmpFile, "--pool", pool] =
      (s.setVolume pool name (some { disk with content := some content })).succeed [] := by
  have hpositional : ∀ arg ∈ [name, tmpFile], Positional arg := by simp [hname, positional_of_temporary htemp]
  have hlookup : (s.setVolume pool name (some disk)).lookupVolume pool name = .ok disk := by
    have hfailure : (s.setVolume pool name (some disk)).poolFailure pool = none := (hrep.poolFailure pool).trans hpool
    rw [Station.lookupVolume, hfailure]
    simp [Station.setVolume]
  have hfile' : (s.setVolume pool name (some disk)).files tmpFile = some content := hfile
  rw [runArgs_eq (.volUpload name tmpFile pool) rfl hpositional, Station.virsh, hlookup, hfile']
  simp only [setVolume_setVolume]

theorem runArgs_volCreateAs {pool name format : String} (hpool : Positional pool) (hname : Positional name)
    (sizeBytes : Nat) :
    s.runArgs daemon ["vol-create-as", pool, name, toString (sizeBytes : Int), "--format", format] =
      s.addVolume pool name ⟨format, sizeBytes, none, none⟩ := by
  have hsize := positional_digits sizeBytes ""
  rw [String.append_empty] at hsize
  have hpositional : ∀ arg ∈ [pool, name, toString (sizeBytes : Int)], Positional arg := by
    simp only [List.forall_mem_cons]
    exact ⟨hpool, hname, hsize, List.forall_mem_nil _⟩
  rw [runArgs_eq (.volCreateAs pool name (toString (sizeBytes : Int)) format none) rfl hpositional, Station.virsh,
    readSize_digits]

include hrep

theorem uploadVolumeFromBytes_refines {pool name : String} {data : Bytes}
    (hready : Ready daemon h (.uploadVolumeFromBytes pool name data)) :
    Refines daemon s h (.uploadVolumeFromBytes pool name data) := by
  obtain ⟨hpool, hname⟩ := hready
  let tmpFile := "/tmp/caplv-upload-" ++ toString s.clock
  have htemp : temporary tmpFile = true := temporary_upload s.clock
  let staged := { s with clock := s.clock + 1 }.setFile tmpFile (some data)
  have hstaged : Represents staged h := (hrep.tick (s.clock + 1)).setTemp htemp _
  have hcmd := @runArgs_volCreateAs daemon staged pool name "raw" hpool hname data.length
  rcases addVolume_cases hstaged pool name ⟨"raw", data.length, none, none⟩ (.bytes data)
    (fun stderr => classifyVirshError stderr "vol-create-as" "raw") with
    ⟨stderr, hstderr, hadd, hcreate⟩ | ⟨hadd, hactive, hcreate⟩
  · refine .intro hcreate (run_settled ?_) hstaged
    rw [Sessions.uploadVolumeFromBytes, run_bind, run_now, run_bind, run_upload htemp]
    change run _ (Sessions.runVirsh daemon.uri _ >>= _) staged = _
    rw [run_bind, run_virsh_fail (hcmd.trans hadd) hstderr]
    rfl
  · have hfile : staged.files tmpFile = some data := Function.update_self ..
    have hupload := @runArgs_volUpload daemon staged h hstaged pool name tmpFile
      ⟨"raw", data.length, none, none⟩ data hname htemp hactive hfile
    have hfilled : Represents (staged.setVolume pool name (some ⟨"raw", data.length, none, some data⟩)) _ :=
      hstaged.setVolume pool name (some (.bytes data))
    obtain ⟨after, hremove, hafter⟩ := @run_removeTemp daemon _ _ htemp _ hfilled
    refine .intro hcreate (run_settled ?_) hafter
    rw [Sessions.uploadVolumeFromBytes, run_bind, run_now, run_bind, run_upload htemp]
    change run _ (Sessions.runVirsh daemon.uri _ >>= _) staged = _
    rw [run_bind, run_virsh_ok (hcmd.trans hadd)]
    change run _ (Sessions.runQuietly daemon.uri _ >>= _) _ = _
    rw [run_bind, run_quietly_ok hupload]
    change run _ (Sessions.removeTemp tmpFile >>= _) _ = _
    rw [run_bind, hremove]
    rfl

theorem uploadQcow2Volume_refines {pool name : String} {content : Bytes} {virtualSizeBytes : Int}
    (hready : Ready daemon h (.uploadQcow2Volume pool name content virtualSizeBytes)) :
    Refines daemon s h (.uploadQcow2Volume pool name content virtualSizeBytes) := by
  obtain ⟨hpool, hname, hsize⟩ := hready
  obtain ⟨size, rfl⟩ := Int.eq_ofNat_of_zero_le hsize
  let tmpFile := "/tmp/caplv-upload-" ++ toString s.clock
  have htemp : temporary tmpFile = true := temporary_upload s.clock
  let staged := { s with clock := s.clock + 1 }.setFile tmpFile (some content)
  have hstaged : Represents staged h := (hrep.tick (s.clock + 1)).setTemp htemp _
  have hcmd := @runArgs_volCreateAs daemon staged pool name "qcow2" hpool hname size
  rcases addVolume_cases hstaged pool name ⟨"qcow2", size, none, none⟩ (.image content size)
    (fun stderr => .wrap ("vol-create-as " ++ pool ++ "/" ++ name) (classifyVirshError stderr "vol-create-as" "qcow2"))
    with ⟨stderr, hstderr, hadd, hcreate⟩ | ⟨hadd, hactive, hcreate⟩
  · obtain ⟨after, hremove, hafter⟩ := @run_removeTemp daemon _ _ htemp _ hstaged
    refine .intro hcreate (run_settled ?_) hafter
    rw [Sessions.uploadQcow2Volume, run_bind, run_now, run_bind, run_upload htemp]
    change run _ (Sessions.runVirsh daemon.uri _ >>= _) staged = _
    rw [run_bind, run_virsh_fail (hcmd.trans hadd) hstderr]
    change run _ (Sessions.removeTemp tmpFile >>= _) staged = _
    rw [run_bind, hremove]
    rfl
  · have hfile : staged.files tmpFile = some content := Function.update_self ..
    have hupload := @runArgs_volUpload daemon staged h hstaged pool name tmpFile
      ⟨"qcow2", size, none, none⟩ content hname htemp hactive hfile
    have hfilled : Represents (staged.setVolume pool name (some ⟨"qcow2", size, none, some content⟩)) _ :=
      hstaged.setVolume pool name (some (.image content size))
    obtain ⟨after, hremove, hafter⟩ := @run_removeTemp daemon _ _ htemp _ hfilled
    refine .intro hcreate (run_settled ?_) hafter
    rw [Sessions.uploadQcow2Volume, run_bind, run_now, run_bind, run_upload htemp]
    change run _ (Sessions.runVirsh daemon.uri _ >>= _) staged = _
    rw [run_bind, run_virsh_ok (hcmd.trans hadd)]
    change run _ (Sessions.runVirsh daemon.uri _ >>= _) _ = _
    rw [run_bind, run_virsh_ok hupload]
    change run _ (Sessions.removeTemp tmpFile >>= _) _ = _
    rw [run_bind, hremove]
    rfl

end Uploads

section Files

include hrep

variable {path : String}

theorem writeRemoteFile_refines {data : Bytes}
    (hready : Ready daemon h (.writeRemoteFile path data)) : Refines daemon s h (.writeRemoteFile path data) := by
  obtain ⟨hslash, -, hmount⟩ := hready
  have hinstall : s.effect daemon (.installDir (VirshClient.parentDir path)) [] = (.ok [], s) := rfl
  have htee : s.effect daemon (.tee path) data = (.ok [], s.setFile path (some data)) := by
    rw [Station.effect, if_pos (hrep.mounts_eq_zero hmount)]
  refine .intro (by simp [Host.call, Host.set]; rfl) ?_ (hrep.setFile path (some data))
  change run _ (Sessions.writeRemoteFile path data) s = _
  rw [Sessions.writeRemoteFile, if_pos hslash, run_bind, run_ssh_ok hinstall]
  change run _ (Sessions.session (.tee path) data >>= _) s = _
  rw [run_bind, run_session, htee]
  rfl

theorem remoteFileExists_refines (hready : Ready daemon h (.remoteFileExists path)) :
    Refines daemon s h (.remoteFileExists path) := by
  obtain ⟨htemp, hmount⟩ := hready
  refine .intro rfl (run_settled ?_) hrep
  rw [Sessions.remoteFileExists, run_bind, run_session, Station.effect, hrep.files path htemp,
    hrep.mounts_eq_zero hmount]
  have hpresent : trim (decode (echoed "present")) = ofString "present" := trim_echoed (by decide)
  have hmissing : trim (decode (echoed "missing")) = ofString "missing" := trim_echoed (by decide)
  cases h (.file path) with
  | none =>
    simp [hmissing]
    decide
  | some content => simp [hpresent]

theorem deleteRemoteFile_refines (hready : Ready daemon h (.deleteRemoteFile path)) :
    Refines daemon s h (.deleteRemoteFile path) := by
  obtain ⟨-, hmount⟩ := hready
  have hrm : s.effect daemon (.rm path) [] = (.ok [], s.setFile path none) := by
    rw [Station.effect, if_pos (hrep.mounts_eq_zero hmount)]
  exact .intro (by simp [Host.call, Host.erase]) (run_settled (run_ssh_ok hrm)) (hrep.setFile path none)

end Files

-- Every call, from the text of its first session to the output of its last.
theorem client_refines {call : ClientCall} (hready : Ready daemon h call) (hrep : Represents s h) :
    Refines daemon s h call := by
  cases call with
  | domainExists name => exact domainExists_refines hrep hready
  | getDomain name => exact getDomain_refines hrep hready
  | defineDomain xmlDef => exact defineDomain_refines hrep hready
  | startDomain name => exact startDomain_refines hrep hready
  | destroyDomain name => exact destroyDomain_refines hrep hready
  | undefineDomain name => exact undefineDomain_refines hrep hready
  | poolExists name => exact poolExists_refines hrep hready
  | poolIsActive name => exact poolIsActive_refines hrep hready
  | startPool name => exact startPool_refines hrep hready
  | createTmpfsPool name path size => exact createTmpfsPool_refines hrep hready
  | destroyPool name => exact destroyPool_refines hrep hready
  | volumeExists pool name => exact volumeExists_refines hrep hready
  | createVolumeFromBackingStore pool name backingPath sizeBytes =>
    exact createVolumeFromBackingStore_refines hrep hready
  | cloneVolume pool sourceName targetName => exact cloneVolume_refines hrep hready
  | createVolume pool name sizeBytes => exact createVolume_refines hrep hready
  | uploadVolumeFromBytes pool name data => exact uploadVolumeFromBytes_refines hrep hready
  | uploadQcow2Volume pool name content size => exact uploadQcow2Volume_refines hrep hready
  | deleteVolume pool name => exact deleteVolume_refines hrep hready
  | getVolumePath pool name => exact getVolumePath_refines hrep hready
  | writeRemoteFile path data => exact writeRemoteFile_refines hrep hready
  | remoteFileExists path => exact remoteFileExists_refines hrep hready
  | deleteRemoteFile path => exact deleteRemoteFile_refines hrep hready

end Calls

end Caplv.Libvirt
