import Caplv.Libvirt.Sessions
import Caplv.Libvirt.StationOutput
import Caplv.Libvirt.Tmpfs

namespace Caplv.Libvirt

open Text Program GoString
open Sessions (session settled)

-- A session of which nothing but the failure is used.
def silent (cmd : RemoteCommand) (stdin : Bytes) : Prog sessions (Except Failure String) := do
  let reply ← session cmd stdin
  .done (reply.map fun _ => "")

def virsh (connURI : String) (args : List String) (read : GoString → String) :
    Prog sessions (Except Failure String) := do
  let reply ← session (.virsh connURI args) []
  .done (reply.map fun stdout => read (trim (decode stdout)))

def pathText (output : GoString) : String :=
  match extractXMLElement output "path" with
  | .ok poolPath => shown poolPath
  | .error _ => ""

def stateText (output : GoString) : String :=
  match Caplv.Host.poolState (lines output) with
  | .ok (some state) => shown (trim state)
  | _ => ""

section Commands

variable (connURI : String)

-- The sessions the commands of each part of the client are run in.
def Command.session : Command → Prog sessions (Except Failure String)
  | .umount path => silent (.umount path) []
  | .rmdir path => silent (.rmdir path) []
  | .rm path => silent (.rm path) []
  | .poolDumpxml name => virsh connURI ["pool-dumpxml", name] pathText
  | cmd => virsh connURI cmd.args shown

def PoolCommand.session : PoolCommand → Prog sessions (Except Failure String)
  | .mkdir path => silent (.mkdir path) []
  | .mount path size => silent (.mount path size) []
  | .poolInfo name => virsh connURI ["pool-info", name] stateText
  | cmd => virsh connURI cmd.args shown

def tmpfsSession : (op : tmpfs.Op) → Prog sessions (tmpfs.Reply op)
  | .inl cmd => cmd.session connURI
  | .inr cmd => cmd.session connURI

def UploadCommand.session (format : String) : UploadCommand → Prog sessions (Except Failure String)
  | .stream path content => silent (.upload path) content
  | .rm path => silent (.removeUpload path) []
  | .volCreateAs pool name sizeBytes =>
    virsh connURI ["vol-create-as", pool, name, toString sizeBytes, "--format", format] shown
  | cmd => virsh connURI cmd.args shown

def DefineCommand.session : DefineCommand → Prog sessions (Except Failure Bytes)
  | .stream path content => Sessions.session (.upload path) content
  | .define path => Sessions.session (.virsh connURI ["define", path]) []
  | .rm path => Sessions.session (.removeUpload path) []
  | .dominfo name => Sessions.session (.virsh connURI ["dominfo", name]) []

-- The opening of the file is part of the session that writes it.
def FileCommand.session : FileCommand → Prog sessions (Except Failure String)
  | .installDir dir => silent (.installDir dir) []
  | .openTee _ _ => .done (.ok "")
  | .endTee path data => silent (.tee path) data

end Commands

section Readings

theorem shown_eq_iff {s : GoString} {text : String} (htext : Char.ofNat 0xFFFD ∉ text.toList) :
    shown s = text ↔ s = ofString text := by
  constructor
  · rintro rfl
    rw [shown, String.toList_ofList] at htext
    rw [shown, ofString, String.toList_ofList, List.map_map]
    refine (List.map_id s).symm.trans (List.map_congr_left fun rune hrune => ?_)
    cases rune with
    | char c => rfl
    | byte b => exact absurd (List.mem_map_of_mem hrune) htext
  · rintro rfl
    exact shown_ofString text

theorem extractXMLElement_path_ok (output : GoString) :
    ∃ poolPath, extractXMLElement output "path" = .ok poolPath ∧ (pathText output = "" ↔ poolPath = []) ∧
      pathText output = shown poolPath := by
  have hread : ∃ poolPath, extractXMLElement output "path" = .ok poolPath := by
    unfold extractXMLElement
    split
    · rename_i start stop hstart hstop
      split
      · rename_i hlt
        have hbounds := index_add_length_le hstop (by decide)
        have hafter : start + 4 + 2 ≤ stop := closing_after_opening hstart hstop (by decide) (by decide) hlt
        exact ⟨_, slice_of_le hafter (by omega)⟩
      · exact ⟨_, rfl⟩
    · exact ⟨_, rfl⟩
  obtain ⟨poolPath, hpath⟩ := hread
  have htext : pathText output = shown poolPath := by rw [pathText, hpath]
  exact ⟨poolPath, hpath, by rw [htext]; exact shown_eq_iff (by decide), htext⟩

theorem poolIsActive_stateText (name : String) (stdout : Bytes) :
    Caplv.Host.poolIsActive name (.ok stdout) = .ok (.ok (stateText (trim (decode stdout)) == "running")) := by
  obtain ⟨state, hstate⟩ := Caplv.Host.poolState_ok (lines (trim (decode stdout)))
  change (Caplv.Host.poolState (lines (trim (decode stdout))) >>= _) = _
  rw [stateText, hstate]
  cases state with
  | none => rfl
  | some state =>
    have hiff := @shown_eq_iff (trim state) "running" (by decide)
    refine congrArg (fun running => Except.ok (Except.ok running)) ?_
    rw [Bool.eq_iff_iff, beq_iff_eq, beq_iff_eq, hiff]

end Readings

section Parts

variable (connURI : String)

theorem ask_congr {sig : Signature} {α : Type} {op : sig.Op} {first second : sig.Reply op → Prog sig α}
    (h : ∀ reply, first reply = second reply) : Prog.ask op first = Prog.ask op second :=
  congrArg (Prog.ask op) (funext h)

section Ignored

variable {α : Type} (impl : (cmd : Command) → Prog sessions (Except Failure String)) (cmd : Command)
  (rest : Prog shell α)

theorem translate_runVirsh :
    Prog.translate impl (runVirsh cmd >>= fun _ => rest) = impl cmd >>= fun _ => rest.translate impl := by
  refine congrArg (impl cmd >>= ·) (funext fun reply => ?_)
  cases reply <;> rfl

theorem translate_runSSH :
    Prog.translate impl (runSSH cmd >>= fun _ => rest) = impl cmd >>= fun _ => rest.translate impl := by
  refine congrArg (impl cmd >>= ·) (funext fun reply => ?_)
  cases reply <;> rfl

end Ignored

theorem destroyPool_sessions (name : String) :
    Sessions.destroyPool connURI name =
      settled ((VirshClient.destroyPool name).translate (Command.session connURI)) := by
  refine ask_congr fun reply => ?_
  cases reply with
  | error failure => rfl
  | ok stdout =>
    obtain ⟨poolPath, hpath, hempty, htext⟩ := extractXMLElement_path_ok (trim (decode stdout))
    simp only [Prog.bind, Caplv.Host.virshOutput, Except.map, hpath, translate_runVirsh]
    refine ask_congr fun _ => ask_congr fun _ => ?_
    by_cases hnone : poolPath = []
    · rw [if_pos hnone, if_pos (hempty.mpr hnone)]
      rfl
    · rw [if_neg hnone, if_neg (mt hempty.mp hnone), translate_runSSH, translate_runSSH, htext]
      refine ask_congr fun unmounted => ?_
      cases unmounted <;>
        refine ask_congr fun removed => ?_ <;>
        cases removed <;> rfl

theorem deletion_sessions {call : ClientCall} {prog : Prog shell (Except GoError call.Result)}
    (h : VirshClient.deletion call = some prog) :
    Sessions.perform connURI call = settled (prog.translate (Command.session connURI)) := by
  cases call with
  | destroyDomain | undefineDomain | deleteVolume | deleteRemoteFile =>
    obtain rfl := Option.some.inj h
    refine ask_congr fun reply => ?_
    cases reply <;> rfl
  | destroyPool name =>
    obtain rfl := Option.some.inj h
    exact destroyPool_sessions connURI name
  | _ => cases h

theorem poolExists_sessions (name : String) :
    Sessions.poolExists connURI name = (VirshClient.poolExists name).translate (tmpfsSession connURI) := by
  refine ask_congr fun reply => ?_
  cases reply <;> rfl

theorem poolIsActive_sessions (name : String) :
    Sessions.poolIsActive connURI name =
      settled ((VirshClient.poolIsActive name).translate (tmpfsSession connURI)) := by
  refine ask_congr fun reply => ?_
  cases reply with
  | error failure => rfl
  | ok stdout => exact congrArg Prog.done (poolIsActive_stateText name stdout)

theorem startPool_sessions (name : String) :
    Sessions.startPool connURI name = (VirshClient.startPool name).translate (tmpfsSession connURI) := by
  refine ask_congr fun reply => ?_
  cases reply <;> rfl

theorem createTmpfsPool_sessions (name path size : String) :
    Sessions.createTmpfsPool connURI name path size =
      (VirshClient.createTmpfsPool name path size).translate (tmpfsSession connURI) := by
  refine ask_congr fun installed => ?_
  cases installed with
  | error failure => rfl
  | ok _ =>
    refine ask_congr fun mounted => ?_
    cases mounted with
    | error failure => rfl
    | ok _ =>
      refine ask_congr fun defined => ?_
      cases defined with
      | error failure => rfl
      | ok _ =>
        refine ask_congr fun started => ?_
        cases started <;> rfl

-- A call that makes up the name of its temporary file from the clock.
def timed {α : Type} (call : Nat → Prog sessions α) : Prog sessions α := .ask .now call

theorem uploadQcow2Volume_sessions (pool name : String) (content : Bytes) (virtualSizeBytes : Int) :
    Sessions.uploadQcow2Volume connURI pool name content virtualSizeBytes = timed fun time =>
      (VirshClient.uploadQcow2Volume ("/tmp/caplv-upload-" ++ toString time) pool name content
        virtualSizeBytes).translate (UploadCommand.session connURI "qcow2") := by
  refine ask_congr fun time => ask_congr fun streamed => ?_
  cases streamed with
  | error failure => rfl
  | ok _ =>
    refine ask_congr fun created => ?_
    cases created with
    | error failure => exact ask_congr fun _ => rfl
    | ok _ =>
      refine ask_congr fun uploaded => ?_
      cases uploaded with
      | error failure => exact ask_congr fun _ => ask_congr fun _ => rfl
      | ok _ => exact ask_congr fun _ => rfl

theorem uploadVolumeFromBytes_sessions (pool name : String) (data : Bytes) :
    Sessions.uploadVolumeFromBytes connURI pool name data = timed fun time =>
      (VirshClient.uploadVolumeFromBytes ("/tmp/caplv-upload-" ++ toString time) pool name data).translate
        (UploadCommand.session connURI "raw") := by
  refine ask_congr fun time => ask_congr fun streamed => ?_
  cases streamed with
  | error failure => rfl
  | ok _ =>
    refine ask_congr fun created => ?_
    cases created with
    | error failure => rfl
    | ok _ =>
      refine ask_congr fun uploaded => ?_
      cases uploaded <;> exact ask_congr fun _ => rfl

theorem defineDomain_sessions (xmlDef : String) :
    Sessions.defineDomain connURI xmlDef = timed fun time => (do
      let result ← (VirshClient.defineDomain ("/tmp/caplv-domain-" ++ toString time ++ ".xml") xmlDef).translate
        (DefineCommand.session connURI)
      .done (result.map fun info => info.map reportedInfo)) := by
  refine ask_congr fun time => ask_congr fun streamed => ?_
  cases streamed with
  | error failure => rfl
  | ok _ =>
    refine ask_congr fun defined => ?_
    cases defined with
    | error failure => rfl
    | ok _ =>
      refine ask_congr fun _ => ?_
      obtain ⟨name, hname⟩ := extractDomainNameFromXML_ok xmlDef
      simp only [Prog.bind, hname]
      exact ask_congr fun _ => rfl

theorem writeRemoteFile_sessions {path : String} (hpath : '/' ∈ path.toList) (data : Bytes) :
    Sessions.writeRemoteFile path data =
      settled ((VirshClient.writeRemoteFile path data).translate FileCommand.session) := by
  rw [Sessions.writeRemoteFile, if_pos hpath]
  refine ask_congr fun installed => ?_
  cases installed with
  | error failure => rfl
  | ok _ =>
    refine ask_congr fun teed => ?_
    cases teed <;> rfl

end Parts

end Caplv.Libvirt
