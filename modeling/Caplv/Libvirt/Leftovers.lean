import Caplv.Host.Output
import Caplv.Libvirt.Upload
import Mathlib.Data.Finset.Basic

namespace Caplv.Libvirt

open Text Program
open Caplv.Host (DomainReport getDomain getDomain_ok)

-- strings.Index, on the characters of the string.
def indexOf {α : Type} [DecidableEq α] : List α → List α → Option Nat
  | [], part => if part.isEmpty then some 0 else none
  | c :: rest, part =>
    if part.isPrefixOf (c :: rest) then some 0 else (indexOf rest part).map (· + 1)

def nameOpen : List Char := "<name>".toList

def nameClose : List Char := "</name>".toList

def extractDomainNameFromXML (xml : String) : Except Panic String :=
  match indexOf xml.toList nameOpen, indexOf xml.toList nameClose with
  | some start, some stop =>
    if start < stop then do
      let name ← slice xml.toList (start + 6) stop
      .ok (String.ofList name)
    else .ok ""
  | _, _ => .ok ""

inductive DefineCommand where
  | stream (path : String) (content : Bytes)
  | define (path : String)
  | rm (path : String)
  | dominfo (name : String)
deriving DecidableEq, Repr

abbrev definitions : Signature := ⟨DefineCommand, fun _ => Except Failure Bytes⟩

namespace VirshClient

def uploadXMLFailure : Failure → GoError
  | .session message => .wrap "ssh session" (.text message)
  | .cancelled message | .exit _ message => .wrap "upload domain XML" (.text message)

-- A failed define returns before the temporary file is removed, and a failed dominfo after the
-- domain was defined.
def defineDomain (tmpFile xmlDef : String) : Prog definitions (Except Panic (Except GoError DomainReport)) := do
  match ← @Prog.perform definitions (.stream tmpFile (GoString.encode xmlDef.toList)) with
  | .error failure => .done (.ok (.error (uploadXMLFailure failure)))
  | .ok _ => do
      match ← @Prog.perform definitions (.define tmpFile) with
      | .error failure => .done (.ok (.error (virshFailure ["define", tmpFile] failure)))
      | .ok _ => do
          let _ ← @Prog.perform definitions (.rm tmpFile)
          match extractDomainNameFromXML xmlDef with
          | .error panic => .done (.error panic)
          | .ok name => do
              let reply ← @Prog.perform definitions (.dominfo name)
              .done (getDomain name reply)

end VirshClient

section Extraction

variable {α : Type} [DecidableEq α] {s part : List α} {i : Nat}

theorem indexOf_isPrefixOf_drop (h : indexOf s part = some i) : part.isPrefixOf (s.drop i) = true := by
  induction s generalizing i with
  | nil =>
    rw [indexOf] at h
    split at h
    · rename_i hpart
      rw [List.isEmpty_iff.mp hpart]
      rfl
    · cases h
  | cons c rest ih =>
    rw [indexOf] at h
    split at h
    · rename_i hhead
      obtain rfl := Option.some.inj h
      exact hhead
    · obtain ⟨j, hj, rfl⟩ := Option.map_eq_some_iff.mp h
      exact ih hj

theorem getElem?_of_indexOf (h : indexOf s part = some i) {k : Nat} (hk : k < part.length) :
    s[i + k]? = part[k]? := by
  obtain ⟨rest, hrest⟩ := List.isPrefixOf_iff_prefix.mp (indexOf_isPrefixOf_drop h)
  rw [← List.getElem?_drop, ← hrest, List.getElem?_append_left hk]

theorem index_add_length_le (h : indexOf s part = some i) (hpart : part ≠ []) :
    i + part.length ≤ s.length := by
  have hlast : part.length - 1 < part.length := Nat.sub_one_lt (List.length_eq_zero_iff.not.mpr hpart)
  have hget := getElem?_of_indexOf h hlast
  rw [List.getElem?_eq_getElem hlast] at hget
  obtain ⟨hlt, -⟩ := List.getElem?_eq_some_iff.mp hget
  omega

-- A closing tag stands behind the opening one when the latter has its first character only once.
theorem closing_after_opening {opening closing : List α} {start stop : Nat} (hstart : indexOf s opening = some start)
    (hstop : indexOf s closing = some stop) (hne : closing ≠ [])
    (hapart : ∀ k < opening.length - 1, opening[k + 1]? ≠ closing[0]?) (hlt : start < stop) :
    start + opening.length ≤ stop := by
  by_contra hoverlap
  obtain ⟨k, rfl⟩ := Nat.exists_eq_add_of_lt hlt
  have hopen : s[start + (k + 1)]? = opening[k + 1]? := getElem?_of_indexOf hstart (by omega)
  have hclose : s[start + k + 1 + 0]? = closing[0]? := getElem?_of_indexOf hstop (List.length_pos_of_ne_nil hne)
  exact hapart k (by omega) (hopen.symm.trans hclose)

theorem extractDomainNameFromXML_ok (xml : String) : ∃ name, extractDomainNameFromXML xml = .ok name := by
  unfold extractDomainNameFromXML
  split
  · rename_i start stop hstart hstop
    split
    · rename_i hlt
      have hbounds := index_add_length_le hstop (by decide)
      have hafter : start + 6 ≤ stop := closing_after_opening hstart hstop (by decide) (by decide) hlt
      rw [slice_of_le hafter (by omega)]
      exact ⟨_, rfl⟩
    · exact ⟨_, rfl⟩
  · exact ⟨_, rfl⟩

end Extraction

structure Remote where
  files : Finset String
  volumes : Finset (String × String)
  domains : Finset String
deriving DecidableEq

-- The commands that can fail. A stream that is cut leaves a part of the file behind.
inductive Trouble where
  | stream
  | streamCut
  | volCreateAs
  | volUpload
  | define
  | dominfo
deriving DecidableEq, Repr

-- The host during a call, and the commands of the call that have failed.
structure Trial where
  host : Remote
  failed : List Trouble

namespace Trial

def fail (trial : Trial) (trouble : Trouble) : Trial := { trial with failed := trouble :: trial.failed }

def write (trial : Trial) (path : String) : Trial :=
  { trial with host.files := insert path trial.host.files }

def remove (trial : Trial) (path : String) : Trial :=
  { trial with host.files := trial.host.files.erase path }

def create (trial : Trial) (pool name : String) : Trial :=
  { trial with host.volumes := insert (pool, name) trial.host.volumes }

def delete (trial : Trial) (pool name : String) : Trial :=
  { trial with host.volumes := trial.host.volumes.erase (pool, name) }

def define (trial : Trial) (domain : String) : Trial :=
  { trial with host.domains := insert domain trial.host.domains }

end Trial

-- Any command may fail but those that clean up.
inductive UploadTrial (before : Trial) : UploadCommand → Except Failure String → Trial → Prop where
  | stream (path : String) (content : Bytes) (out : String) :
      UploadTrial before (.stream path content) (.ok out) (before.write path)
  | streamFails (path : String) (content : Bytes) (failure : Failure) :
      UploadTrial before (.stream path content) (.error failure) (before.fail .stream)
  | streamCut (path : String) (content : Bytes) (failure : Failure) :
      UploadTrial before (.stream path content) (.error failure) ((before.write path).fail .streamCut)
  | create (pool name : String) (sizeBytes : Int) (out : String) (h : (pool, name) ∉ before.host.volumes) :
      UploadTrial before (.volCreateAs pool name sizeBytes) (.ok out) (before.create pool name)
  | createFails (pool name : String) (sizeBytes : Int) (failure : Failure) :
      UploadTrial before (.volCreateAs pool name sizeBytes) (.error failure) (before.fail .volCreateAs)
  | upload (name path pool : String) (out : String) (h : (pool, name) ∈ before.host.volumes)
      (hfile : path ∈ before.host.files) :
      UploadTrial before (.volUpload name path pool) (.ok out) before
  | uploadFails (name path pool : String) (failure : Failure) :
      UploadTrial before (.volUpload name path pool) (.error failure) (before.fail .volUpload)
  | delete (name pool : String) (out : String) :
      UploadTrial before (.volDelete name pool) (.ok out) (before.delete pool name)
  | rm (path : String) (out : String) : UploadTrial before (.rm path) (.ok out) (before.remove path)

-- `domain` is the name the defined XML gives.
inductive DefineTrial (domain : String) (before : Trial) :
    DefineCommand → Except Failure Bytes → Trial → Prop where
  | stream (path : String) (content stdout : Bytes) :
      DefineTrial domain before (.stream path content) (.ok stdout) (before.write path)
  | streamFails (path : String) (content : Bytes) (failure : Failure) :
      DefineTrial domain before (.stream path content) (.error failure) (before.fail .stream)
  | streamCut (path : String) (content : Bytes) (failure : Failure) :
      DefineTrial domain before (.stream path content) (.error failure) ((before.write path).fail .streamCut)
  | define (path : String) (stdout : Bytes) (h : path ∈ before.host.files) :
      DefineTrial domain before (.define path) (.ok stdout) (before.define domain)
  | defineFails (path : String) (failure : Failure) :
      DefineTrial domain before (.define path) (.error failure) (before.fail .define)
  | rm (path : String) (stdout : Bytes) :
      DefineTrial domain before (.rm path) (.ok stdout) (before.remove path)
  | dominfo (name : String) (stdout : Bytes) (h : name ∈ before.host.domains) :
      DefineTrial domain before (.dominfo name) (.ok stdout) before
  | dominfoFails (name : String) (failure : Failure) :
      DefineTrial domain before (.dominfo name) (.error failure) (before.fail .dominfo)

-- No file of the call is left, and none of its volumes and domains either if it failed.
structure LeavesNothing {α : Type} (before : Remote) (result : Except GoError α) (after : Remote) : Prop where
  files : after.files ⊆ before.files
  volumes : ∀ err, result = .error err → after.volumes ⊆ before.volumes
  domains : ∀ err, result = .error err → after.domains ⊆ before.domains

section LeavesNothing

variable {α : Type} (before after : Remote)

theorem leavesNothing_error_iff (err : GoError) :
    LeavesNothing before (.error err : Except GoError α) after ↔ after.files ⊆ before.files ∧
      after.volumes ⊆ before.volumes ∧ after.domains ⊆ before.domains :=
  ⟨fun h => ⟨h.files, h.volumes err rfl, h.domains err rfl⟩,
    fun h => ⟨h.1, fun _ _ => h.2.1, fun _ _ => h.2.2⟩⟩

theorem leavesNothing_ok_iff (value : α) :
    LeavesNothing before (.ok value : Except GoError α) after ↔ after.files ⊆ before.files :=
  ⟨fun h => h.files, fun h => ⟨h, nofun, nofun⟩⟩

end LeavesNothing

section Calls

variable (tmpFile pool name xmlDef : String) (content : Bytes) (before : Remote)

abbrev unguarded {sig : Signature} : Trial → sig.Op → Prop := fun _ _ => True

theorem uploadQcow2Volume_leavesNothing_iff (virtualSizeBytes : Int) :
    @Holds uploads _ _ UploadTrial unguarded
      (fun result after => LeavesNothing before result after.host ↔
        (tmpFile ∉ before.files → .streamCut ∉ after.failed))
      (VirshClient.uploadQcow2Volume tmpFile pool name content virtualSizeBytes) ⟨before, []⟩ := by
  refine ⟨trivial, fun reply streamed hstep => ?_⟩
  cases hstep with
  | streamFails path content failure =>
    refine (leavesNothing_error_iff _ _ _).trans ?_
    simp [Trial.fail]
  | streamCut path content failure =>
    refine (leavesNothing_error_iff _ _ _).trans ?_
    simp [Trial.fail, Trial.write, Finset.insert_subset_iff]
  | stream path content out =>
    refine ⟨trivial, fun reply made hstep => ?_⟩
    cases hstep with
    | createFails pool name sizeBytes failure =>
      refine ⟨trivial, fun reply cleaned hstep => ?_⟩
      cases hstep
      refine (leavesNothing_error_iff _ _ _).trans ?_
      simp [Trial.fail, Trial.write, Trial.remove, Finset.erase_subset]
    | create pool name sizeBytes out hmissing =>
      refine ⟨trivial, fun reply sent hstep => ?_⟩
      cases hstep with
      | uploadFails name path pool failure =>
        refine ⟨trivial, fun reply undone hstep => ?_⟩
        cases hstep
        refine ⟨trivial, fun reply cleaned hstep => ?_⟩
        cases hstep
        refine (leavesNothing_error_iff _ _ _).trans ?_
        simp [Trial.fail, Trial.write, Trial.remove, Trial.create, Trial.delete, Finset.erase_subset]
      | upload name path pool out hpresent hfile =>
        refine ⟨trivial, fun reply cleaned hstep => ?_⟩
        cases hstep
        refine (leavesNothing_ok_iff _ _ _).trans ?_
        simp [Trial.write, Trial.remove, Trial.create, Finset.erase_subset]

theorem uploadVolumeFromBytes_leavesNothing_iff :
    @Holds uploads _ _ UploadTrial unguarded
      (fun result after => LeavesNothing before result after.host ↔
        (tmpFile ∉ before.files → .streamCut ∉ after.failed ∧ .volCreateAs ∉ after.failed) ∧
          .volUpload ∉ after.failed)
      (VirshClient.uploadVolumeFromBytes tmpFile pool name content) ⟨before, []⟩ := by
  refine ⟨trivial, fun reply streamed hstep => ?_⟩
  cases hstep with
  | streamFails path content failure =>
    refine (leavesNothing_error_iff _ _ _).trans ?_
    simp [Trial.fail]
  | streamCut path content failure =>
    refine (leavesNothing_error_iff _ _ _).trans ?_
    simp [Trial.fail, Trial.write, Finset.insert_subset_iff]
  | stream path content out =>
    refine ⟨trivial, fun reply made hstep => ?_⟩
    cases hstep with
    | createFails pool name sizeBytes failure =>
      refine (leavesNothing_error_iff _ _ _).trans ?_
      simp [Trial.fail, Trial.write, Finset.insert_subset_iff]
    | create pool name sizeBytes out hmissing =>
      have hnew : (pool, name) ∉ before.volumes := hmissing
      refine ⟨trivial, fun reply sent hstep => ?_⟩
      cases hstep with
      | uploadFails name path pool failure =>
        refine ⟨trivial, fun reply cleaned hstep => ?_⟩
        cases hstep
        refine (leavesNothing_error_iff _ _ _).trans ?_
        simp [Trial.fail, Trial.write, Trial.remove, Trial.create, Finset.insert_subset_iff, hnew]
      | upload name path pool out hpresent hfile =>
        refine ⟨trivial, fun reply cleaned hstep => ?_⟩
        cases hstep
        refine (leavesNothing_ok_iff _ _ _).trans ?_
        simp [Trial.write, Trial.remove, Trial.create, Finset.erase_subset]

theorem defineDomain_leavesNothing_iff (domain : String) :
    @Holds definitions _ _ (DefineTrial domain) unguarded
      (fun result after => ∃ returned, result = .ok returned ∧ (LeavesNothing before returned after.host ↔
        (tmpFile ∉ before.files → .streamCut ∉ after.failed ∧ .define ∉ after.failed) ∧
          (domain ∉ before.domains → .dominfo ∉ after.failed)))
      (VirshClient.defineDomain tmpFile xmlDef) ⟨before, []⟩ := by
  refine ⟨trivial, fun reply streamed hstep => ?_⟩
  cases hstep with
  | streamFails path content failure =>
    refine ⟨_, rfl, (leavesNothing_error_iff _ _ _).trans ?_⟩
    simp [Trial.fail]
  | streamCut path content failure =>
    refine ⟨_, rfl, (leavesNothing_error_iff _ _ _).trans ?_⟩
    simp [Trial.fail, Trial.write, Finset.insert_subset_iff]
  | stream path content stdout =>
    refine ⟨trivial, fun reply defined hstep => ?_⟩
    cases hstep with
    | defineFails path failure =>
      refine ⟨_, rfl, (leavesNothing_error_iff _ _ _).trans ?_⟩
      simp [Trial.fail, Trial.write, Finset.insert_subset_iff]
    | define path stdout hfile =>
      refine ⟨trivial, fun reply cleaned hstep => ?_⟩
      cases hstep
      obtain ⟨name, hname⟩ := extractDomainNameFromXML_ok xmlDef
      rw [hname]
      refine ⟨trivial, fun reply shown hstep => ?_⟩
      cases hstep with
      | dominfoFails name failure =>
        refine ⟨_, rfl, (leavesNothing_error_iff _ _ _).trans ?_⟩
        simp [Trial.fail, Trial.write, Trial.remove, Trial.define, Finset.erase_subset,
          Finset.insert_subset_iff]
      | dominfo name stdout hdefined =>
        obtain ⟨report, hreport⟩ := getDomain_ok name stdout
        refine ⟨.ok report, hreport, (leavesNothing_ok_iff _ _ _).trans ?_⟩
        simp [Trial.write, Trial.remove, Trial.define, Finset.erase_subset]

-- For each call and every run of it: what is left behind is decided by which command failed. A
-- cut stream leaves the temporary file in all three, a failed vol-create-as or define does in
-- the two that do not clean up after it; a failed vol-upload leaves the volume and a failed
-- dominfo the domain.
theorem calls_leavesNothing_iff (domain : String) (virtualSizeBytes : Int) :
    @Holds definitions _ _ (DefineTrial domain) unguarded
      (fun result after => ∃ returned, result = .ok returned ∧ (LeavesNothing before returned after.host ↔
        (tmpFile ∉ before.files → .streamCut ∉ after.failed ∧ .define ∉ after.failed) ∧
          (domain ∉ before.domains → .dominfo ∉ after.failed)))
      (VirshClient.defineDomain tmpFile xmlDef) ⟨before, []⟩ ∧
    @Holds uploads _ _ UploadTrial unguarded
      (fun result after => LeavesNothing before result after.host ↔
        (tmpFile ∉ before.files → .streamCut ∉ after.failed ∧ .volCreateAs ∉ after.failed) ∧
          .volUpload ∉ after.failed)
      (VirshClient.uploadVolumeFromBytes tmpFile pool name content) ⟨before, []⟩ ∧
    @Holds uploads _ _ UploadTrial unguarded
      (fun result after => LeavesNothing before result after.host ↔
        (tmpFile ∉ before.files → .streamCut ∉ after.failed))
      (VirshClient.uploadQcow2Volume tmpFile pool name content virtualSizeBytes) ⟨before, []⟩ :=
  ⟨defineDomain_leavesNothing_iff tmpFile xmlDef before domain,
    uploadVolumeFromBytes_leavesNothing_iff tmpFile pool name content before,
    uploadQcow2Volume_leavesNothing_iff tmpFile pool name content before virtualSizeBytes⟩

end Calls

def emptyRemote : Remote := ⟨∅, ∅, ∅⟩

def brokenPipe : Failure := .exit "" "Process exited with status 1"

-- One run of each call, with one failing command: dominfo leaves the domain, vol-create-as and
-- a stream that is cut leave the temporary file.
theorem failed_calls_leave_things :
    (∃ err after, @Completes definitions _ _ (DefineTrial "vm")
      (VirshClient.defineDomain "/tmp/caplv-domain-1.xml" "<name>vm</name>") ⟨emptyRemote, []⟩
        (.ok (.error err)) after ∧ after.failed = [.dominfo] ∧
          ¬ LeavesNothing emptyRemote (.error err : Except GoError DomainReport) after.host) ∧
    (∃ err after, @Completes uploads _ _ UploadTrial
      (VirshClient.uploadVolumeFromBytes "/tmp/caplv-upload-1" "default" "vm-bootstrap.iso" [0])
        ⟨emptyRemote, []⟩ (.error err) after ∧ after.failed = [.volCreateAs] ∧
          ¬ LeavesNothing emptyRemote (.error err : Except GoError Unit) after.host) ∧
    ∃ err after, @Completes uploads _ _ UploadTrial
      (VirshClient.uploadQcow2Volume "/tmp/caplv-upload-1" "default" "base.qcow2" [0] 1)
        ⟨emptyRemote, []⟩ (.error err) after ∧ after.failed = [.streamCut] ∧
          ¬ LeavesNothing emptyRemote (.error err : Except GoError Unit) after.host := by
  refine ⟨?_, ?_, ?_⟩
  · refine ⟨_, _, ⟨_, .ask (.stream _ _ []) (.ask (.define _ [] ?_) (.ask (.rm _ [])
      (.ask (.dominfoFails _ brokenPipe) (.refl _ _))))⟩, rfl, ?_⟩
    · decide
    · intro hnothing
      exact absurd (hnothing.domains _ rfl) (by decide)
  · refine ⟨_, _, ⟨_, .ask (.stream _ _ "") (.ask (.createFails _ _ _ brokenPipe) (.refl _ _))⟩, rfl, ?_⟩
    intro hnothing
    exact absurd hnothing.files (by decide)
  · refine ⟨_, _, ⟨_, .ask (.streamCut _ _ brokenPipe) (.refl _ _)⟩, rfl, ?_⟩
    intro hnothing
    exact absurd hnothing.files (by decide)

end Caplv.Libvirt
