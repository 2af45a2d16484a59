import Caplv.Ignition.Json
import Caplv.Ignition.NMConnection
import Caplv.Keyed
import Caplv.PathEscape

namespace Caplv.Ignition

open Libvirt Controller Keyed Keyfile PathEscape

def ensureStorage (config : Object) : Object := (asObject (config.get "storage")).getD []

def getFiles (storage : Object) : List Json := (asArray (storage.get "files")).getD []

-- The path an element of storage.files is compared by; an element that is no object has none.
def pathOf : Json → Option String
  | .object fm => some ((asString (Object.get fm "path")).getD "")
  | _ => none

def fileEntry (path source : String) (mode : Nat) (isV3 : Bool) : Json :=
  .object ([("path", .string path), ("mode", .number mode), ("contents", .object [("source", .string source)])] ++
    [if isV3 then ("overwrite", .bool true) else ("filesystem", .string "root")])

def injectFile (config : Object) (path source : String) (mode : Nat) (isV3 : Bool) : Object :=
  let storage := ensureStorage config
  let filtered := (getFiles storage).filter fun f => pathOf f ≠ some path
  config.set "storage" (.object (storage.set "files" (.array (filtered ++ [fileEntry path source mode isV3]))))

-- The version check both injections begin with; true for 3.x.
def versionOf (config : Object) : Except GoError Bool :=
  match config.get "ignition" with
  | some (.object ignSection) =>
    let version := (asString (Object.get ignSection "version")).getD ""
    if version.toList.head? = some '3' then .ok true
    else if version.toList.head? = some '2' then .ok false
    else .error (.text ("unsupported ignition version: " ++ version))
  | _ => .error (.text "ignition config missing 'ignition' section")

def dropinContents (providerID : String) : String :=
  "[Service]\nEnvironment=\"KUBELET_PROVIDERID_FLAG=--provider-id=" ++ providerID ++ "\"\n"

def injectKubeletProviderIDEnv (config : Object) (providerID : String) (isV3 : Bool) : Object :=
  injectFile config "/etc/kubernetes/caplv-provider-id"
    ("data:," ++ pathEscape ("KUBELET_PROVIDER_ID=" ++ providerID)) 0o644 isV3

-- InjectMachineMetadata between json.Unmarshal and json.Marshal.
def injectMachineMetadata (config : Object) (hostname providerID : String) : Except GoError Object := do
  let isV3 ← versionOf config
  let config := if hostname ≠ "" then injectFile config "/etc/hostname" ("data:," ++ hostname) 0o644 isV3 else config
  let config :=
    if providerID ≠ "" then
      injectKubeletProviderIDEnv
        (injectFile config "/etc/systemd/system/kubelet.service.d/90-provider-id.conf"
          ("data:," ++ pathEscape (dropinContents providerID)) 0o644 isV3) providerID isV3
    else config
  .ok config

def nmConnectionPath : String := "/etc/NetworkManager/system-connections/enp1s0.nmconnection"

-- InjectStaticNetwork, likewise.
def injectStaticNetwork (config : Object) (net : NetworkConfig) : Except GoError Object :=
  if net.addresses.length = 0 then .ok config
  else do
    let isV3 ← versionOf config
    .ok (injectFile config nmConnectionPath ("data:," ++ pathEscape (generateNMConnection (withDefaultDNS net)))
      0o600 isV3)

def metadataEntries (hostname providerID : String) (isV3 : Bool) : List Json :=
  (if hostname ≠ "" then [fileEntry "/etc/hostname" ("data:," ++ hostname) 0o644 isV3] else []) ++
  (if providerID ≠ "" then
    [fileEntry "/etc/systemd/system/kubelet.service.d/90-provider-id.conf"
      ("data:," ++ pathEscape (dropinContents providerID)) 0o644 isV3,
     fileEntry "/etc/kubernetes/caplv-provider-id"
      ("data:," ++ pathEscape ("KUBELET_PROVIDER_ID=" ++ providerID)) 0o644 isV3]
   else [])

def networkEntries (net : NetworkConfig) (isV3 : Bool) : List Json :=
  if net.addresses.length = 0 then []
  else [fileEntry nmConnectionPath ("data:," ++ pathEscape (generateNMConnection (withDefaultDNS net))) 0o600 isV3]

-- A file the machine is to have: where, with which permissions, and what its source has to be.
structure WantedFile where
  path : String
  mode : Nat
  source : String → Prop

-- The hostname stands in its URL as it is, which a reader of the URL takes for the hostname where no
-- character of it has a meaning there.
def HostnameSource (hostname source : String) : Prop :=
  source = "data:," ++ hostname ∧ ((∀ c ∈ hostname.toList, UrlChar c ∧ c ≠ '%') → IsDataURL source hostname)

def metadataFiles (hostname providerID : String) : List WantedFile :=
  (if hostname = "" then [] else [⟨"/etc/hostname", 420, HostnameSource hostname⟩]) ++
  (if providerID = "" then []
   else
    [⟨"/etc/systemd/system/kubelet.service.d/90-provider-id.conf", 420, (IsDataURL ·
        ("[Service]\nEnvironment=\"KUBELET_PROVIDERID_FLAG=--provider-id=" ++ providerID ++ "\"\n"))⟩,
     ⟨"/etc/kubernetes/caplv-provider-id", 420, (IsDataURL · ("KUBELET_PROVIDER_ID=" ++ providerID))⟩])

-- The keyfile with the groups and keys asked for, the gateway as the DNS server where none is given.
def keyfileText (net : NetworkConfig) : String :=
  render ((document (written { net with
    dnsServers := if net.dnsServers = [] ∧ net.gateway ≠ "" then [net.gateway] else net.dnsServers })).map Line.text)

def networkFiles (net : NetworkConfig) : List WantedFile :=
  if net.addresses = [] then []
  else [⟨"/etc/NetworkManager/system-connections/enp1s0.nmconnection", 384, (IsDataURL · (keyfileText net))⟩]

-- An element of storage.files as spec 3.x and spec 2.x have it.
structure Describes (isV3 : Bool) (file : WantedFile) (fields : Object) : Prop where
  path : fields.get "path" = some (.string file.path)
  mode : fields.get "mode" = some (.number file.mode)
  contents : ∃ source, fields.get "contents" = some (.object [("source", .string source)]) ∧ file.source source
  overwrite : fields.get "overwrite" = if isV3 then some (.bool true) else none
  filesystem : fields.get "filesystem" = if isV3 then none else some (.string "root")
  nothingElse : ∀ key ∉ ["path", "mode", "contents", "overwrite", "filesystem"], fields.get key = none

def EntriesFor (isV3 : Bool) : List WantedFile → List Json → Prop :=
  List.Forall₂ fun file entry => ∃ fields, entry = .object fields ∧ Describes isV3 file fields

-- Nothing but storage.files differs, and there the entries stand behind what has other paths.
structure Injected (config result : Object) (entries : List Json) : Prop where
  sections : ∀ key, key ≠ "storage" → result.get key = config.get key
  storage : ∀ key, key ≠ "files" → (ensureStorage result).get key = (ensureStorage config).get key
  files : getFiles (ensureStorage result) = others pathOf (getFiles (ensureStorage config)) entries ++ entries
  unchanged : entries = [] → result = config

-- An injection writes the entries once, and again changes nothing.
structure InjectsOnce (inject : Object → Except GoError Object) (config result : Object) (entries : List Json) :
    Prop where
  once : inject config = .ok result
  injected : Injected config result entries
  again : inject result = .ok result

-- Two configs that differ in the order of the entries alone.
structure Reordered (left right : Object) (first second : List Json) : Prop where
  sections : ∀ key, key ≠ "storage" → left.get key = right.get key
  storage : ∀ key, key ≠ "files" → (ensureStorage left).get key = (ensureStorage right).get key
  files : ∃ kept, getFiles (ensureStorage left) = kept ++ (first ++ second) ∧
    getFiles (ensureStorage right) = kept ++ (second ++ first)

-- The version of the config starts with 3, or with 2.
def HasVersion (config : Object) (isV3 : Bool) : Prop :=
  ∃ ignSection version, config.get "ignition" = some (.object ignSection) ∧
    Object.get ignSection "version" = some (.string version) ∧
    version.toList.head? = some (if isV3 then '3' else '2')

section Files

variable (config : Object) (files : List Json)

def withFiles (config : Object) (files : List Json) : Object :=
  config.set "storage" (.object ((ensureStorage config).set "files" (.array files)))

theorem ensureStorage_withFiles : ensureStorage (withFiles config files) =
    (ensureStorage config).set "files" (.array files) := by
  rw [ensureStorage, withFiles, Object.get_set_self]
  rfl

theorem getFiles_withFiles : getFiles (ensureStorage (withFiles config files)) = files := by
  rw [ensureStorage_withFiles, getFiles, Object.get_set_self]
  rfl

theorem withFiles_withFiles (files' : List Json) : withFiles (withFiles config files) files' = withFiles config files' := by
  rw [withFiles, ensureStorage_withFiles, Object.set_set, withFiles, Object.set_set, withFiles]

theorem get_withFiles {key : String} (hkey : key ≠ "storage") : (withFiles config files).get key = config.get key :=
  Object.get_set_ne _ _ _ _ hkey

theorem versionOf_withFiles : versionOf (withFiles config files) = versionOf config := by
  rw [versionOf, get_withFiles config files (by decide), versionOf]

end Files

section Inject

variable {config : Object} {isV3 : Bool}

theorem pathOf_fileEntry (path source : String) (mode : Nat) (isV3 : Bool) :
    pathOf (fileEntry path source mode isV3) = some path := rfl

theorem injectFile_eq (config : Object) (path source : String) (mode : Nat) (isV3 : Bool) :
    injectFile config path source mode isV3 =
      withFiles config (put pathOf (getFiles (ensureStorage config)) (fileEntry path source mode isV3)) := by
  rw [injectFile, withFiles, put, pathOf_fileEntry]

def injectAll (config : Object) (entries : List Json) : Object :=
  entries.foldl (fun config entry => withFiles config (put pathOf (getFiles (ensureStorage config)) entry)) config

theorem injectAll_cons (config : Object) (entry : Json) (entries : List Json) :
    injectAll config (entry :: entries) =
      withFiles config (putAll pathOf (getFiles (ensureStorage config)) (entry :: entries)) := by
  induction entries generalizing config entry with
  | nil => rfl
  | cons next entries ih =>
    have hnext : injectAll config (entry :: next :: entries) =
        injectAll (withFiles config (put pathOf (getFiles (ensureStorage config)) entry)) (next :: entries) := rfl
    rw [hnext, ih, withFiles_withFiles, getFiles_withFiles]
    rfl

theorem injectAll_injected {entries : List Json} (h : (entries.map pathOf).Nodup) :
    Injected config (injectAll config entries) entries := by
  cases entries with
  | nil => exact ⟨fun _ _ => rfl, fun _ _ => rfl, by rw [others_nil, List.append_nil]; rfl, fun _ => rfl⟩
  | cons entry entries =>
    rw [injectAll_cons]
    refine ⟨fun key hkey => get_withFiles _ _ hkey, fun key hkey => ?_, ?_, nofun⟩
    · rw [ensureStorage_withFiles]
      exact Object.get_set_ne _ _ _ _ hkey
    · rw [getFiles_withFiles, putAll_eq pathOf h]

theorem injectAll_twice {entries : List Json} (h : (entries.map pathOf).Nodup) :
    injectAll (injectAll config entries) entries = injectAll config entries := by
  cases entries with
  | nil => rfl
  | cons entry entries =>
    rw [injectAll_cons, injectAll_cons, withFiles_withFiles, getFiles_withFiles, putAll_self pathOf h]

theorem injectAll_append (left right : List Json) :
    injectAll config (left ++ right) = injectAll (injectAll config left) right := List.foldl_append

theorem versionOf_injectAll (entries : List Json) : versionOf (injectAll config entries) = versionOf config := by
  cases entries with
  | nil => rfl
  | cons entry entries => rw [injectAll_cons, versionOf_withFiles]

theorem injectMachineMetadata_eq (hversion : versionOf config = .ok isV3) (hostname providerID : String) :
    injectMachineMetadata config hostname providerID =
      .ok (injectAll config (metadataEntries hostname providerID isV3)) := by
  rw [injectMachineMetadata, hversion]
  simp only [injectFile_eq, injectKubeletProviderIDEnv, metadataEntries]
  by_cases hhost : hostname = "" <;> by_cases hid : providerID = "" <;> simp [hhost, hid] <;> rfl

theorem injectStaticNetwork_eq (hversion : versionOf config = .ok isV3) (net : NetworkConfig) :
    injectStaticNetwork config net = .ok (injectAll config (networkEntries net isV3)) := by
  rw [injectStaticNetwork, networkEntries]
  by_cases haddresses : net.addresses.length = 0
  · rw [if_pos haddresses, if_pos haddresses]
    rfl
  · rw [if_neg haddresses, if_neg haddresses, hversion]
    simp only [injectFile_eq]
    rfl

theorem entries_nodup (hostname providerID : String) (net : NetworkConfig) (isV3 : Bool) :
    ((metadataEntries hostname providerID isV3 ++ networkEntries net isV3).map pathOf).Nodup := by
  rw [metadataEntries, networkEntries]
  by_cases hhost : hostname = "" <;> by_cases hid : providerID = "" <;>
    by_cases haddresses : net.addresses.length = 0 <;>
    simp [hhost, hid, haddresses, pathOf_fileEntry, nmConnectionPath]

theorem versionOf_eq (h : HasVersion config isV3) : versionOf config = .ok isV3 := by
  obtain ⟨ignSection, version, hsection, hversion, hhead⟩ := h
  cases isV3 <;> simp [versionOf, hsection, hversion, asString, hhead]

end Inject

section Entries

variable {isV3 : Bool}

theorem fileEntry_describes {path source : String} {mode : Nat} {wanted : String → Prop} (h : wanted source) :
    ∃ fields, fileEntry path source mode isV3 = .object fields ∧ Describes isV3 ⟨path, mode, wanted⟩ fields := by
  refine ⟨_, rfl, ⟨rfl, rfl, ⟨source, rfl, h⟩, ?_, ?_, fun key hkey => ?_⟩⟩
  · cases isV3 <;> rfl
  · cases isV3 <;> rfl
  · simp only [List.mem_cons, List.not_mem_nil, or_false, not_or] at hkey
    obtain ⟨hpath, hmode, hcontents, hoverwrite, hfilesystem⟩ := hkey
    rw [Object.get, List.lookup_eq_none_iff]
    cases isV3 <;> simp [hpath, hmode, hcontents, hoverwrite, hfilesystem]

theorem metadataEntries_for (hostname providerID : String) :
    EntriesFor isV3 (metadataFiles hostname providerID) (metadataEntries hostname providerID isV3) := by
  refine List.rel_append ?_ ?_
  · by_cases hhost : hostname = ""
    · rw [if_pos hhost, if_neg (not_not_intro hhost)]
      exact .nil
    · rw [if_neg hhost, if_pos hhost]
      exact .cons (fileEntry_describes ⟨rfl, isDataURL_plain⟩) .nil
  · by_cases hid : providerID = ""
    · rw [if_pos hid, if_neg (not_not_intro hid)]
      exact .nil
    · rw [if_neg hid, if_pos hid]
      exact .cons (fileEntry_describes (isDataURL_pathEscape _)) (.cons (fileEntry_describes (isDataURL_pathEscape _)) .nil)

theorem generateNMConnection_text (net : NetworkConfig) :
    generateNMConnection (withDefaultDNS net) = keyfileText net := by
  rw [generateNMConnection_eq, keyfileText, withDefaultDNS]
  by_cases hdefault : net.dnsServers.length = 0 ∧ net.gateway ≠ ""
  · rw [if_pos hdefault, if_pos ⟨List.length_eq_zero_iff.mp hdefault.1, hdefault.2⟩]
  · rw [if_neg hdefault, if_neg (fun h => hdefault ⟨List.length_eq_zero_iff.mpr h.1, h.2⟩)]

theorem networkEntries_for (net : NetworkConfig) :
    EntriesFor isV3 (networkFiles net) (networkEntries net isV3) := by
  rw [networkFiles, networkEntries]
  by_cases haddresses : net.addresses = []
  · rw [if_pos haddresses, if_pos (List.length_eq_zero_iff.mpr haddresses)]
    exact .nil
  · rw [if_neg haddresses, if_neg (mt List.length_eq_zero_iff.mp haddresses), generateNMConnection_text]
    exact .cons (fileEntry_describes (isDataURL_pathEscape _)) .nil

end Entries

theorem Injected.reordered {config left right : Object} {first second : List Json}
    (hleft : Injected config left (first ++ second)) (hright : Injected config right (second ++ first)) :
    Reordered left right first second where
  sections := fun key hkey => (hleft.sections key hkey).trans (hright.sections key hkey).symm
  storage := fun key hkey => (hleft.storage key hkey).trans (hright.storage key hkey).symm
  files := ⟨_, hleft.files, by rw [hright.files, others_comm]⟩

-- For every supported config, whatever the strings and the network.
theorem ignition_injections_exact (config : Object) (isV3 : Bool) (hsupported : HasVersion config isV3)
    (hostname providerID : String) (net : NetworkConfig) :
    ∃ metadata network named wired both both',
      EntriesFor isV3 (metadataFiles hostname providerID) metadata ∧ EntriesFor isV3 (networkFiles net) network ∧
      InjectsOnce (injectMachineMetadata · hostname providerID) config named metadata ∧
      InjectsOnce (injectStaticNetwork · net) config wired network ∧
      injectStaticNetwork named net = .ok both ∧ injectMachineMetadata wired hostname providerID = .ok both' ∧
      Injected config both (metadata ++ network) ∧ Reordered both both' metadata network := by
  have hversion := versionOf_eq hsupported
  have hversions (entries : List Json) : versionOf (injectAll config entries) = .ok isV3 :=
    (versionOf_injectAll entries).trans hversion
  have hnodup := entries_nodup hostname providerID net isV3
  rw [List.map_append] at hnodup
  have hmetadata := hnodup.of_append_left
  have hnetwork := hnodup.of_append_right
  have hboth : Injected config _ (metadataEntries hostname providerID isV3 ++ networkEntries net isV3) :=
    injectAll_injected (by rw [List.map_append]; exact hnodup)
  have hboth' : Injected config _ (networkEntries net isV3 ++ metadataEntries hostname providerID isV3) :=
    injectAll_injected (by rw [List.map_append]; exact List.nodup_append_comm.mp hnodup)
  refine ⟨_, _, _, _, _, _, metadataEntries_for hostname providerID, networkEntries_for net,
    ⟨injectMachineMetadata_eq hversion _ _, injectAll_injected hmetadata, ?_⟩,
    ⟨injectStaticNetwork_eq hversion _, injectAll_injected hnetwork, ?_⟩, ?_, ?_, hboth, hboth.reordered hboth'⟩
  · rw [injectMachineMetadata_eq (hversions _), injectAll_twice hmetadata]
  · rw [injectStaticNetwork_eq (hversions _), injectAll_twice hnetwork]
  · rw [injectStaticNetwork_eq (hversions _), injectAll_append]
  · rw [injectMachineMetadata_eq (hversions _), injectAll_append]

def sampleConfig : Object := [("ignition", .object [("version", .string "3.2.0")])]

theorem ignition_injections_sample : HasVersion sampleConfig true ∧
    ∃ metadata network named wired both both',
      EntriesFor true (metadataFiles "node" "libvirt:///h/node") metadata ∧
      EntriesFor true (networkFiles ⟨["10.0.0.1/24"], "10.0.0.254", [], []⟩) network ∧
      InjectsOnce (injectMachineMetadata · "node" "libvirt:///h/node") sampleConfig named metadata ∧
      InjectsOnce (injectStaticNetwork · ⟨["10.0.0.1/24"], "10.0.0.254", [], []⟩) sampleConfig wired network ∧
      injectStaticNetwork named ⟨["10.0.0.1/24"], "10.0.0.254", [], []⟩ = .ok both ∧
      injectMachineMetadata wired "node" "libvirt:///h/node" = .ok both' ∧
      Injected sampleConfig both (metadata ++ network) ∧ Reordered both both' metadata network := by
  have hsupported : HasVersion sampleConfig true := ⟨_, _, rfl, rfl, by decide⟩
  exact ⟨hsupported, ignition_injections_exact _ _ hsupported _ _ _⟩

end Caplv.Ignition
