import Caplv.Api.Types
import Caplv.Libvirt.Errors

namespace Caplv.Webhook

open Text Api Libvirt

inductive FieldErrorType where
  | required
  | invalid
  | forbidden
  | internalError
deriving DecidableEq, Repr

-- field.Error: the path of the field, the value where there is one, and the detail.
structure FieldError where
  type : FieldErrorType
  path : String
  badValue : String
  detail : String
deriving DecidableEq, Repr

def index (path : String) (i : Nat) : String := path ++ "[" ++ toString i ++ "]"

-- ^[A-Za-z0-9_.:-]+$
def libvirtIdentifierChar (c : Char) : Bool :=
  ('A' ≤ c ∧ c ≤ 'Z') ∨ ('a' ≤ c ∧ c ≤ 'z') ∨ ('0' ≤ c ∧ c ≤ '9') ∨ c ∈ "_.:-".toList

def libvirtIdentifierPattern (value : String) : Bool :=
  value ≠ "" ∧ value.toList.all libvirtIdentifierChar

def appendLibvirtIdentifierError (allErrs : List FieldError) (path value : String) : List FieldError :=
  if value = "" ∨ libvirtIdentifierPattern value = true then allErrs
  else allErrs ++ [⟨.invalid, path, value, "must contain only letters, numbers, '_', '.', ':', or '-'"⟩]

def validateShellSafeLibvirtFields (spec : LibvirtMachineSpec) : List FieldError :=
  let allErrs := appendLibvirtIdentifierError [] "spec.rootDisk.storagePool" spec.rootDisk.storagePool
  let allErrs := appendLibvirtIdentifierError allErrs "spec.rootDisk.baseImage" spec.rootDisk.baseImage
  let allErrs :=
    if spec.rootDisk.baseImagePool ≠ "" then
      appendLibvirtIdentifierError allErrs "spec.rootDisk.baseImagePool" spec.rootDisk.baseImagePool
    else allErrs
  spec.additionalDisks.zipIdx.foldl (fun allErrs (disk, i) =>
    let allErrs := appendLibvirtIdentifierError allErrs (index "spec.additionalDisks" i ++ ".name") disk.name
    appendLibvirtIdentifierError allErrs (index "spec.additionalDisks" i ++ ".storagePool") disk.storagePool)
    allErrs

def addressErrors (parseCIDR : String → Option GoError) (addresses : List String) : List FieldError :=
  (if addresses.length = 0 then
    [⟨.required, "spec.network.addresses", "", "at least one address is required"⟩] else []) ++
  addresses.zipIdx.flatMap fun (addr, i) =>
    match parseCIDR addr with
    | some err => [⟨.invalid, index "spec.network.addresses" i, addr, "invalid CIDR notation: " ++ err.message⟩]
    | none => []

-- virsh vol-clone cannot clone across pools.
def cloneStrategyErrors (rootDisk : RootDiskSpec) : List FieldError :=
  if rootDisk.cloneStrategy = .fullClone then
    let baseImagePool := if rootDisk.baseImagePool = "" then rootDisk.storagePool else rootDisk.baseImagePool
    if baseImagePool ≠ rootDisk.storagePool then
      [⟨.invalid, "spec.rootDisk.cloneStrategy", "full-clone",
        "full-clone is not supported when baseImagePool differs from storagePool; use copy-on-write instead"⟩]
    else []
  else []

-- Another machine of the list that is not being deleted and references the same host.
def inUseBy (obj existing : LibvirtMachine) : Bool :=
  !(existing.name == obj.name && existing.namespaceName == obj.namespaceName) &&
    !existing.deletionTimestamp && existing.spec.hostRef == obj.spec.hostRef

def validateHostUniqueness (listed : Except GoError (List LibvirtMachine)) (obj : LibvirtMachine) :
    List FieldError :=
  match listed with
  | .error err => [⟨.internalError, "spec.hostRef", "", (GoError.wrap "failed to list machines" err).message⟩]
  | .ok items =>
    match items.find? (inUseBy obj) with
    | some existing => [⟨.forbidden, "spec.hostRef", "", "host " ++ quote obj.spec.hostRef ++
        " is already in use by LibvirtMachine " ++ quote existing.name ++
        "; each host supports at most one VM"⟩]
    | none => []

-- A validator without a client has no list to look at.
def validateCreate (parseCIDR : String → Option GoError)
    (listed : Option (Except GoError (List LibvirtMachine))) (obj : LibvirtMachine) :
    Except (List FieldError) Unit :=
  let allErrs := addressErrors parseCIDR obj.spec.network.addresses ++
    validateShellSafeLibvirtFields obj.spec ++ cloneStrategyErrors obj.spec.rootDisk ++
    (match listed with
      | some items => validateHostUniqueness items obj
      | none => [])
  if allErrs.length > 0 then .error allErrs else .ok ()

def providerIDErrors (old new : Option String) : List FieldError :=
  match old, new with
  | none, _ => []
  | some _, none => [⟨.forbidden, "spec.providerID", "", "providerID cannot be cleared once set"⟩]
  | some old, some new =>
    if old ≠ new then [⟨.forbidden, "spec.providerID", "", "providerID cannot be changed once set"⟩]
    else []

def specErrors (old new : LibvirtMachineSpec) : List FieldError :=
  if { old with providerID := none } ≠ { new with providerID := none } then
    [⟨.forbidden, "spec", "", "spec is immutable after creation (except providerID)"⟩]
  else []

def validateUpdate (oldObj newObj : LibvirtMachine) : Except (List FieldError) Unit :=
  let allErrs := validateShellSafeLibvirtFields newObj.spec ++
    providerIDErrors oldObj.spec.providerID newObj.spec.providerID ++ specErrors oldObj.spec newObj.spec
  if allErrs.length > 0 then .error allErrs else .ok ()

theorem no_errors {allErrs : List FieldError}
    (h : (if allErrs.length > 0 then .error allErrs else .ok () : Except (List FieldError) Unit) = .ok ()) :
    allErrs = [] := by
  by_cases hlength : allErrs.length > 0
  · rw [if_pos hlength] at h
    cases h
  · exact List.length_eq_zero_iff.mp (by omega)

section Accepted

variable {parseCIDR : String → Option GoError} {obj : LibvirtMachine}

theorem validateCreate_clone {listed : Option (Except GoError (List LibvirtMachine))}
    (h : validateCreate parseCIDR listed obj = .ok ()) (hclone : obj.spec.rootDisk.cloneStrategy = .fullClone) :
    obj.spec.rootDisk.baseImagePool = "" ∨ obj.spec.rootDisk.baseImagePool = obj.spec.rootDisk.storagePool := by
  have hnone : cloneStrategyErrors obj.spec.rootDisk = [] := by
    have hall := no_errors h
    simp only [List.append_eq_nil_iff] at hall
    exact hall.1.2
  by_cases hempty : obj.spec.rootDisk.baseImagePool = ""
  · exact .inl hempty
  · right
    by_contra hne
    simp [cloneStrategyErrors, hclone, hempty, hne] at hnone

-- No other machine in the list is on the host, unless it is being deleted.
theorem validateCreate_host {items : List LibvirtMachine}
    (h : validateCreate parseCIDR (some (.ok items)) obj = .ok ()) {existing : LibvirtMachine}
    (hexisting : existing ∈ items) (hother : existing.key ≠ obj.key)
    (hhost : existing.spec.hostRef = obj.spec.hostRef) : existing.deletionTimestamp = true := by
  have hnone : validateHostUniqueness (.ok items) obj = [] := by
    have hall := no_errors h
    simp only [List.append_eq_nil_iff] at hall
    exact hall.2
  have hfind : items.find? (inUseBy obj) = none := by
    cases hfind : items.find? (inUseBy obj) with
    | none => rfl
    | some found => simp [validateHostUniqueness, hfind] at hnone
  have hfree := List.find?_eq_none.mp hfind existing hexisting
  by_contra hkept
  apply hfree
  have hnames : existing.name ≠ obj.name ∨ existing.namespaceName ≠ obj.namespaceName := by
    by_contra hsame
    obtain ⟨hname, hnamespace⟩ := not_or.mp hsame
    apply hother
    rw [LibvirtMachine.key, LibvirtMachine.key, not_not.mp hname, not_not.mp hnamespace]
  have hdeleted : existing.deletionTimestamp = false := by simpa using hkept
  simpa [inUseBy, hhost, hdeleted] using hnames

theorem validateUpdate_spec {oldObj newObj : LibvirtMachine} (h : validateUpdate oldObj newObj = .ok ()) :
    { newObj.spec with providerID := none } = { oldObj.spec with providerID := none } := by
  have hnone : specErrors oldObj.spec newObj.spec = [] := by
    have hall := no_errors h
    simp only [List.append_eq_nil_iff] at hall
    exact hall.2
  by_contra hne
  rw [specErrors, if_pos (Ne.symm hne)] at hnone
  cases hnone

end Accepted

end Caplv.Webhook
