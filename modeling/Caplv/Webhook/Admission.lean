import Caplv.Controller.World
import Caplv.Webhook.Machine
import Mathlib.Data.List.Nodup

namespace Caplv.Webhook

open Api Libvirt

-- A stored machine with the object its create request was accepted with, and how often an
-- update has changed its ProviderID since.
structure Record where
  created : LibvirtMachine
  current : LibvirtMachine
  providerIDChanges : Nat

def Record.name (r : Record) : String := r.current.name

def Record.update (r : Record) (obj : LibvirtMachine) : Record :=
  { r with
    current := obj
    providerIDChanges := r.providerIDChanges +
      if r.current.spec.providerID = obj.spec.providerID then 0 else 1 }

-- The machines of a namespace. The API server does not reuse the name of an existing one.
structure Store where
  records : List Record
  unique : (records.map Record.name).Nodup

namespace Store

def empty : Store := ⟨[], List.nodup_nil⟩

def find (s : Store) (name : String) : Option Record := s.records.find? fun r => r.name = name

-- An object that is being deleted and has no finalizer left is removed.
def replaced (obj : LibvirtMachine) (r : Record) : Option Record :=
  if r.name = obj.name then (Controller.settle obj).map r.update else some r

theorem replaced_name {obj : LibvirtMachine} {r r' : Record} (h : replaced obj r = some r') :
    r'.name = r.name := by
  unfold replaced at h
  split at h
  · rename_i hname
    obtain ⟨settled, hsettled, rfl⟩ := Option.map_eq_some_iff.mp h
    unfold Controller.settle at hsettled
    split at hsettled
    · cases hsettled
    · obtain rfl := Option.some.inj hsettled
      exact hname.symm
  · rw [Option.some.inj h]

def put (s : Store) (obj : LibvirtMachine) : Store where
  records := s.records.filterMap (replaced obj)
  unique := by
    rw [List.nodup_iff_pairwise_ne, List.pairwise_map]
    have hapart := List.pairwise_map.mp (List.nodup_iff_pairwise_ne.mp s.unique)
    refine hapart.filterMap _ fun a b hne a' ha b' hb => ?_
    rw [replaced_name ha, replaced_name hb]
    exact hne

def insert (s : Store) (obj : LibvirtMachine) (hnew : s.find obj.name = none) : Store where
  records := s.records ++ [⟨obj, obj, 0⟩]
  unique := by
    have hfresh (r : Record) (hr : r ∈ s.records) : r.name ≠ obj.name := by
      simpa using List.find?_eq_none.mp hnew r hr
    simp only [List.map_append, List.map_cons, List.map_nil, Record.name]
    refine List.nodup_append.mpr ⟨s.unique, List.nodup_singleton _, fun name hname other hother => ?_⟩
    obtain ⟨r, hr, rfl⟩ := List.mem_map.mp hname
    obtain rfl := List.mem_singleton.mp hother
    exact hfresh r hr

end Store

inductive Request where
  | create (obj : LibvirtMachine)
  | update (obj : LibvirtMachine)
  | delete (name : String)

inductive Rejection where
  | wrongNamespace
  | alreadyExists
  | notFound
  | deletionTimestampCleared
  | invalid (allErrs : List FieldError)

-- The API server of one namespace with the webhook in front of it.
def handle (parseCIDR : String → Option GoError) (namespaceName : String) (s : Store) :
    Request → Except Rejection Store
  | .create obj =>
    if obj.namespaceName ≠ namespaceName then .error .wrongNamespace
    else if hnew : s.find obj.name = none then
      -- a new object is not being deleted
      match validateCreate parseCIDR (some (.ok (s.records.map Record.current)))
          { obj with deletionTimestamp := false } with
      | .error allErrs => .error (.invalid allErrs)
      | .ok _ => .ok (s.insert { obj with deletionTimestamp := false } hnew)
    else .error .alreadyExists
  | .update obj =>
    if obj.namespaceName ≠ namespaceName then .error .wrongNamespace
    else
      match s.find obj.name with
      | none => .error .notFound
      | some r =>
        if r.current.deletionTimestamp && !obj.deletionTimestamp then .error .deletionTimestampCleared
        else
          match validateUpdate r.current obj with
          | .error allErrs => .error (.invalid allErrs)
          | .ok _ => .ok (s.put obj)
  -- ValidateDelete accepts every request
  | .delete name =>
    match s.find name with
    | none => .error .notFound
    | some r => .ok (s.put { r.current with deletionTimestamp := true })

def serve (parseCIDR : String → Option GoError) (namespaceName : String) (s : Store) (request : Request) :
    Store :=
  match handle parseCIDR namespaceName s request with
  | .ok after => after
  | .error _ => s

def serveAll (parseCIDR : String → Option GoError) (namespaceName : String) (s : Store)
    (requests : List Request) : Store :=
  requests.foldl (serve parseCIDR namespaceName) s

def Record.HostApart (a b : Record) : Prop :=
  a.current.deletionTimestamp = false → b.current.deletionTimestamp = false →
    a.current.spec.hostRef ≠ b.current.spec.hostRef

-- The spec as it was created, and a ProviderID that was set at most once.
structure Record.Frozen (r : Record) : Prop where
  spec : { r.current.spec with providerID := none } = { r.created.spec with providerID := none }
  providerID : (r.providerIDChanges = 0 ∧ r.current.spec.providerID = r.created.spec.providerID) ∨
    (r.providerIDChanges = 1 ∧ r.created.spec.providerID = none ∧ r.current.spec.providerID ≠ none)

-- What holds of a namespace at any time.
structure Admitted (namespaceName : String) (s : Store) : Prop where
  inNamespace : ∀ r ∈ s.records, r.current.namespaceName = namespaceName
  hosts : s.records.Pairwise Record.HostApart
  frozen : ∀ r ∈ s.records, r.Frozen

section Requests

variable {parseCIDR : String → Option GoError} {namespaceName : String} {s : Store}

theorem Store.mem_of_find {name : String} {r : Record} (h : s.find name = some r) :
    r ∈ s.records ∧ r.name = name :=
  ⟨List.mem_of_find?_eq_some h, by simpa using List.find?_some h⟩

theorem Store.eq_of_name {a b : Record} (ha : a ∈ s.records) (hb : b ∈ s.records)
    (hname : a.name = b.name) : a = b := List.inj_on_of_nodup_map s.unique ha hb hname

theorem validateUpdate_providerID {oldObj newObj : LibvirtMachine} (h : validateUpdate oldObj newObj = .ok ()) :
    oldObj.spec.providerID = none ∨ newObj.spec.providerID = oldObj.spec.providerID := by
  have hnone : providerIDErrors oldObj.spec.providerID newObj.spec.providerID = [] := by
    have hall := no_errors h
    simp only [List.append_eq_nil_iff] at hall
    exact hall.1.2
  cases hold : oldObj.spec.providerID with
  | none => exact .inl rfl
  | some old =>
    right
    cases hnew : newObj.spec.providerID with
    | none => simp [providerIDErrors, hold, hnew] at hnone
    | some new =>
      rw [hold, hnew, providerIDErrors] at hnone
      by_contra hne
      rw [if_pos (fun heq => hne (congrArg some heq.symm))] at hnone
      cases hnone

theorem Admitted.insert (h : Admitted namespaceName s) (obj : LibvirtMachine) (hnamespace : obj.namespaceName = namespaceName)
    (hnew : s.find obj.name = none)
    (hvalid : validateCreate parseCIDR (some (.ok (s.records.map Record.current))) obj = .ok ()) :
    Admitted namespaceName (s.insert obj hnew) := by
  have hmem {r : Record} (hr : r ∈ (s.insert obj hnew).records) : r ∈ s.records ∨ r = ⟨obj, obj, 0⟩ := by
    simpa [Store.insert] using hr
  refine ⟨fun r hr => ?_, ?_, fun r hr => ?_⟩
  · rcases hmem hr with hold | rfl
    · exact h.inNamespace r hold
    · exact hnamespace
  · refine List.pairwise_append.mpr ⟨h.hosts, List.pairwise_singleton _ _, fun r hr other hother => ?_⟩
    obtain rfl := List.mem_singleton.mp hother
    intro hlive _ hhost
    have hname : r.name ≠ obj.name := by simpa using List.find?_eq_none.mp hnew r hr
    have hkey : r.current.key ≠ obj.key := fun heq => hname (congrArg ObjectKey.name heq)
    have hdeleted := validateCreate_host hvalid (List.mem_map_of_mem hr) hkey hhost
    exact Bool.noConfusion (hlive.symm.trans hdeleted)
  · rcases hmem hr with hold | rfl
    · exact h.frozen r hold
    · exact ⟨rfl, .inl ⟨rfl, rfl⟩⟩

-- An update of one machine that keeps its spec and does not bring it back from deletion.
theorem Admitted.put (h : Admitted namespaceName s) (obj : LibvirtMachine) {old : Record} (hfind : s.find obj.name = some old)
    (hnamespace : obj.namespaceName = namespaceName)
    (hspec : { obj.spec with providerID := none } = { old.current.spec with providerID := none })
    (hproviderID : old.current.spec.providerID = none ∨
      obj.spec.providerID = old.current.spec.providerID)
    (hdeleting : old.current.deletionTimestamp = true → obj.deletionTimestamp = true) :
    Admitted namespaceName (s.put obj) := by
  obtain ⟨hmem, hname⟩ := Store.mem_of_find hfind
  have hhost : obj.spec.hostRef = old.current.spec.hostRef := by
    have hrefs := congrArg LibvirtMachineSpec.hostRef hspec
    exact hrefs
  -- a record is left alone, or is the one the update is for
  have hcases {r r' : Record} (hr : r ∈ s.records) (hr' : Store.replaced obj r = some r') :
      r' = r ∨ (r = old ∧ r' = old.update obj) := by
    unfold Store.replaced at hr'
    split at hr'
    · rename_i hsame
      obtain rfl : r = old := Store.eq_of_name hr hmem (hsame.trans hname.symm)
      obtain ⟨settled, hsettled, rfl⟩ := Option.map_eq_some_iff.mp hr'
      unfold Controller.settle at hsettled
      split at hsettled
      · cases hsettled
      · obtain rfl := Option.some.inj hsettled
        exact .inr ⟨rfl, rfl⟩
    · exact .inl (Option.some.inj hr').symm
  -- liveness and host of a record come from the one it replaces
  have hkept {r r' : Record} (hr : r ∈ s.records) (hr' : Store.replaced obj r = some r') :
      (r'.current.deletionTimestamp = false → r.current.deletionTimestamp = false) ∧
        r'.current.spec.hostRef = r.current.spec.hostRef := by
    rcases hcases hr hr' with rfl | ⟨rfl, rfl⟩
    · exact ⟨fun hlive => hlive, rfl⟩
    · refine ⟨fun hlive => ?_, hhost⟩
      by_contra hdeleted
      have hgone := hdeleting (by simpa using hdeleted)
      exact Bool.noConfusion (hlive.symm.trans hgone)
  refine ⟨fun r' hr' => ?_, ?_, fun r' hr' => ?_⟩
  · obtain ⟨r, hr, hreplaced⟩ := List.mem_filterMap.mp hr'
    rcases hcases hr hreplaced with rfl | ⟨-, rfl⟩
    · exact h.inNamespace _ hr
    · exact hnamespace
  · refine List.Pairwise.filterMap _ ?_ (List.Pairwise.and_mem.mp h.hosts)
    rintro a b ⟨ha, hb, hapart⟩ a' ha' b' hb' hlive hlive'
    rw [(hkept ha ha').2, (hkept hb hb').2]
    exact hapart ((hkept ha ha').1 hlive) ((hkept hb hb').1 hlive')
  · obtain ⟨r, hr, hreplaced⟩ := List.mem_filterMap.mp hr'
    have hfrozen := h.frozen r hr
    rcases hcases hr hreplaced with rfl | ⟨rfl, rfl⟩
    · exact hfrozen
    · refine ⟨hspec.trans hfrozen.spec, ?_⟩
      by_cases hsame : r.current.spec.providerID = obj.spec.providerID
      · simpa [Record.update, hsame] using hfrozen.providerID
      · -- only the step from nil is accepted, so the ProviderID was never set before
        have hnil := hproviderID.resolve_right fun heq => hsame heq.symm
        rcases hfrozen.providerID with ⟨hzero, hcreated⟩ | ⟨-, -, hset⟩
        · refine .inr ⟨by simp [Record.update, hsame, hzero], hcreated.symm.trans hnil, fun hnone => ?_⟩
          exact hsame (hnil.trans hnone.symm)
        · exact absurd hnil hset

theorem Admitted.handle {request : Request} {after : Store} (h : Admitted namespaceName s)
    (hhandle : Webhook.handle parseCIDR namespaceName s request = .ok after) :
    Admitted namespaceName after := by
  cases request with
  | create obj =>
    rw [Webhook.handle] at hhandle
    split at hhandle
    · cases hhandle
    · rename_i hnamespace
      split at hhandle
      · rename_i hnew
        split at hhandle
        · cases hhandle
        · rename_i hvalid
          obtain rfl := Except.ok.inj hhandle
          exact h.insert { obj with deletionTimestamp := false } (not_not.mp hnamespace) hnew hvalid
      · cases hhandle
  | update obj =>
    rw [Webhook.handle] at hhandle
    split at hhandle
    · cases hhandle
    · rename_i hnamespace
      split at hhandle
      · cases hhandle
      · rename_i r hfind
        split at hhandle
        · cases hhandle
        · rename_i hkept
          split at hhandle
          · cases hhandle
          · rename_i hvalid
            obtain rfl := Except.ok.inj hhandle
            refine h.put _ hfind (not_not.mp hnamespace) (validateUpdate_spec hvalid)
              (validateUpdate_providerID hvalid) fun hdeleted => ?_
            simpa [hdeleted] using hkept
  | delete name =>
    rw [Webhook.handle] at hhandle
    split at hhandle
    · cases hhandle
    · rename_i r hfind
      obtain rfl := Except.ok.inj hhandle
      obtain ⟨hmem, rfl⟩ := Store.mem_of_find hfind
      exact h.put _ hfind (h.inNamespace r hmem) rfl (.inr rfl) fun _ => rfl

end Requests

-- Over every history of requests the live machines of a namespace are on different hosts, their
-- specs are the ones they were created with, and a ProviderID was set at most once. A rejected
-- request changes nothing.
theorem admission_keeps_hosts_and_specs (parseCIDR : String → Option GoError) (namespaceName : String)
    (requests : List Request) :
    Admitted namespaceName (serveAll parseCIDR namespaceName Store.empty requests) ∧
      ∀ request rejection, handle parseCIDR namespaceName
          (serveAll parseCIDR namespaceName Store.empty requests) request = .error rejection →
        serve parseCIDR namespaceName (serveAll parseCIDR namespaceName Store.empty requests) request =
          serveAll parseCIDR namespaceName Store.empty requests := by
  have hrun (s : Store) (hs : Admitted namespaceName s) :
      Admitted namespaceName (serveAll parseCIDR namespaceName s requests) := by
    induction requests generalizing s with
    | nil => exact hs
    | cons request rest ih =>
      refine ih _ ?_
      unfold serve
      split
      · rename_i after hhandle
        exact hs.handle hhandle
      · exact hs
  have hempty : Admitted namespaceName Store.empty :=
    ⟨fun _ hr => (List.not_mem_nil hr).elim, List.Pairwise.nil, fun _ hr => (List.not_mem_nil hr).elim⟩
  refine ⟨hrun Store.empty hempty, fun request rejection hrejected => ?_⟩
  rw [serve, hrejected]

theorem second_machine_rejected :
    let s := serveAll (fun _ => none) "ns" Store.empty [.create sampleMachine]
    let second := Request.create { sampleMachine with name := "other" }
    s.records.length = 1 ∧ (handle (fun _ => none) "ns" s second).isOk = false ∧
      serve (fun _ => none) "ns" s second = s := by
  intro s second
  have hrejected : (handle (fun _ => none) "ns" s second).isOk = false := by decide +kernel
  have hadmission := admission_keeps_hosts_and_specs (fun _ => none) "ns" [.create sampleMachine]
  refine ⟨by decide +kernel, hrejected, ?_⟩
  cases hhandle : handle (fun _ => none) "ns" s second with
  | ok after =>
    rw [hhandle] at hrejected
    cases hrejected
  | error rejection => exact hadmission.2 second rejection hhandle

end Caplv.Webhook
