import Caplv.Csr.Approver

namespace Caplv.Csr

open Text Api Program

variable {parse : Bytes → Option CertificateRequest}

-- Some Machine's infrastructure reference leads to a stored LibvirtMachine whose
-- artifact name is `node`.
def ManagedNode (state : ClusterState) (machines : List Machine) (node : String) : Prop :=
  ∃ machine ∈ machines, machine.infrastructureRef.kind = "LibvirtMachine" ∧
    ∃ lm ∈ state.libvirtMachines,
      lm.key = ⟨machine.infrastructureRef.namespaceName, machine.infrastructureRef.name⟩ ∧
      managedNodeName lm machine = node

def BootstrapRequester (csr : CertificateSigningRequest) : Prop :=
  (hasPrefix csr.username systemBootstrapPrefix = true ∧
    ∃ group ∈ csr.groups, group = systemBootstrappersGroup ∨
      hasPrefix group (systemBootstrappersGroup ++ ":") = true) ∨
  csr.username = openshiftNodeBootstrapper

def NodeRequester (csr : CertificateSigningRequest) (node : String) : Prop :=
  csr.username = systemNodePrefix ++ node ∧ systemNodesGroup ∈ csr.groups

def UsagesWithin (usages allowed : List KeyUsage) (auth : KeyUsage) : Prop :=
  (∀ usage ∈ usages, usage ∈ allowed) ∧ auth ∈ usages

def ServingNames (req : CertificateRequest) (node : String) : Prop :=
  req.emailAddresses = [] ∧ req.uris = [] ∧
  (∀ dnsName ∈ req.dnsNames, dnsName = node ∨ hasPrefix dnsName (node ++ ".") = true) ∧
  ∀ address ∈ req.ipAddresses, ∃ ip, address = some ip ∧
    IP.isUnspecified ip = false ∧ IP.isLoopback ip = false ∧ IP.isMulticast ip = false

theorem validKubeletClientRequester_iff (csr : CertificateSigningRequest) (node : String) :
    validKubeletClientRequester csr node = true ↔ NodeRequester csr node ∨ BootstrapRequester csr := by
  rw [validKubeletClientRequester, NodeRequester, BootstrapRequester]
  simp only [containsString, containsGroupPrefix, List.contains_eq_mem, decide_eq_true_eq,
    List.any_eq_true, Bool.or_eq_true, beq_iff_eq]
  split
  · simp_all
  · split
    · simp_all
    · split <;> simp_all

theorem validKubeletServingRequester_iff (csr : CertificateSigningRequest) (node : String) :
    validKubeletServingRequester csr node = true ↔ NodeRequester csr node := by
  simp [validKubeletServingRequester, NodeRequester, containsString]

theorem usagesWithin_iff (usages allowed : List KeyUsage) (auth : KeyUsage) :
    (hasOnlyUsages usages allowed = true ∧ containsUsage usages auth = true) ↔
      UsagesWithin usages allowed auth := by
  simp [hasOnlyUsages, containsUsage, UsagesWithin]

theorem acceptable_iff (address : IP) :
    IP.acceptable address = true ↔ ∃ ip, address = some ip ∧
      IP.isUnspecified ip = false ∧ IP.isLoopback ip = false ∧ IP.isMulticast ip = false := by
  cases address with
  | none => simp [IP.acceptable]
  | some ip => simp [IP.acceptable, and_assoc]

theorem validKubeletServingSANs_iff (req : CertificateRequest) (node : String) :
    validKubeletServingSANs req node = true ↔ ServingNames req node := by
  rw [validKubeletServingSANs, ServingNames]
  split
  · rename_i h
    simp only [gt_iff_lt, List.length_pos_iff] at h
    simp only [Bool.false_eq_true, false_iff]
    exact fun hn => h.elim (fun he => he hn.1) fun hu => hu hn.2.1
  · rename_i h
    simp only [gt_iff_lt, List.length_pos_iff, not_or, not_not] at h
    simp [h.1, h.2, List.all_eq_true, acceptable_iff]

theorem shouldApproveKubeletCSR_iff (csr : CertificateSigningRequest) (node : String) :
    shouldApproveKubeletCSR parse csr node = true ↔
      ∃ req, parse csr.request = some req ∧ req.commonName = systemNodePrefix ++ node ∧
        systemNodesGroup ∈ req.organization ∧
        ((csr.signerName = kubeletClientSignerName ∧
            (NodeRequester csr node ∨ BootstrapRequester csr) ∧
            UsagesWithin csr.usages clientUsages .clientAuth) ∨
          (csr.signerName = kubeletServingSignerName ∧ NodeRequester csr node ∧
            ServingNames req node ∧ UsagesWithin csr.usages servingUsages .serverAuth)) := by
  have hdistinct : kubeletClientSignerName ≠ kubeletServingSignerName := by decide
  rw [shouldApproveKubeletCSR, parseCSRRequest]
  cases hparse : parse csr.request with
  | none => simp
  | some req =>
    simp only [Option.some.injEq, exists_eq_left']
    split
    · rename_i h
      simp only [Bool.false_eq_true, false_iff]
      rintro ⟨hn, ho, -⟩
      simp [hn, containsString, ho] at h
    · rename_i h
      simp only [ne_eq, containsString, List.contains_eq_mem, Bool.not_eq_eq_eq_not, Bool.not_true,
        decide_eq_false_iff_not, not_or, not_not] at h
      split
      · rename_i hs
        simp [h, hs, hdistinct, validKubeletClientRequester_iff, and_assoc, ← usagesWithin_iff]
      · rename_i hs
        split
        · rename_i hs'
          simp [h, hs', hdistinct.symm, validKubeletServingRequester_iff,
            validKubeletServingSANs_iff, and_assoc, ← usagesWithin_iff]
        · rename_i hs'
          simp [hs, hs']

theorem not_bootstrapRequester_of_node {csr : CertificateSigningRequest}
    (h : hasPrefix csr.username systemNodePrefix = true) : ¬ BootstrapRequester csr := by
  obtain ⟨rest, hrest⟩ := (hasPrefix_iff _ _).mp h
  rintro (⟨hb, -⟩ | hb)
  · obtain ⟨rest', hrest'⟩ := (hasPrefix_iff _ _).mp hb
    have hchars := congrArg (fun s => s.toList.take 12) (hrest.symm.trans hrest')
    simp [systemNodePrefix, systemBootstrapPrefix] at hchars
  · have hchars := congrArg (fun s => s.toList.take 12) (hrest.symm.trans hb)
    simp [systemNodePrefix, openshiftNodeBootstrapper] at hchars

-- What every submitted approval satisfies: `csr` is the stored request, `req` its
-- parsed content and `node` the name it asks for.
structure SoundApproval (parse : Bytes → Option CertificateRequest) (state : ClusterState)
    (csr : CertificateSigningRequest) (req : CertificateRequest) (node : String) : Prop where
  pending : ∀ c ∈ csr.conditions, c.type ≠ .approved ∧ c.type ≠ .denied
  signer : csr.signerName = kubeletClientSignerName ∨ csr.signerName = kubeletServingSignerName
  parsed : parse csr.request = some req
  commonName : req.commonName = systemNodePrefix ++ node
  nonempty : node ≠ ""
  managed : ManagedNode state state.machines node
  nodeRequester : hasPrefix csr.username systemNodePrefix = true → NodeRequester csr node
  otherRequester : hasPrefix csr.username systemNodePrefix = false →
    csr.signerName = kubeletClientSignerName ∧ BootstrapRequester csr
  clientUsages : csr.signerName = kubeletClientSignerName →
    UsagesWithin csr.usages Csr.clientUsages .clientAuth
  servingUsages : csr.signerName = kubeletServingSignerName →
    UsagesWithin csr.usages Csr.servingUsages .serverAuth
  servingNames : csr.signerName = kubeletServingSignerName → ServingNames req node

theorem SoundApproval.of_checks {state : ClusterState} {csr : CertificateSigningRequest}
    {node : String} (hpending : isApprovedOrDenied csr = false) (hnonempty : node ≠ "")
    (hmanaged : ManagedNode state state.machines node)
    (happrove : shouldApproveKubeletCSR parse csr node = true) :
    ∃ req, SoundApproval parse state csr req node := by
  obtain ⟨req, hparsed, hname, -, hpolicy⟩ := (shouldApproveKubeletCSR_iff csr node).mp happrove
  have hdistinct : kubeletClientSignerName ≠ kubeletServingSignerName := by decide
  have hrequester : NodeRequester csr node ∨
      csr.signerName = kubeletClientSignerName ∧ BootstrapRequester csr := by
    rcases hpolicy with ⟨hs, hr, -⟩ | ⟨-, hr, -⟩
    · exact hr.imp_right fun hb => ⟨hs, hb⟩
    · exact .inl hr
  refine ⟨req, ?_, ?_, hparsed, hname, hnonempty, hmanaged, ?_, ?_, ?_, ?_, ?_⟩
  · simpa [isApprovedOrDenied] using hpending
  · exact hpolicy.imp And.left And.left
  · intro hnode
    exact hrequester.resolve_right fun hb => not_bootstrapRequester_of_node hnode hb.2
  · intro hnode
    refine hrequester.resolve_left fun hn => ?_
    rw [hn.1, hasPrefix_append] at hnode
    exact Bool.noConfusion hnode
  · intro hs
    rcases hpolicy with ⟨-, -, hu⟩ | ⟨hs', -⟩
    · exact hu
    · exact absurd (hs.symm.trans hs') hdistinct
  · intro hs
    rcases hpolicy with ⟨hs', -⟩ | ⟨-, -, -, hu⟩
    · exact absurd (hs'.symm.trans hs) hdistinct
    · exact hu
  · intro hs
    rcases hpolicy with ⟨hs', -⟩ | ⟨-, -, hn, -⟩
    · exact absurd (hs'.symm.trans hs) hdistinct
    · exact hn

-- The only write is the approval, and it carries a sound request of the initial state.
def ApprovalGuard (parse : Bytes → Option CertificateRequest) (name : String)
    (initial : ClusterState) : Op → Prop
  | .updateApproval updated => ∃ csr ∈ initial.csrs, csr.name = name ∧
      ∃ req node, updated = approvedBy csr node ∧ SoundApproval parse initial csr req node
  | _ => True

theorem ManagedNode.cons {state : ClusterState} {machines : List Machine} {node : String}
    (machine : Machine) (h : ManagedNode state machines node) :
    ManagedNode state (machine :: machines) node := by
  obtain ⟨m, hm, hk⟩ := h
  exact ⟨m, List.mem_cons_of_mem _ hm, hk⟩

section Run

variable (parse) (name node : String) (initial : ClusterState)

theorem anyManagedNode_holds (machines : List Machine) :
    Holds apiHandler (fun _ => ApprovalGuard parse name initial)
      (fun found after => after = initial ∧ (found = true → ManagedNode initial machines node))
      (anyManagedNode node machines) initial := by
  induction machines with
  | nil => exact ⟨rfl, fun h => Bool.noConfusion h⟩
  | cons machine rest ih =>
    have hrest : Holds apiHandler (fun _ => ApprovalGuard parse name initial)
        (fun found after => after = initial ∧
          (found = true → ManagedNode initial (machine :: rest) node))
        (anyManagedNode node rest) initial :=
      ih.post_mono fun found after h => ⟨h.1, fun hf => (h.2 hf).cons machine⟩
    rw [anyManagedNode]
    split
    · exact hrest
    · rename_i hkind
      refine ⟨trivial, ?_⟩
      rintro reply after ⟨rfl, hreply⟩
      cases reply with
      | error err => exact hrest
      | ok lm =>
        obtain ⟨hlm, hkey⟩ := hreply lm rfl
        change Holds apiHandler _ _ (if managedNodeName lm machine = node then _ else _) _
        split
        · rename_i hname
          exact ⟨rfl, fun _ => ⟨machine, List.mem_cons_self, not_not.mp hkind, lm, hlm, hkey, hname⟩⟩
        · exact hrest

theorem isLibvirtManagedNode_holds :
    Holds apiHandler (fun _ => ApprovalGuard parse name initial)
      (fun found after => after = initial ∧ (found = true → ManagedNode initial initial.machines node))
      (isLibvirtManagedNode node) initial := by
  refine ⟨trivial, ?_⟩
  rintro reply after ⟨rfl, hreply⟩
  cases reply with
  | error err => exact ⟨rfl, fun h => Bool.noConfusion h⟩
  | ok machines =>
    obtain rfl := hreply machines rfl
    exact anyManagedNode_holds parse name node after _

theorem reconcile_holds :
    Holds apiHandler (fun _ => ApprovalGuard parse name initial) (fun _ _ => True)
      (reconcile parse name) initial := by
  refine ⟨trivial, ?_⟩
  rintro reply after ⟨rfl, hreply⟩
  cases reply with
  | error err => trivial
  | ok csr =>
    obtain ⟨hcsr, hname⟩ := hreply csr rfl
    -- the checks that end the reconcile early, in the order of the source
    change Holds apiHandler _ _ (if isApprovedOrDenied csr = true then _ else _) _
    split
    · trivial
    split
    · trivial
    dsimp only
    split
    · trivial
    rename_i hpending hsigner hnonempty
    refine (isLibvirtManagedNode_holds parse name _ after).bind ?_
    rintro found _ ⟨rfl, hfound⟩
    split
    · trivial
    split
    · trivial
    rename_i hmanaged happrove
    obtain ⟨req, hsound⟩ := SoundApproval.of_checks (Bool.eq_false_iff.mpr hpending) hnonempty
      (hfound (by simpa using hmanaged)) (by simpa using happrove)
    exact ⟨⟨csr, hcsr, hname, req, _, rfl, hsound⟩, fun _ _ _ => trivial⟩

end Run

-- Whatever the cluster holds and whichever reads fail, an approval is submitted
-- only for a stored request that meets every condition of `SoundApproval`.
theorem submitted_approval_sound (parse : Bytes → Option CertificateRequest) (name : String)
    (initial after : ClusterState) (events : List (Event signature))
    (updated : CertificateSigningRequest)
    (next : Except ApiError Unit → Prog signature (Except ApiError Unit))
    (hrun : Exec apiHandler (reconcile parse name) initial events
      (.ask (Op.updateApproval updated) next) after) :
    ∃ csr ∈ initial.csrs, csr.name = name ∧
      ∃ req node, updated = approvedBy csr node ∧ SoundApproval parse initial csr req node :=
  (reconcile_holds parse name initial).guard_of_exec hrun

def joinRequest : CertificateRequest :=
  ⟨"system:node:ns-c-m", ["system:nodes"], [], [], [], []⟩

def joinCSR : CertificateSigningRequest :=
  ⟨"csr-1", kubeletClientSignerName, openshiftNodeBootstrapper, [],
    [.digitalSignature, .clientAuth], [1], []⟩

def joinCluster : ClusterState := ⟨[joinCSR], [sampleOwner], [sampleMachine]⟩

theorem submitted_approval_sound_join :
    ∃ csr ∈ joinCluster.csrs, csr.name = "csr-1" ∧
      ∃ req node, approvedBy joinCSR "ns-c-m" = approvedBy csr node ∧
        SoundApproval (fun _ => some joinRequest) joinCluster csr req node :=
  submitted_approval_sound (fun _ => some joinRequest) "csr-1" joinCluster joinCluster
    [⟨Op.getCSR "csr-1", .ok joinCSR⟩, ⟨Op.listMachines, .ok [sampleOwner]⟩,
      ⟨Op.getLibvirtMachine ⟨"ns", "m"⟩, .ok sampleMachine⟩]
    (approvedBy joinCSR "ns-c-m") .done <| by
      have hcsr : apiHandler joinCluster (Op.getCSR "csr-1") (.ok joinCSR) joinCluster := by
        refine ⟨rfl, ?_⟩
        rintro csr ⟨⟩
        exact ⟨List.mem_cons_self, rfl⟩
      have hlist : apiHandler joinCluster Op.listMachines (.ok [sampleOwner]) joinCluster := by
        refine ⟨rfl, ?_⟩
        rintro machines ⟨⟩
        rfl
      have hget : apiHandler joinCluster (Op.getLibvirtMachine ⟨"ns", "m"⟩) (.ok sampleMachine)
          joinCluster := by
        refine ⟨rfl, ?_⟩
        rintro lm ⟨⟩
        exact ⟨List.mem_cons_self, rfl⟩
      exact .ask hcsr (.ask hlist (.ask hget (.refl _ _)))

end Caplv.Csr
