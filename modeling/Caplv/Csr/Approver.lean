import Caplv.Api.Types
import Caplv.Program.Logic

namespace Caplv.Csr

open Text Api Program

def kubeletClientSignerName : String := "kubernetes.io/kube-apiserver-client-kubelet"
def kubeletServingSignerName : String := "kubernetes.io/kubelet-serving"
def systemNodePrefix : String := "system:node:"
def systemNodesGroup : String := "system:nodes"
def systemBootstrappersGroup : String := "system:bootstrappers"
def systemBootstrapPrefix : String := "system:bootstrap:"
def openshiftNodeBootstrapper : String :=
  "system:serviceaccount:openshift-machine-config-operator:node-bootstrapper"

inductive KeyUsage where
  | digitalSignature
  | keyEncipherment
  | clientAuth
  | serverAuth
  | other (usage : String)
deriving DecidableEq, Repr

inductive RequestConditionType where
  | approved
  | denied
  | failed
deriving DecidableEq, Repr

structure RequestCondition where
  type : RequestConditionType
  status : Bool
  reason : String
  message : String
deriving DecidableEq, Repr

structure CertificateSigningRequest where
  name : String
  signerName : String
  username : String
  groups : List String
  usages : List KeyUsage
  request : Bytes
  conditions : List RequestCondition
deriving DecidableEq, Repr

-- A net.IP: nil, or a slice of bytes.
abbrev IP := Option Bytes

namespace IP

def v4InV6Prefix : Bytes := [0, 0, 0, 0, 0, 0, 0, 0, 0, 0, 0xff, 0xff]

def ipv4zero : Bytes := v4InV6Prefix ++ [0, 0, 0, 0]
def ipv6unspecified : Bytes := [0, 0, 0, 0, 0, 0, 0, 0, 0, 0, 0, 0, 0, 0, 0, 0]
def ipv6loopback : Bytes := [0, 0, 0, 0, 0, 0, 0, 0, 0, 0, 0, 0, 0, 0, 0, 1]

def to4 (ip : Bytes) : Option Bytes :=
  if ip.length = 4 then some ip
  else if ip.length = 16 ∧ ip.take 12 = v4InV6Prefix then some (ip.drop 12)
  else none

def equal (ip other : Bytes) : Bool :=
  if ip.length = other.length then ip == other
  else if ip.length = 4 ∧ other.length = 16 then other == v4InV6Prefix ++ ip
  else if ip.length = 16 ∧ other.length = 4 then ip == v4InV6Prefix ++ other
  else false

def isUnspecified (ip : Bytes) : Bool := equal ip ipv4zero || equal ip ipv6unspecified

def isLoopback (ip : Bytes) : Bool :=
  match to4 ip with
  | some ip4 => ip4.head? == some 127
  | none => equal ip ipv6loopback

def isMulticast (ip : Bytes) : Bool :=
  match to4 ip with
  | some ip4 => ip4.head?.map (fun b => b &&& 0xf0) == some 0xe0
  | none => ip.length == 16 && ip.head? == some 0xff

-- The test of validKubeletServingSANs on one address.
def acceptable : IP → Bool
  | none => false
  | some ip => !(isUnspecified ip || isLoopback ip || isMulticast ip)

end IP

-- The fields of an x509.CertificateRequest that the approver reads.
structure CertificateRequest where
  commonName : String
  organization : List String
  dnsNames : List String
  ipAddresses : List IP
  emailAddresses : List String
  uris : List String
deriving DecidableEq, Repr

section Policy

-- pem.Decode followed by x509.ParseCertificateRequest, on the bytes of the request.
variable (parse : Bytes → Option CertificateRequest)

def parseCSRRequest (csr : CertificateSigningRequest) : Option CertificateRequest := parse csr.request

def isApprovedOrDenied (csr : CertificateSigningRequest) : Bool :=
  csr.conditions.any fun c => c.type == .approved || c.type == .denied

def nodeNameFromCSR (csr : CertificateSigningRequest) : String :=
  if hasPrefix csr.username systemNodePrefix then afterPrefix csr.username systemNodePrefix
  else
    match parseCSRRequest parse csr with
    | none => ""
    | some req =>
      if hasPrefix req.commonName systemNodePrefix then afterPrefix req.commonName systemNodePrefix
      else ""

def containsString (values : List String) (value : String) : Bool := values.contains value

def containsUsage (usages : List KeyUsage) (usage : KeyUsage) : Bool := usages.contains usage

def hasOnlyUsages (actual allowed : List KeyUsage) : Bool :=
  actual.all fun usage => containsUsage allowed usage

def containsGroupPrefix (groups : List String) (head : String) : Bool :=
  groups.any fun group => group == head || hasPrefix group (head ++ ":")

def validKubeletClientRequester (csr : CertificateSigningRequest) (nodeName : String) : Bool :=
  if csr.username = systemNodePrefix ++ nodeName ∧ containsString csr.groups systemNodesGroup then true
  else if hasPrefix csr.username systemBootstrapPrefix ∧
      containsGroupPrefix csr.groups systemBootstrappersGroup then true
  else if csr.username = openshiftNodeBootstrapper then true
  else false

def validKubeletServingRequester (csr : CertificateSigningRequest) (nodeName : String) : Bool :=
  csr.username == systemNodePrefix ++ nodeName && containsString csr.groups systemNodesGroup

def validKubeletServingSANs (req : CertificateRequest) (nodeName : String) : Bool :=
  if req.emailAddresses.length > 0 ∨ req.uris.length > 0 then false
  else
    req.dnsNames.all (fun dnsName => dnsName == nodeName || hasPrefix dnsName (nodeName ++ ".")) &&
      req.ipAddresses.all IP.acceptable

def clientUsages : List KeyUsage := [.digitalSignature, .keyEncipherment, .clientAuth]

def servingUsages : List KeyUsage := [.digitalSignature, .keyEncipherment, .serverAuth]

def shouldApproveKubeletCSR (csr : CertificateSigningRequest) (nodeName : String) : Bool :=
  match parseCSRRequest parse csr with
  | none => false
  | some req =>
    if req.commonName ≠ systemNodePrefix ++ nodeName ∨
        !containsString req.organization systemNodesGroup then false
    else if csr.signerName = kubeletClientSignerName then
      validKubeletClientRequester csr nodeName && hasOnlyUsages csr.usages clientUsages &&
        containsUsage csr.usages .clientAuth
    else if csr.signerName = kubeletServingSignerName then
      validKubeletServingRequester csr nodeName && validKubeletServingSANs req nodeName &&
        hasOnlyUsages csr.usages servingUsages && containsUsage csr.usages .serverAuth
    else false

end Policy

inductive Op where
  | getCSR (name : String)
  | listMachines
  | getLibvirtMachine (key : ObjectKey)
  | updateApproval (csr : CertificateSigningRequest)

@[reducible] def Reply : Op → Type
  | .getCSR _ => Except ApiError CertificateSigningRequest
  | .listMachines => Except ApiError (List Machine)
  | .getLibvirtMachine _ => Except ApiError LibvirtMachine
  | .updateApproval _ => Except ApiError Unit

abbrev signature : Signature := ⟨Op, Reply⟩

abbrev api (op : Op) : Prog signature (Reply op) := @Prog.perform signature op

def managedNodeName (lm : LibvirtMachine) (machine : Machine) : String :=
  lm.namespaceName ++ "-" ++ machine.labels.index clusterNameLabel ++ "-" ++ lm.name

def anyManagedNode (nodeName : String) : List Machine → Prog signature Bool
  | [] => .done false
  | machine :: rest =>
    if machine.infrastructureRef.kind ≠ "LibvirtMachine" then anyManagedNode nodeName rest
    else do
      let key : ObjectKey := ⟨machine.infrastructureRef.namespaceName, machine.infrastructureRef.name⟩
      match ← api (.getLibvirtMachine key) with
      | .error _ => anyManagedNode nodeName rest
      | .ok lm =>
        if managedNodeName lm machine = nodeName then .done true else anyManagedNode nodeName rest

def isLibvirtManagedNode (nodeName : String) : Prog signature Bool := do
  match ← api .listMachines with
  | .error _ => .done false
  | .ok machines => anyManagedNode nodeName machines

def approvedBy (csr : CertificateSigningRequest) (nodeName : String) : CertificateSigningRequest :=
  { csr with conditions := csr.conditions ++
      [⟨.approved, true, "CAPLVAutoApproved",
        "CSR auto-approved by CAPLV for managed node " ++ nodeName⟩] }

def reconcile (parse : Bytes → Option CertificateRequest) (name : String) :
    Prog signature (Except ApiError Unit) := do
  match ← api (.getCSR name) with
  | .error err => .done (if err.isNotFound then .ok () else .error err)
  | .ok csr =>
    if isApprovedOrDenied csr then .done (.ok ())
    else if csr.signerName ≠ kubeletClientSignerName ∧ csr.signerName ≠ kubeletServingSignerName then
      .done (.ok ())
    else
      let nodeName := nodeNameFromCSR parse csr
      if nodeName = "" then .done (.ok ())
      else do
        if !(← isLibvirtManagedNode nodeName) then .done (.ok ())
        else if !shouldApproveKubeletCSR parse csr nodeName then .done (.ok ())
        else api (.updateApproval (approvedBy csr nodeName))

-- The objects stored in the API server. A read answers from the store or fails.
structure ClusterState where
  csrs : List CertificateSigningRequest
  machines : List Machine
  libvirtMachines : List LibvirtMachine

def ClusterState.replace (state : ClusterState) (csr : CertificateSigningRequest) : ClusterState :=
  { state with csrs := state.csrs.map fun old => if old.name = csr.name then csr else old }

def ApiStep (before : ClusterState) : (op : Op) → Reply op → ClusterState → Prop
  | .getCSR name, reply, after => after = before ∧
      ∀ csr, reply = .ok csr → csr ∈ before.csrs ∧ csr.name = name
  | .listMachines, reply, after => after = before ∧
      ∀ machines, reply = .ok machines → machines = before.machines
  | .getLibvirtMachine key, reply, after => after = before ∧
      ∀ lm, reply = .ok lm → lm ∈ before.libvirtMachines ∧ lm.key = key
  | .updateApproval csr, .ok _, after => after = before.replace csr
  | .updateApproval _, .error _, after => after = before

abbrev apiHandler : Handler signature ClusterState := ApiStep

end Caplv.Csr
