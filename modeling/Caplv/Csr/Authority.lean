import Caplv.Csr.Theorems

namespace Caplv.Csr

open Text Api Program

-- The certificate makes its holder this node and nothing else: no other group, and
-- no subject alternative name on a client certificate.
structure OnlyNodeAuthority (csr : CertificateSigningRequest) (req : CertificateRequest) : Prop where
  organizations : ∀ organization ∈ req.organization, organization = systemNodesGroup
  clientNames : csr.signerName = kubeletClientSignerName →
    req.dnsNames = [] ∧ req.ipAddresses = [] ∧ req.emailAddresses = [] ∧ req.uris = []

-- What a requester puts into the subject and the extensions, up to the common name.
structure Asks where
  organizations : List String
  dnsNames : List String
  ipAddresses : List IP
  emailAddresses : List String
  uris : List String

def Asks.request (asks : Asks) (commonName : String) : CertificateRequest :=
  ⟨commonName, asks.organizations, asks.dnsNames, asks.ipAddresses, asks.emailAddresses, asks.uris⟩

-- Without system:nodes among the organizations, or as a serving request for names that no node
-- has, nothing is accepted. Otherwise there is no further organization and, for the client signer,
-- no alternative name.
structure Restrained (signer : String) (asks : Asks) : Prop where
  client : signer = kubeletClientSignerName → systemNodesGroup ∈ asks.organizations →
    (∀ organization ∈ asks.organizations, organization = systemNodesGroup) ∧
      asks.dnsNames = [] ∧ asks.ipAddresses = [] ∧ asks.emailAddresses = [] ∧ asks.uris = []
  serving : signer = kubeletServingSignerName → systemNodesGroup ∈ asks.organizations →
    ∀ node, ServingNames (asks.request (systemNodePrefix ++ node)) node →
      ∀ organization ∈ asks.organizations, organization = systemNodesGroup

def bootstrapRequest : CertificateSigningRequest :=
  ⟨"csr", kubeletClientSignerName, openshiftNodeBootstrapper, [], [.clientAuth], [], []⟩

def servingRequest (node : String) : CertificateSigningRequest :=
  ⟨"csr", kubeletServingSignerName, systemNodePrefix ++ node, [systemNodesGroup], [.serverAuth], [], []⟩

section Accepted

variable {asks : Asks}

-- The policy lets any further organization and any alternative name through.
theorem bootstrapRequest_accepted (horganizations : systemNodesGroup ∈ asks.organizations) (node : String) :
    shouldApproveKubeletCSR (fun _ => some (asks.request (systemNodePrefix ++ node))) bootstrapRequest node =
      true := by
  have husages : UsagesWithin bootstrapRequest.usages clientUsages .clientAuth := ⟨by decide, by decide⟩
  exact (shouldApproveKubeletCSR_iff _ _).mpr
    ⟨_, rfl, rfl, horganizations, .inl ⟨rfl, .inr (.inr rfl), husages⟩⟩

theorem servingRequest_accepted (horganizations : systemNodesGroup ∈ asks.organizations) {node : String}
    (hnames : ServingNames (asks.request (systemNodePrefix ++ node)) node) :
    shouldApproveKubeletCSR (fun _ => some (asks.request (systemNodePrefix ++ node))) (servingRequest node) node =
      true := by
  have husages : UsagesWithin [.serverAuth] servingUsages .serverAuth := ⟨by decide, by decide⟩
  have hrequester : NodeRequester (servingRequest node) node := ⟨rfl, List.mem_singleton_self _⟩
  exact (shouldApproveKubeletCSR_iff _ _).mpr
    ⟨_, rfl, rfl, horganizations, .inr ⟨rfl, hrequester, hnames, husages⟩⟩

end Accepted

-- The requests with these organizations and names that are accepted, for any common name, requester
-- and usages, all carry no other authority exactly when the organizations and names are restrained.
theorem accepted_onlyNodeAuthority_iff (signer : String) (asks : Asks) :
    (∀ (parse : Bytes → Option CertificateRequest) (csr : CertificateSigningRequest) (node commonName : String),
      csr.signerName = signer → parse csr.request = some (asks.request commonName) →
        shouldApproveKubeletCSR parse csr node = true → OnlyNodeAuthority csr (asks.request commonName)) ↔
      Restrained signer asks := by
  constructor
  · intro h
    refine ⟨?_, ?_⟩
    -- a request with the data is built for each signer, and accepted
    · rintro rfl horganizations
      have honly := h _ bootstrapRequest "node" _ rfl rfl (bootstrapRequest_accepted horganizations "node")
      exact ⟨honly.organizations, honly.clientNames rfl⟩
    · rintro rfl horganizations node hnames
      exact (h _ (servingRequest node) node _ rfl rfl (servingRequest_accepted horganizations hnames)).organizations
  · rintro hrestrained parse csr node commonName rfl hparse happroved
    obtain ⟨req, hreq, hname, horganizations, hsigner⟩ := (shouldApproveKubeletCSR_iff csr node).mp happroved
    obtain rfl : asks.request commonName = req := Option.some.inj (hparse.symm.trans hreq)
    obtain rfl : commonName = systemNodePrefix ++ node := hname
    rcases hsigner with ⟨hclient, -⟩ | ⟨hserving, -, hnames, -⟩
    · obtain ⟨honly, hnone⟩ := hrestrained.client hclient horganizations
      exact ⟨honly, fun _ => hnone⟩
    · refine ⟨hrestrained.serving hserving horganizations node hnames, fun hclient => ?_⟩
      exact absurd (hclient.symm.trans hserving) (by decide)

-- A bootstrap identity obtains a client certificate in group system:masters, with a
-- DNS name in it.
def mastersRequest : CertificateRequest :=
  ⟨"system:node:ns-c-m", ["system:nodes", "system:masters"], ["api.example"], [], [], []⟩

theorem approves_system_masters :
    shouldApproveKubeletCSR (fun _ => some mastersRequest) joinCSR "ns-c-m" = true ∧
      "system:masters" ∈ mastersRequest.organization ∧ mastersRequest.dnsNames ≠ [] ∧
      ¬ OnlyNodeAuthority joinCSR mastersRequest := by
  refine ⟨by decide, by decide, by decide, fun h => ?_⟩
  exact absurd (h.organizations "system:masters" (by decide)) (by decide)

end Caplv.Csr
