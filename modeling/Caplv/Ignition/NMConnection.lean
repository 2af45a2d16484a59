import Caplv.Controller.Op
import Caplv.Keyfile
import Caplv.Webhook.Machine

namespace Caplv.Ignition

open Api Libvirt Controller Keyfile

-- The keyfile for enp1s0, line by line.
def generateNMConnection (net : NetworkConfig) : String :=
  render (
    ["[connection]",
     "id=enp1s0",
     "type=ethernet",
     "interface-name=enp1s0",
     "autoconnect=true",
     "autoconnect-priority=1",
     "",
     "[ipv4]",
     "method=manual"] ++
    (net.addresses.zipIdx.map fun (addr, i) => "address" ++ toString (i + 1) ++ "=" ++ addr) ++
    (if net.gateway ≠ "" then ["gateway=" ++ net.gateway] else []) ++
    (if net.dnsServers.length > 0 then ["dns=" ++ String.intercalate ";" net.dnsServers ++ ";"] else []) ++
    (if net.dnsSearch.length > 0 then ["dns-search=" ++ String.intercalate ";" net.dnsSearch ++ ";"] else []) ++
    ["",
     "[ipv6]",
     "method=disabled"])

-- Default DNS to the gateway if not explicitly set.
def withDefaultDNS (net : NetworkConfig) : NetworkConfig :=
  if net.dnsServers.length = 0 ∧ net.gateway ≠ "" then { net with dnsServers := [net.gateway] } else net

-- What reconcileBootstrapArtifacts asks for.
def networkConfig (netSpec : NetworkSpec) : NetworkConfig :=
  { addresses := netSpec.addresses
    gateway := netSpec.gateway
    dnsServers := (netSpec.dns.map DNSSpec.nameservers).getD []
    dnsSearch := (netSpec.dns.map DNSSpec.searchDomains).getD [] }

inductive Family where
  | ipv4
  | ipv6
deriving DecidableEq, Repr

-- net.ParseCIDR: what it accepts is of one family and on one line.
structure CidrParser where
  parse : String → Except GoError Family
  oneLine : ∀ text family, parse text = .ok family → '\n' ∉ text.toList

namespace CidrParser

variable (cidr : CidrParser)

def error (text : String) : Option GoError :=
  match cidr.parse text with
  | .ok _ => none
  | .error err => some err

def isFamily (family : Family) (text : String) : Bool :=
  match cidr.parse text with
  | .ok found => found = family
  | .error _ => false

end CidrParser

def listKeys : List String := ["dns", "dns-search"]

def numberedAddresses (addresses : List String) : List (String × Value) :=
  addresses.zipIdx.map fun (addr, i) => ("address" ++ toString (i + 1), .text addr)

def connectionGroup : String × List (String × Value) :=
  ("connection", [("id", .text "enp1s0"), ("type", .text "ethernet"), ("interface-name", .text "enp1s0"),
    ("autoconnect", .text "true"), ("autoconnect-priority", .text "1")])

def ipv4Group (net : NetworkConfig) (addresses : List String) : String × List (String × Value) :=
  ("ipv4", ("method", .text "manual") :: numberedAddresses addresses ++
    (if net.gateway ≠ "" then [("gateway", .text net.gateway)] else []) ++
    (if net.dnsServers.length > 0 then [("dns", .list net.dnsServers)] else []) ++
    (if net.dnsSearch.length > 0 then [("dns-search", .list net.dnsSearch)] else []))

def ipv6Group (addresses : List String) : String × List (String × Value) :=
  ("ipv6", if addresses = [] then [("method", .text "disabled")]
    else ("method", .text "manual") :: numberedAddresses addresses)

-- The configuration that was asked for: every address under its own family.
def requested (cidr : CidrParser) (net : NetworkConfig) : List (String × List (String × Value)) :=
  [connectionGroup, ipv4Group (withDefaultDNS net) (net.addresses.filter (cidr.isFamily .ipv4)),
    ipv6Group (net.addresses.filter (cidr.isFamily .ipv6))]

-- What is written: all addresses under ipv4.
def written (net : NetworkConfig) : List (String × List (String × Value)) :=
  [connectionGroup, ipv4Group net net.addresses, ipv6Group []]

-- All addresses are of IPv4, and the strings hold nothing that the keyfile reads as structure.
structure Writable (cidr : CidrParser) (net : NetworkConfig) : Prop where
  addresses : ∀ addr ∈ net.addresses, cidr.parse addr = .ok .ipv4
  gateway : '\n' ∉ net.gateway.toList
  dnsServers : ∀ server ∈ (withDefaultDNS net).dnsServers, '\n' ∉ server.toList ∧ ';' ∉ server.toList
  dnsSearch : ∀ domain ∈ net.dnsSearch, '\n' ∉ domain.toList ∧ ';' ∉ domain.toList

section Written

variable {net : NetworkConfig}

theorem generateNMConnection_eq (net : NetworkConfig) :
    generateNMConnection net = render ((document (written net)).map Line.text) := by
  rw [generateNMConnection, written, ipv4Group, ipv6Group, document, connectionGroup]
  by_cases hgateway : net.gateway = "" <;> by_cases hdns : net.dnsServers.length > 0 <;>
    by_cases hsearch : net.dnsSearch.length > 0 <;>
    simp [hgateway, hdns, hsearch, groupLines, List.intercalate, Line.text, Value.print, numberedAddresses,
      Function.comp_def, String.append_assoc]

theorem address_keyName (i : Nat) : KeyName ("address" ++ toString (i + 1)) := by
  have hdigit (c : Char) (hc : c ∈ (toString (i + 1)).toList) : c.isDigit = true := by
    have hmem : c ∈ Nat.toDigits 10 (i + 1) := by simpa using hc
    exact Nat.isDigit_of_mem_toDigits (by decide) (by decide) hmem
  have hother (c : Char) (hc : c.isDigit = false) (hhead : c ∉ "address".toList) :
      c ∉ ("address" ++ toString (i + 1)).toList := by
    rw [String.toList_append]
    intro hmem
    rcases List.mem_append.mp hmem with hmem | hmem
    · exact hhead hmem
    · rw [hdigit c hmem] at hc
      cases hc
  exact ⟨by simp, by simp, hother '=' (by decide) (by decide), hother '\n' (by decide) (by decide)⟩

theorem address_not_list (i : Nat) : "address" ++ toString (i + 1) ∉ listKeys := by
  intro hmem
  have hhead : ∀ key ∈ listKeys, key.toList.head? = some 'd' := by decide
  have := hhead _ hmem
  simp at this

theorem forall_ipv4Group {addresses : List String} {P : String × Value → Prop}
    (hmethod : P ("method", .text "manual"))
    (haddress : ∀ addr ∈ addresses, ∀ i : Nat, P ("address" ++ toString (i + 1), .text addr))
    (hgateway : P ("gateway", .text net.gateway))
    (hdns : net.dnsServers ≠ [] → P ("dns", .list net.dnsServers))
    (hsearch : net.dnsSearch ≠ [] → P ("dns-search", .list net.dnsSearch)) :
    ∀ entry ∈ (ipv4Group net addresses).2, P entry := by
  intro entry hentry
  simp only [ipv4Group, List.cons_append, List.mem_cons, List.mem_append] at hentry
  rcases hentry with rfl | ((hentry | hentry) | hentry) | hentry
  · exact hmethod
  · obtain ⟨⟨addr, i⟩, hmem, rfl⟩ := List.mem_map.mp hentry
    exact haddress addr (List.fst_mem_of_mem_zipIdx hmem) i
  · split at hentry
    · rw [List.mem_singleton.mp hentry]
      exact hgateway
    · cases hentry
  · split at hentry
    · rename_i hne
      rw [List.mem_singleton.mp hentry]
      exact hdns (List.ne_nil_of_length_pos hne)
    · cases hentry
  · split at hentry
    · rename_i hne
      rw [List.mem_singleton.mp hentry]
      exact hsearch (List.ne_nil_of_length_pos hne)
    · cases hentry

structure OneLiners (net : NetworkConfig) : Prop where
  addresses : ∀ addr ∈ net.addresses, '\n' ∉ addr.toList
  gateway : '\n' ∉ net.gateway.toList
  dnsServers : ∀ server ∈ net.dnsServers, '\n' ∉ server.toList ∧ ';' ∉ server.toList
  dnsSearch : ∀ domain ∈ net.dnsSearch, '\n' ∉ domain.toList ∧ ';' ∉ domain.toList

def EntryReadable (entry : String × Value) : Prop :=
  KeyName entry.1 ∧ entry.2.Fits listKeys entry.1 ∧ entry.2.Plain

theorem fixed_readable {key value : String} (hkey : KeyName key) (hlist : key ∉ listKeys)
    (hvalue : '\n' ∉ value.toList) : EntryReadable (key, .text value) := ⟨hkey, hlist, hvalue⟩

theorem list_readable {key : String} {elements : List String} (hkey : KeyName key) (hlist : key ∈ listKeys)
    (hne : elements ≠ []) (hplain : Value.Plain (.list elements)) : EntryReadable (key, .list elements) :=
  ⟨hkey, ⟨hlist, hne⟩, hplain⟩

instance (key : String) : Decidable (KeyName key) := inferInstanceAs (Decidable (_ ∧ _))

theorem written_readable (h : OneLiners net) : Readable listKeys (written net) := by
  have hentries : ∀ group ∈ written net, '\n' ∉ group.1.toList ∧ ∀ entry ∈ group.2, EntryReadable entry := by
    intro group hgroup
    simp only [written, List.mem_cons, List.not_mem_nil, or_false] at hgroup
    rcases hgroup with rfl | rfl | rfl
    · refine ⟨by decide, fun entry hentry => ?_⟩
      simp only [connectionGroup, List.mem_cons, List.not_mem_nil, or_false] at hentry
      rcases hentry with rfl | rfl | rfl | rfl | rfl <;>
        exact fixed_readable (by decide) (by decide) (by decide)
    · refine ⟨by simp [ipv4Group], forall_ipv4Group ?_ ?_ ?_ ?_ ?_⟩
      · exact fixed_readable (by decide) (by decide) (by decide)
      · exact fun addr haddr i => fixed_readable (address_keyName i) (address_not_list i) (h.addresses addr haddr)
      · exact fixed_readable (by decide) (by decide) h.gateway
      · exact fun hne => list_readable (by decide) (by decide) hne h.dnsServers
      · exact fun hne => list_readable (by decide) (by decide) hne h.dnsSearch
    · refine ⟨by decide, fun entry hentry => ?_⟩
      rw [List.mem_singleton.mp hentry]
      exact fixed_readable (by decide) (by decide) (by decide)
  exact
    { names := fun group hgroup => (hentries group hgroup).1
      keys := fun group hgroup entry hentry => ((hentries group hgroup).2 entry hentry).1
      fits := fun group hgroup entry hentry => ((hentries group hgroup).2 entry hentry).2.1
      plain := fun group hgroup entry hentry => ((hentries group hgroup).2 entry hentry).2.2 }

theorem decode_generate (h : OneLiners net) : decode listKeys (generateNMConnection net) = some (written net) := by
  rw [generateNMConnection_eq]
  exact decode_document (written_readable h)

end Written

section Requested

variable {cidr : CidrParser} {net : NetworkConfig}

theorem withDefaultDNS_addresses : (withDefaultDNS net).addresses = net.addresses := by
  unfold withDefaultDNS
  split <;> rfl

theorem withDefaultDNS_gateway : (withDefaultDNS net).gateway = net.gateway := by
  unfold withDefaultDNS
  split <;> rfl

theorem withDefaultDNS_dnsSearch : (withDefaultDNS net).dnsSearch = net.dnsSearch := by
  unfold withDefaultDNS
  split <;> rfl

theorem oneLiners_of_decoded {text : String} (haddresses : ∀ addr ∈ net.addresses, '\n' ∉ addr.toList)
    (h : decode listKeys text = some (requested cidr net)) : OneLiners (withDefaultDNS net) := by
  have hvalue (key : String) (value : Value)
      (hmem : (key, value) ∈ (ipv4Group (withDefaultDNS net) (net.addresses.filter (cidr.isFamily .ipv4))).2) :
      value.Plain :=
    decode_plain h (List.mem_cons_of_mem _ List.mem_cons_self) hmem
  refine ⟨?_, ?_, ?_, ?_⟩
  · rw [withDefaultDNS_addresses]
    exact haddresses
  · by_cases hgateway : (withDefaultDNS net).gateway = ""
    · simp [hgateway]
    · exact hvalue "gateway" (.text _) (by simp [ipv4Group, hgateway])
  · by_cases hdns : (withDefaultDNS net).dnsServers = []
    · simp [hdns]
    · have hlength : (withDefaultDNS net).dnsServers.length > 0 := List.length_pos_of_ne_nil hdns
      exact hvalue "dns" (.list _) (by simp [ipv4Group, hlength])
  · by_cases hsearch : (withDefaultDNS net).dnsSearch = []
    · simp [hsearch]
    · have hlength : (withDefaultDNS net).dnsSearch.length > 0 := List.length_pos_of_ne_nil hsearch
      exact hvalue "dns-search" (.list _) (by simp [ipv4Group, hlength])

theorem written_eq_requested (h : ∀ addr ∈ net.addresses, cidr.parse addr = .ok .ipv4) :
    written (withDefaultDNS net) = requested cidr net := by
  have hall : net.addresses.filter (cidr.isFamily .ipv4) = net.addresses := by
    rw [List.filter_eq_self]
    intro addr haddr
    simp [CidrParser.isFamily, h addr haddr]
  have hnone : net.addresses.filter (cidr.isFamily .ipv6) = [] := by
    rw [List.filter_eq_nil_iff]
    intro addr haddr
    simp [CidrParser.isFamily, h addr haddr]
  rw [written, requested, hall, hnone, withDefaultDNS_addresses]

theorem ipv4_of_written_eq (h : written (withDefaultDNS net) = requested cidr net) :
    ∀ addr ∈ net.addresses, cidr.parse addr ≠ .ok .ipv6 := by
  intro addr haddr hparse
  have hmem : addr ∈ net.addresses.filter (cidr.isFamily .ipv6) :=
    List.mem_filter.mpr ⟨haddr, by simp [CidrParser.isFamily, hparse]⟩
  have hgroup : ipv6Group [] = ipv6Group (net.addresses.filter (cidr.isFamily .ipv6)) := by
    simp only [written, requested, List.cons.injEq] at h
    exact h.2.2.1
  rw [ipv6Group, ipv6Group, if_pos rfl, if_neg (List.ne_nil_of_mem hmem)] at hgroup
  simp at hgroup

theorem parses_of_accepted {listed : Option (Except GoError (List LibvirtMachine))} {lm : LibvirtMachine}
    (h : Webhook.validateCreate cidr.error listed lm = .ok ()) :
    ∀ addr ∈ lm.spec.network.addresses, ∃ family, cidr.parse addr = .ok family := by
  have hnone : Webhook.addressErrors cidr.error lm.spec.network.addresses = [] := by
    have hall := Webhook.no_errors h
    simp only [List.append_eq_nil_iff] at hall
    exact hall.1.1.1
  rw [Webhook.addressErrors, List.append_eq_nil_iff, List.flatMap_eq_nil_iff] at hnone
  intro addr haddr
  obtain ⟨i, hi, hget⟩ := List.getElem_of_mem haddr
  have hmem : (addr, i) ∈ lm.spec.network.addresses.zipIdx :=
    List.mem_zipIdx_iff_getElem?.mpr (by rw [List.getElem?_eq_getElem hi, hget])
  have herror := hnone.2 _ hmem
  cases hparse : cidr.parse addr with
  | ok family => exact ⟨family, rfl⟩
  | error err => simp [CidrParser.error, hparse] at herror

end Requested

-- The file reads back as the network of an accepted machine exactly where the addresses are
-- all of IPv4 and the other strings hold neither a line break nor, in the lists, a semicolon.
theorem nm_keyfile_decodes_iff (cidr : CidrParser) (listed : Option (Except GoError (List LibvirtMachine)))
    (lm : LibvirtMachine) (haccepted : Webhook.validateCreate cidr.error listed lm = .ok ()) :
    decode listKeys (generateNMConnection (withDefaultDNS (networkConfig lm.spec.network))) =
        some (requested cidr (networkConfig lm.spec.network)) ↔
      Writable cidr (networkConfig lm.spec.network) := by
  have hparses := parses_of_accepted haccepted
  constructor
  · intro hdecoded
    have hlines : OneLiners (withDefaultDNS (networkConfig lm.spec.network)) := by
      refine oneLiners_of_decoded (fun addr haddr => ?_) hdecoded
      obtain ⟨family, hfamily⟩ := hparses addr haddr
      exact cidr.oneLine addr family hfamily
    rw [decode_generate hlines] at hdecoded
    have hipv4 := ipv4_of_written_eq (Option.some.inj hdecoded)
    refine ⟨fun addr haddr => ?_, ?_, hlines.dnsServers, ?_⟩
    · obtain ⟨family, hfamily⟩ := hparses addr haddr
      cases family with
      | ipv4 => exact hfamily
      | ipv6 => exact absurd hfamily (hipv4 addr haddr)
    · rw [← withDefaultDNS_gateway]
      exact hlines.gateway
    · rw [← withDefaultDNS_dnsSearch]
      exact hlines.dnsSearch
  · intro hwritable
    rw [← written_eq_requested hwritable.addresses]
    refine decode_generate ⟨?_, ?_, hwritable.dnsServers, ?_⟩
    · rw [withDefaultDNS_addresses]
      exact fun addr haddr => cidr.oneLine addr _ (hwritable.addresses addr haddr)
    · rw [withDefaultDNS_gateway]
      exact hwritable.gateway
    · rw [withDefaultDNS_dnsSearch]
      exact hwritable.dnsSearch

def sampleCidr : CidrParser where
  parse := fun text =>
    if text = "10.0.0.1/24" then .ok .ipv4
    else if text = "fd00::1/64" then .ok .ipv6
    else .error (.text ("invalid CIDR address: " ++ text))
  oneLine := by
    intro text family h
    split at h
    · rename_i htext
      rw [htext]
      decide
    · split at h
      · rename_i htext
        rw [htext]
        decide
      · cases h

def machineWithNetwork (addresses : List String) (gateway : String) : LibvirtMachine :=
  { sampleMachine with
    spec := { sampleMachine.spec with
      network := ⟨.bridge, "br0", "virtio", addresses, gateway, none, ""⟩ } }

theorem nm_keyfile_decodes_sample :
    Webhook.validateCreate sampleCidr.error none (machineWithNetwork ["10.0.0.1/24"] "10.0.0.254") = .ok () ∧
      (decode listKeys (generateNMConnection (withDefaultDNS
          (networkConfig (machineWithNetwork ["10.0.0.1/24"] "10.0.0.254").spec.network))) =
        some (requested sampleCidr (networkConfig (machineWithNetwork ["10.0.0.1/24"] "10.0.0.254").spec.network)) ↔
      Writable sampleCidr (networkConfig (machineWithNetwork ["10.0.0.1/24"] "10.0.0.254").spec.network)) :=
  ⟨by decide +kernel, nm_keyfile_decodes_iff _ none _ (by decide +kernel)⟩

-- Two machines the webhook accepts: an address of IPv6, and a gateway with a line break in it.
def Misread (lm : LibvirtMachine) : Prop :=
  Webhook.validateCreate sampleCidr.error none lm = .ok () ∧
    decode listKeys (generateNMConnection (withDefaultDNS (networkConfig lm.spec.network))) ≠
      some (requested sampleCidr (networkConfig lm.spec.network))

theorem nm_keyfile_misread : Misread (machineWithNetwork ["fd00::1/64"] "") ∧
    Misread (machineWithNetwork ["10.0.0.1/24"] "10.0.0.254\nnever-default=true") := by
  refine ⟨⟨by decide +kernel, fun hdecoded => ?_⟩, ⟨by decide +kernel, fun hdecoded => ?_⟩⟩
  · have hlines : OneLiners (withDefaultDNS (networkConfig (machineWithNetwork ["fd00::1/64"] "").spec.network)) :=
      ⟨by decide, by decide, by decide, by decide⟩
    rw [decode_generate hlines] at hdecoded
    exact ipv4_of_written_eq (Option.some.inj hdecoded) "fd00::1/64" (by decide) rfl
  · have hlines := oneLiners_of_decoded (by decide) hdecoded
    exact hlines.gateway (by decide)

end Caplv.Ignition
