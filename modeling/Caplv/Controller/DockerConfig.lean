import Caplv.Controller.Credentials
import Caplv.Runes

namespace Caplv.Controller

open Text Api Libvirt GoString

structure AuthEntry where
  username : Bytes
  password : Bytes
  auth : String
deriving DecidableEq, Repr

-- The part of a dockerconfigjson blob that is read. The keys of a map are distinct.
structure DockerConfig where
  auths : List (String × AuthEntry)
  nodup : (auths.map Prod.fst).Nodup

-- An order in which a loop ranges over the entries of a map.
structure MapRange where
  order : DockerConfig → List (String × AuthEntry)
  perm : ∀ cfg, (order cfg).Perm cfg.auths

-- base64.StdEncoding.DecodeString and json.Unmarshal.
variable (decodeString : String → Except GoError Bytes) (unmarshal : Bytes → Except GoError DockerConfig)

-- 0x3a is the colon.
def decodeDockerAuth (entry : AuthEntry) : Except GoError (Bytes × Bytes) :=
  if entry.username ≠ [] ∨ entry.password ≠ [] then .ok (entry.username, entry.password)
  else if entry.auth = "" then .error (.text "empty auth entry")
  else
    match decodeString entry.auth with
    | .error err => .error (.wrap "decode auth" err)
    | .ok decoded =>
      match splitN2 decoded 0x3a with
      | [user, pass] => .ok (user, pass)
      | _ => .error (.text "malformed auth entry")

def registryHostFromReference (ref : String) : String := beforeIndex ref '/'

def hostMatches (host : String) (item : String × AuthEntry) : Bool := contains item.1 host || contains host item.1

-- An exact entry for the host, then the first one whose name contains the host or is contained in
-- it, then the first one.
def pickAuth (host : String) (cfg : DockerConfig) (first second : MapRange) : Option AuthEntry :=
  match cfg.auths.lookup host with
  | some entry => some entry
  | none =>
    match (first.order cfg).find? (hostMatches host) with
    | some item => some item.2
    | none => (second.order cfg).head?.map Prod.snd

def lookupDockerConfigAuth (raw : Bytes) (reference : String) (first second : MapRange) :
    Except GoError (Bytes × Bytes) := do
  let cfg ← unmarshal raw
  match pickAuth (registryHostFromReference reference) cfg first second with
  | some entry => decodeDockerAuth decodeString entry
  | none => .error (.text "no auth entries in dockerconfigjson")

def candidates (host : String) (cfg : DockerConfig) : List (String × AuthEntry) :=
  if cfg.auths.filter (hostMatches host) = [] then cfg.auths else cfg.auths.filter (hostMatches host)

def MapRange.startingAt (item : String × AuthEntry) : MapRange where
  order cfg := if item ∈ cfg.auths then item :: cfg.auths.erase item else cfg.auths
  perm cfg := by
    split
    · rename_i hmem
      exact (List.perm_cons_erase hmem).symm
    · exact List.Perm.refl _

section Order

variable {decodeString unmarshal} {host : String} {cfg : DockerConfig} {item : String × AuthEntry}

theorem pickAuth_eq_exact {entry : AuthEntry} (h : cfg.auths.lookup host = some entry) (first second : MapRange) :
    pickAuth host cfg first second = some entry := by
  rw [pickAuth, h]

theorem order_startingAt (hmem : item ∈ cfg.auths) :
    (MapRange.startingAt item).order cfg = item :: cfg.auths.erase item := if_pos hmem

theorem pickAuth_startingAt (hexact : cfg.auths.lookup host = none) (hitem : item ∈ candidates host cfg) :
    pickAuth host cfg (.startingAt item) (.startingAt item) = some item.2 := by
  rw [candidates] at hitem
  rw [pickAuth, hexact]
  split at hitem
  · rename_i hnone
    have hhits : ((MapRange.startingAt item).order cfg).find? (hostMatches host) = none := by
      rw [List.find?_eq_none]
      intro other hother
      exact List.filter_eq_nil_iff.mp hnone other (((MapRange.startingAt item).perm cfg).mem_iff.mp hother)
    simp only [hhits]
    rw [order_startingAt hitem]
    rfl
  · obtain ⟨hmem, hhit⟩ := List.mem_filter.mp hitem
    rw [order_startingAt hmem, List.find?_cons_of_pos hhit]

theorem pickAuth_candidate (hexact : cfg.auths.lookup host = none) (first second : MapRange) :
    pickAuth host cfg first second = none ∧ cfg.auths = [] ∨
      ∃ item ∈ candidates host cfg, pickAuth host cfg first second = some item.2 := by
  rw [pickAuth, hexact, candidates]
  cases hfound : (first.order cfg).find? (hostMatches host) with
  | some item =>
    have hmem := (first.perm cfg).mem_iff.mp (List.mem_of_find?_eq_some hfound)
    have hhit : item ∈ cfg.auths.filter (hostMatches host) :=
      List.mem_filter.mpr ⟨hmem, List.find?_some hfound⟩
    refine .inr ⟨item, ?_, rfl⟩
    rw [if_neg (List.ne_nil_of_mem hhit)]
    exact hhit
  | none =>
    have hnone : cfg.auths.filter (hostMatches host) = [] := by
      rw [List.filter_eq_nil_iff]
      exact fun item hitem => List.find?_eq_none.mp hfound item ((first.perm cfg).mem_iff.mpr hitem)
    rw [if_pos hnone]
    cases horder : second.order cfg with
    | nil =>
      refine .inl ⟨rfl, ?_⟩
      have hperm := second.perm cfg
      rw [horder] at hperm
      exact hperm.nil_eq.symm
    | cons item rest =>
      refine .inr ⟨item, (second.perm cfg).mem_iff.mp ?_, rfl⟩
      rw [horder]
      exact List.mem_cons_self

end Order

-- For every blob and reference: the credentials are the same under every order exactly if the host
-- has an entry of its own or the candidates hold the same ones.
theorem credentials_order_independent_iff (raw : Bytes) (reference : String) :
    (∀ first second first' second' : MapRange,
        lookupDockerConfigAuth decodeString unmarshal raw reference first second =
          lookupDockerConfigAuth decodeString unmarshal raw reference first' second') ↔
      ∀ cfg, unmarshal raw = .ok cfg → cfg.auths.lookup (registryHostFromReference reference) = none →
        ∀ item ∈ candidates (registryHostFromReference reference) cfg,
          ∀ other ∈ candidates (registryHostFromReference reference) cfg,
            decodeDockerAuth decodeString item.2 = decodeDockerAuth decodeString other.2 := by
  constructor
  · intro hsame cfg hcfg hexact item hitem other hother
    have hlookup := hsame (.startingAt item) (.startingAt item) (.startingAt other) (.startingAt other)
    simp only [lookupDockerConfigAuth, hcfg, bind, Except.bind, pickAuth_startingAt hexact hitem,
      pickAuth_startingAt hexact hother] at hlookup
    exact hlookup
  · intro hagree first second first' second'
    rw [lookupDockerConfigAuth, lookupDockerConfigAuth]
    cases hcfg : unmarshal raw with
    | error err => rfl
    | ok cfg =>
      change (match pickAuth _ cfg first second with | some entry => _ | none => _) =
        (match pickAuth _ cfg first' second' with | some entry => _ | none => _)
      cases hexact : cfg.auths.lookup (registryHostFromReference reference) with
      | some entry => rw [pickAuth_eq_exact hexact, pickAuth_eq_exact hexact]
      | none =>
        have hnone (first second : MapRange) (hempty : cfg.auths = []) :
            pickAuth (registryHostFromReference reference) cfg first second = none := by
          rcases pickAuth_candidate hexact first second with ⟨hpick, -⟩ | ⟨item, hitem, -⟩
          · exact hpick
          · simp [candidates, hempty] at hitem
        rcases pickAuth_candidate hexact first second with ⟨hpick, hempty⟩ | ⟨item, hitem, hpick⟩
        · rw [hpick, hnone first' second' hempty]
        · rcases pickAuth_candidate hexact first' second' with ⟨-, hempty⟩ | ⟨other, hother, hpick'⟩
          · rw [hnone first second hempty] at hpick
            cases hpick
          · rw [hpick, hpick']
            exact hagree cfg hcfg hexact item hitem other hother

def quayEntry (version : Char) : String × AuthEntry :=
  (String.ofList ("https://quay.io/v".toList ++ [version]), ⟨[version.toNat.toUInt8], [0x70], ""⟩)

def quayConfig : DockerConfig := ⟨[quayEntry '1', quayEntry '2'], by decide⟩

theorem quay_credentials_depend_on_order :
    lookupDockerConfigAuth (fun _ => .ok []) (fun _ => .ok quayConfig) [] "quay.io/team/image:1"
        (.startingAt (quayEntry '1')) (.startingAt (quayEntry '1')) = .ok ([0x31], [0x70]) ∧
    lookupDockerConfigAuth (fun _ => .ok []) (fun _ => .ok quayConfig) [] "quay.io/team/image:1"
        (.startingAt (quayEntry '2')) (.startingAt (quayEntry '2')) = .ok ([0x32], [0x70]) := by
  decide +kernel

end Caplv.Controller
