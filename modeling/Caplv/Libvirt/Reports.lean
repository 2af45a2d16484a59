import Caplv.Libvirt.Virsh

namespace Caplv.Libvirt

open Text Program

inductive Query where
  | dominfo (name : String)
  | volInfo (name pool : String)
deriving DecidableEq, Repr

def Query.args : Query → List String
  | .dominfo name => ["dominfo", name]
  | .volInfo name pool => ["vol-info", name, "--pool", pool]

abbrev queries : Signature := ⟨Query, fun _ => Except Failure String⟩

def runQuery (query : Query) : Prog queries (Except GoError Bool) := do
  let reply ← @Prog.perform queries query
  .done (existsOrError (reply.mapError (virshFailure query.args)))

namespace VirshClient

def domainExists (name : String) : Prog queries (Except GoError Bool) := runQuery (.dominfo name)

def volumeExists (pool name : String) : Prog queries (Except GoError Bool) := runQuery (.volInfo name pool)

end VirshClient

-- What there is on a host, as far as the reports are about it. A domain may run without a
-- definition.
structure Present where
  defined : String → Bool
  running : String → Bool
  pools : String → Bool
  volumes : String → String → Bool

namespace Present

variable (host : Present)

def NoDomain (name : String) : Prop := host.defined name = false ∧ host.running name = false

-- A volume is gone with its pool.
def NoVolume (pool name : String) : Prop := host.pools pool = false ∨ host.volumes pool name = false

def Missing : Command → Prop
  | .destroy name | .undefine name => host.NoDomain name
  | .volDelete name pool => host.NoVolume pool name
  | _ => False

def Unknown : Query → Prop
  | .dominfo name => host.NoDomain name
  | .volInfo name pool => host.NoVolume pool name

def effect : Command → Present
  | .destroy name => { host with running := Function.update host.running name false }
  | .undefine name => { host with defined := Function.update host.defined name false }
  | .volDelete name pool =>
    { host with volumes := Function.update host.volumes pool (Function.update (host.volumes pool) name false) }
  | _ => host

end Present

-- How a command may fail: without a session or with its context ended, with any message that
-- the named object does not exist if that is so, or with one of the other texts.
def FailsWith (others : String → Prop) (missing : Prop) : Failure → Prop
  | .exit stderr _ => missing ∨ others stderr
  | _ => True

def reportStep (others : String → Prop) : Handler shell Present := fun before cmd reply after =>
  match reply with
  | .ok _ => after = before.effect cmd
  | .error failure => after = before ∧ FailsWith others (before.Missing cmd) failure

def queryStep (others : String → Prop) : Handler queries Present := fun before query reply after =>
  after = before ∧ ∀ failure, reply = .error failure → FailsWith others (before.Unknown query) failure

def absencePhrases : List String :=
  ["not found", "no domain", "failed to get domain", "no storage vol", "storage volume not found"]

def SaysAbsent (stderr : String) : Prop :=
  ∃ phrase ∈ absencePhrases, contains (toLower (trimSpace stderr)) phrase = true

-- Success means that the object is gone, and an answer of false that it is not there.
structure ReportsTruly (others : String → Prop) : Prop where
  destroyDomain : ∀ host name, Holds (reportStep others) (fun _ _ => True)
    (fun result after => result = .ok () → after.running name = false) (VirshClient.destroyDomain name) host
  undefineDomain : ∀ host name, Holds (reportStep others) (fun _ _ => True)
    (fun result after => result = .ok () → after.defined name = false) (VirshClient.undefineDomain name) host
  deleteVolume : ∀ host pool name, Holds (reportStep others) (fun _ _ => True)
    (fun result after => result = .ok () → after.NoVolume pool name) (VirshClient.deleteVolume pool name) host
  domainExists : ∀ host name, Holds (queryStep others) (fun _ _ => True)
    (fun result after => result = .ok false → after.NoDomain name) (VirshClient.domainExists name) host
  volumeExists : ∀ host pool name, Holds (queryStep others) (fun _ _ => True)
    (fun result after => result = .ok false → after.NoVolume pool name) (VirshClient.volumeExists pool name) host

section Reports

variable {others : String → Prop}

theorem virshCategory_notFound_iff (stderr : String) :
    virshCategory (trimSpace stderr) = .notFound ↔ SaysAbsent stderr := by
  rw [virshCategory, SaysAbsent]
  generalize toLower (trimSpace stderr) = lower
  simp only [absencePhrases, List.mem_cons, List.not_mem_nil, or_false, exists_eq_or_imp, exists_eq_left]
  split
  · rename_i hfound
    simpa [or_assoc] using hfound
  · rename_i hnone
    have hnone' : ¬ (contains lower "not found" = true ∨ contains lower "no domain" = true ∨
        contains lower "failed to get domain" = true ∨ contains lower "no storage vol" = true ∨
        contains lower "storage volume not found" = true) := by
      simpa [or_assoc] using hnone
    refine iff_of_false ?_ hnone'
    split
    · simp
    · split <;> simp

theorem claimsAbsent_exit_iff (stderr message : String) :
    (Failure.exit stderr message).claimsAbsent = true ↔ SaysAbsent stderr := by
  rw [Failure.claimsAbsent, beq_iff_eq]
  exact virshCategory_notFound_iff stderr

theorem missing_of_claimsAbsent (hothers : ∀ stderr, others stderr → ¬ SaysAbsent stderr) {missing : Prop}
    {failure : Failure} (hfails : FailsWith others missing failure) (hclaims : failure.claimsAbsent = true) :
    missing := by
  cases failure with
  | session message => cases hclaims
  | cancelled message => cases hclaims
  | exit stderr message =>
    rcases hfails with hmissing | hother
    · exact hmissing
    · exact absurd ((claimsAbsent_exit_iff stderr message).mp hclaims) (hothers stderr hother)

theorem runDeletion_reports (hothers : ∀ stderr, others stderr → ¬ SaysAbsent stderr) {cmd : Command}
    {gone : Present → Prop} (heffect : ∀ host : Present, gone (host.effect cmd))
    (hmissing : ∀ host : Present, host.Missing cmd → gone host) (host : Present) :
    Holds (reportStep others) (fun _ _ => True) (fun result after => result = .ok () → gone after)
      (runDeletion cmd) host := by
  refine ⟨trivial, fun reply after hstep => ?_⟩
  cases reply with
  | ok stdout =>
    obtain rfl : after = host.effect cmd := hstep
    exact fun _ => heffect host
  | error failure =>
    obtain ⟨rfl, hfails⟩ := hstep
    change (if (virshFailure cmd.args failure).isNotFound then .ok () else _) = Except.ok () → gone after
    rw [virshFailure_isNotFound]
    by_cases hclaims : failure.claimsAbsent = true
    · exact fun _ => hmissing after (missing_of_claimsAbsent hothers hfails hclaims)
    · rw [if_neg hclaims]
      nofun

theorem runQuery_reports (hothers : ∀ stderr, others stderr → ¬ SaysAbsent stderr) (query : Query) (host : Present) :
    Holds (queryStep others) (fun _ _ => True) (fun result after => result = .ok false → after.Unknown query)
      (runQuery query) host := by
  refine ⟨trivial, ?_⟩
  rintro reply after ⟨rfl, hfails⟩
  cases reply with
  | ok stdout => nofun
  | error failure =>
    change (if (virshFailure query.args failure).isNotFound then .ok false else _) = Except.ok false → _
    rw [virshFailure_isNotFound]
    by_cases hclaims : failure.claimsAbsent = true
    · exact fun _ => missing_of_claimsAbsent hothers (hfails failure rfl) hclaims
    · rw [if_neg hclaims]
      nofun

end Reports

def someHost : Present := ⟨fun _ => true, fun _ => true, fun _ => true, fun _ _ => true⟩

-- For any texts that virsh, its drivers and the remote shell may print for other reasons: the
-- reports are true on every host exactly if none of them contains one of the phrases.
theorem deletion_reports_truly_iff (others : String → Prop) :
    ReportsTruly others ↔ ∀ stderr, others stderr → ¬ SaysAbsent stderr := by
  constructor
  · intro htruly stderr hother habsent
    have hrun := htruly.destroyDomain someHost "d"
    have hreport := hrun.2 (.error (.exit stderr "")) _ ⟨rfl, .inr hother⟩
    change (if (virshFailure _ _).isNotFound then .ok () else _) = Except.ok () → true = false at hreport
    rw [virshFailure_isNotFound, if_pos ((claimsAbsent_exit_iff stderr "").mpr habsent)] at hreport
    exact absurd (hreport rfl) (by decide)
  · intro hothers
    refine ⟨fun host name => ?_, fun host name => ?_, fun host pool name => ?_, fun host name => ?_,
      fun host pool name => ?_⟩
    · refine runDeletion_reports hothers (fun host => ?_) (fun host hmissing => ?_) host
      · exact Function.update_self ..
      · exact hmissing.2
    · refine runDeletion_reports hothers (fun host => ?_) (fun host hmissing => ?_) host
      · exact Function.update_self ..
      · exact hmissing.1
    · refine runDeletion_reports hothers (fun host => .inr ?_) (fun host hmissing => hmissing) host
      simp [Present.effect]
    · exact runQuery_reports hothers (.dominfo name) host
    · exact runQuery_reports hothers (.volInfo name pool) host

def missingBinary : String := "bash: line 1: virsh: command not found"

-- Where virsh is not installed, everything is deleted and nothing exists.
def shellWithoutVirsh : Machine shell Present := fun host _ => (.error (.exit missingBinary ""), host)

def queriesWithoutVirsh : Machine queries Present := fun host _ => (.error (.exit missingBinary ""), host)

theorem missing_virsh_deletes :
    (run shellWithoutVirsh (VirshClient.destroyDomain "d") someHost = (.ok (), someHost) ∧
      someHost.running "d" = true) ∧
    (run shellWithoutVirsh (VirshClient.undefineDomain "d") someHost = (.ok (), someHost) ∧
      someHost.defined "d" = true) ∧
    (run shellWithoutVirsh (VirshClient.deleteVolume "p" "v") someHost = (.ok (), someHost) ∧
      ¬ someHost.NoVolume "p" "v") ∧
    (run queriesWithoutVirsh (VirshClient.domainExists "d") someHost = (.ok false, someHost) ∧
      ¬ someHost.NoDomain "d") ∧
    run queriesWithoutVirsh (VirshClient.volumeExists "p" "v") someHost = (.ok false, someHost) := by
  have habsent : virshCategory (trimSpace missingBinary) = .notFound := by decide
  have hclaims : (Failure.exit missingBinary "").claimsAbsent = true := beq_iff_eq.mpr habsent
  have hdeletion (cmd : Command) : run shellWithoutVirsh (runDeletion cmd) someHost = (.ok (), someHost) := by
    change (if (virshFailure cmd.args (.exit missingBinary "")).isNotFound then _ else _, someHost) = _
    rw [virshFailure_isNotFound, if_pos hclaims]
  have hquery (query : Query) : run queriesWithoutVirsh (runQuery query) someHost = (.ok false, someHost) := by
    change (if (virshFailure query.args (.exit missingBinary "")).isNotFound then .ok false
      else .error (virshFailure query.args (.exit missingBinary "")), someHost) = (Except.ok false, someHost)
    rw [virshFailure_isNotFound, if_pos hclaims]
  refine ⟨⟨hdeletion _, rfl⟩, ⟨hdeletion _, rfl⟩, ⟨hdeletion _, ?_⟩, ⟨hquery _, ?_⟩, hquery _⟩
  · rintro (hpool | hvolume) <;> contradiction
  · rintro ⟨hdefined, -⟩
    contradiction

end Caplv.Libvirt
