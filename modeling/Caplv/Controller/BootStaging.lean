import Caplv.Controller.ArtifactCache
import Caplv.Controller.Handling
import Caplv.Libvirt.RemoteFiles

namespace Caplv.Controller

open Text Api Libvirt Scope Program BootArtifacts

variable {ι : Type}

-- WriteRemoteFile is not one operation of the host but the commands it runs.
def writeCommands : Implementation signature fileCommands
  | .client _ (.writeRemoteFile path data) => some (VirshClient.writeRemoteFile path data)
  | _ => none

structure BootHost (ι : Type) where
  remote : RemoteFiles ι
  store : ArtifactStore

def FileSeen (remote : RemoteFiles ι) : (op : Op) → Reply op → Prop
  | .client _ (.remoteFileExists path), reply =>
    ∀ found, reply = .ok found → found = (remote.files path).isSome
  | _, _ => True

def bootStep (sha : Sha256) (before : BootHost ι) (op : Op) (reply : Reply op) (after : BootHost ι) : Prop :=
  after.remote = before.remote ∧ artifactStep sha before.store op reply after.store ∧
    FileSeen before.remote op reply

-- The controller crashes and loses its cache, or some more of the data of a write that is
-- under way arrives.
inductive BootEnv : BootHost ι → BootHost ι → Prop where
  | restart (w : BootHost ι) : BootEnv w { w with store := { w.store with cached := fun _ => none } }
  | arrives {w : BootHost ι} {path : String} {i : ι} {data : Bytes}
      (h : w.remote.writing path = some (i, data)) (n : Nat) :
      BootEnv w { w with remote := w.remote.arrived path data n }

def bootSystem (sha : Sha256) (spec : ι → BootArtifactsSpec) (checks : RemoteFiles ι → Op → Prop)
    (opens : RemoteFiles ι → FileCommand → Prop) :
    System (signature.sum fileCommands) (BootHost ι) ι (Option GoError × RunState) where
  handler i := Handler.sum
    (fun before op reply after => bootStep sha before op reply after ∧ checks before.remote op)
    (fun before cmd reply after => after.store = before.store ∧
      FileStep i before.remote cmd reply after.remote ∧ opens before.remote cmd)
  env := BootEnv
  start i prog := ∃ deps rc st, deps.pathJoin = Path.join ∧
    rc.libvirtCluster.bootArtifacts = some (spec i) ∧ st.kernelPath = "" ∧ st.initrdPath = "" ∧
    prog = (reconcileBootArtifacts deps rc st).expand writeCommands

-- No check is made of a path to which a write has begun and has not ended with success.
def ChecksFinished (w : RemoteFiles ι) : Op → Prop
  | .client _ (.remoteFileExists path) => w.writing path = none
  | _ => True

-- A kernel or initramfs in a directory with the name of a digest has that digest.
def Placed (sha : Sha256) (path : String) (content : Bytes) : Prop :=
  ∀ dir digest name, DigestName digest → name ∈ ["vmlinuz", "initramfs.img"] →
    path = Path.join [dir, digest, name] → sha.hex content = digest

-- At the start no write is under way, each file is in the place of its digest, and nothing is
-- cached.
structure BootStart (sha : Sha256) (w : BootHost ι) : Prop where
  files : ∀ path content, w.remote.files path = some content → Placed sha path content
  writing : ∀ path, w.remote.writing path = none
  store : NothingCached w.store

section Summary

variable {sha : Sha256} {α : Type} {ba : BootArtifactsSpec} {fact : BootHost ι → Prop}

def FromResolver (sha : Sha256) (w : BootHost ι) (files : BootFiles) : Prop :=
  Addressed sha files ∧ ∃ call, (call, files) ∈ w.store.resolved

structure BootInv (sha : Sha256) (w : BootHost ι) : Prop where
  remote : w.remote.Sound (Placed sha)
  cached : ∀ key files, w.store.cached key = some files → FromResolver sha w files
  resolved : ∀ entry ∈ w.store.resolved, Addressed sha entry.2

structure BootSince (sha : Sha256) (before after : BootHost ι) : Prop where
  inv : BootInv sha after
  kept : RemoteFiles.Kept (Placed sha) before.remote after.remote
  resolved : ∀ entry ∈ before.store.resolved, entry ∈ after.store.resolved

theorem BootSince.refl {w : BootHost ι} (h : BootInv sha w) : BootSince sha w w :=
  ⟨h, RemoteFiles.Kept.refl h.remote, fun _ hmem => hmem⟩

theorem BootSince.trans {a b c : BootHost ι} (hab : BootSince sha a b) (hbc : BootSince sha b c) :
    BootSince sha a c :=
  ⟨hbc.inv, hab.kept.trans hbc.kept, fun entry h => hbc.resolved entry (hab.resolved entry h)⟩

theorem FromResolver.since {before after : BootHost ι} {files : BootFiles} (h : FromResolver sha before files)
    (hsince : BootSince sha before after) : FromResolver sha after files := by
  obtain ⟨haddressed, call, hmem⟩ := h
  exact ⟨haddressed, call, hsince.resolved _ hmem⟩

def Present (sha : Sha256) (w : BootHost ι) (path digest : String) : Prop :=
  w.remote.Finished path ∧ ∃ content, w.remote.files path = some content ∧ sha.hex content = digest

theorem Present.since {before after : BootHost ι} {path digest : String} (h : Present sha before path digest)
    (hsince : BootSince sha before after) : Present sha after path digest := by
  obtain ⟨hfinished, content, hcontent, hdigest⟩ := h
  obtain ⟨hfinished', hsame⟩ := hsince.kept.finished path hfinished
  exact ⟨hfinished', content, hsame.trans hcontent, hdigest⟩

theorem placed_join (dir name : String) {content : Bytes} (hname : Path.IsName name) :
    Placed sha (Path.join [dir, sha.hex content, name]) content := by
  intro dir' digest name' hdigest hname' heq
  have hisName' : Path.IsName name' := by
    rcases List.mem_cons.mp hname' with rfl | hlast
    · exact isName_vmlinuz
    · exact List.mem_singleton.mp hlast ▸ isName_initramfs
  exact (Path.names_of_join_eq (sha.isName_hex content) hname hdigest.isName hisName' heq).1

def BootLearned (sha : Sha256) (after : BootHost ι) : (op : Op) → Reply op → Prop
  | .client _ (.remoteFileExists path), reply => reply = .ok true → after.remote.Finished path
  | .client _ (.writeRemoteFile path data), reply => reply = .ok () → Present sha after path (sha.hex data)
  | .loadArtifacts _, reply => ∀ files, reply = some files → FromResolver sha after files
  | .resolveArtifacts _ _, reply => ∀ files, reply = .ok files → FromResolver sha after files
  | _, _ => True

def bootSummary (sha : Sha256) : Handler signature (BootHost ι) := fun before op reply after =>
  BootSince sha before after ∧ BootLearned sha after op reply

-- What the run writes to the host belongs to its path, and what it caches was resolved.
def BootAllowed (sha : Sha256) (w : BootHost ι) : Op → Prop
  | .client _ (.writeRemoteFile path data) => Placed sha path data
  | .storeArtifacts _ files => FromResolver sha w files
  | _ => True

def bootGuard (sha : Sha256) (w : BootHost ι) (op : Op) : Prop := BootInv sha w ∧ BootAllowed sha w op

def Blank (st : RunState) : Prop := st.kernelPath = "" ∧ st.initrdPath = ""

def BootedWith (sha : Sha256) (ba : BootArtifactsSpec) (st : RunState) (w : BootHost ι) : Prop :=
  ∃ files, FromResolver sha w files ∧
    st.kernelPath = Path.join [trimRight ba.hostPath '/', files.kernelSHA256, "vmlinuz"] ∧
    st.initrdPath = Path.join [trimRight ba.hostPath '/', files.initramfsSHA256, "initramfs.img"] ∧
    Present sha w st.kernelPath files.kernelSHA256 ∧ Present sha w st.initrdPath files.initramfsSHA256

def Booted (sha : Sha256) (ba : BootArtifactsSpec) (err : Option GoError) (st : RunState)
    (w : BootHost ι) : Prop :=
  BootInv sha w ∧ (err = none → st.kernelPath ≠ "" → BootedWith sha ba st w)

abbrev Boots (sha : Sha256) (ba : BootArtifactsSpec) (pre : BootHost ι → Prop) (body : StepBody α)
    (post : α → BootHost ι → Prop) : Prop :=
  Body.Triple (bootSummary sha) (bootGuard sha) (fun st w => Blank st ∧ BootInv sha w ∧ pre w) body
    (fun value st w => Blank st ∧ BootInv sha w ∧ post value w) (Booted sha ba)

theorem boot_handling : Handling (bootSummary sha) (bootGuard sha)
    (fun st (w : BootHost ι) => Blank st ∧ BootInv sha w) (Booted sha ba) where
  guard _ _ _ _ h := ⟨h.2, trivial⟩
  recorded _ _ _ _ _ h hs := ⟨hs.1.inv, fun _ hne => absurd h.1.1 hne⟩
  failed _ _ _ h := ⟨h.2, nofun⟩

def Lasting (sha : Sha256) (fact : BootHost ι → Prop) : Prop :=
  ∀ before after, fact before → BootSince sha before after → fact after

theorem callOrHandle_boots (hfact : Lasting sha fact) (rc : ReconcileCtx) (call : ClientCall)
    (operation : String) (hcall : ∀ w, fact w → BootAllowed sha w (.client rc.hostKey call)) :
    Boots sha ba fact (callOrHandle rc call operation)
      fun value w => fact w ∧ BootLearned sha w (.client rc.hostKey call) (.ok value) :=
  boot_handling.callOrHandle rc call operation (fun _ w h => ⟨h.2.1, hcall w h.2.2⟩)
    (fun _ before _ after h hs =>
      ⟨h.1, hs.1.inv, hfact before after h.2.2 hs.1, hs.2⟩)
    fun _ _ _ _ h hs => ⟨h.1, hs.1.inv⟩

theorem ensureRemoteArtifact_boots (hfact : Lasting sha fact)
    (rc : ReconcileCtx) (dir : String) {name : String} (hname : name ∈ ["vmlinuz", "initramfs.img"])
    (hisName : Path.IsName name) (data : Bytes) (operation : String) :
    Boots sha ba fact (ensureRemoteArtifact rc (Path.join [dir, sha.hex data, name]) data operation)
      fun _ w => fact w ∧ Present sha w (Path.join [dir, sha.hex data, name]) (sha.hex data) := by
  refine (callOrHandle_boots hfact rc (.remoteFileExists _) operation fun _ _ => trivial).bind
    fun found => ?_
  refine Body.Triple.ite (fun htrue => ?_) fun _ => ?_
  · refine Body.Triple.pure fun st w h => ?_
    obtain ⟨hblank, hinv, hw, hlearned⟩ := h
    have hfinished : w.remote.Finished (Path.join [dir, sha.hex data, name]) := hlearned (congrArg _ htrue)
    obtain ⟨content, hcontent⟩ := Option.ne_none_iff_exists'.mp hfinished.2
    have hplaced := hinv.remote.finished _ content hfinished.1 hcontent
    have hdigest := hplaced dir (sha.hex data) name (sha.digestName_hex data) hname rfl
    exact ⟨hblank, hinv, hw, hfinished, content, hcontent, hdigest⟩
  · intro st w h
    obtain ⟨hblank, hinv, hw, -⟩ := h
    refine ((callOrHandle_boots hfact rc (.writeRemoteFile _ data) operation
      fun _ _ => placed_join dir name hisName).mono (fun _ _ _ h => ?_) fun _ _ _ h => h) st w
        ⟨hblank, hinv, hw⟩
    obtain ⟨hblank, hinv, hw, hlearned⟩ := h
    exact ⟨hblank, hinv, hw, hlearned rfl⟩

theorem lasting_fromResolver (files : BootFiles) : Lasting sha fun w : BootHost ι => FromResolver sha w files :=
  fun _ _ h hsince => h.since hsince

theorem lasting_present (hfact : Lasting sha fact) (path digest : String) :
    Lasting sha fun w : BootHost ι => fact w ∧ Present sha w path digest :=
  fun before after h hsince => ⟨hfact before after h.1 hsince, h.2.since hsince⟩

theorem lift_secrets_boots {prog : Prog signature α} (hprog : Emits anyReply SecretOp (fun _ => True) prog) :
    Boots sha ba (fun _ : BootHost ι => True) (Body.lift prog) fun _ _ => True := by
  rintro st w ⟨hblank, hinv, -⟩
  refine (hprog.holds hinv (fun before op hb hop => ⟨hb, ?_⟩) fun _ _ _ _ _ _ hs =>
    ⟨trivial, hs.1.inv⟩).bind fun value after h => ⟨hblank, h.2, trivial⟩
  cases op <;> first
    | exact hop.elim
    | trivial

theorem lift_resolve_boots (deps : Deps) (src : BootArtifactsSource) (creds : Option Credentials) :
    Boots sha ba (fun _ : BootHost ι => True) (Body.lift (resolveCachedArtifacts deps src creds))
      fun result w => ∀ files, result = .ok files → FromResolver sha w files := by
  rintro st w ⟨hblank, hinv, -⟩
  refine ⟨⟨hinv, trivial⟩, fun cached loaded hload => ?_⟩
  cases cached with
  | some cached =>
    refine ⟨hblank, hload.1.inv, fun files hfiles => ?_⟩
    obtain rfl : cached = files := Except.ok.inj hfiles
    exact hload.2 cached rfl
  | none =>
    refine ⟨⟨hload.1.inv, trivial⟩, fun result resolved hresolve => ?_⟩
    cases result with
    | error err => exact ⟨hblank, hresolve.1.inv, nofun⟩
    | ok files =>
      have hfrom := hresolve.2 files rfl
      refine ⟨⟨hresolve.1.inv, hfrom⟩, fun _ stored hstore => ?_⟩
      refine ⟨hblank, hstore.1.inv, fun files' hfiles => ?_⟩
      obtain rfl : files = files' := Except.ok.inj hfiles
      exact hfrom.since hstore.1

theorem stageBootArtifacts_boots {deps : Deps} (hjoin : deps.pathJoin = Path.join) (rc : ReconcileCtx) :
    Body.Triple (bootSummary sha) (bootGuard sha) (fun st (w : BootHost ι) => Blank st ∧ BootInv sha w ∧ True)
      (stageBootArtifacts deps rc ba) (fun _ => Booted sha ba none) (Booted sha ba) := by
  refine (lift_secrets_boots (resolveBootArtifactsCredentials_reads _ _)).bind fun creds => ?_
  refine (boot_handling.orReturn _ creds fun _ _ h => ⟨h.1, h.2.1⟩).bind fun creds => ?_
  intro st w hcreds
  refine (lift_resolve_boots deps ba.source creds).bind (fun result => ?_) st w hcreds.1
  refine (boot_handling.orReturn _ result fun _ _ h => ⟨h.1, h.2.1⟩).bind fun files => ?_
  intro st w hresult
  obtain ⟨⟨hblank, hinv, hlearned⟩, hok⟩ := hresult
  have hfrom := hlearned files hok
  have hkernel : kernelPath deps ba files =
      Path.join [trimRight ba.hostPath '/', sha.hex files.kernelBytes, "vmlinuz"] := by
    rw [kernelPath, hjoin, hfrom.1.kernel]
  have hinitrd : initrdPath deps ba files =
      Path.join [trimRight ba.hostPath '/', sha.hex files.initramfsBytes, "initramfs.img"] := by
    rw [initrdPath, hjoin, hfrom.1.initramfs]
  rw [hkernel, hinitrd]
  have hlasting : Lasting sha fun w : BootHost ι => FromResolver sha w files := lasting_fromResolver files
  refine (ensureRemoteArtifact_boots hlasting rc _ (List.mem_cons_self) isName_vmlinuz _ _).bind
    (fun _ => ?_) st w ⟨hblank, hinv, hfrom⟩
  refine (ensureRemoteArtifact_boots (lasting_present hlasting _ _) rc _ (List.mem_cons_of_mem _
    List.mem_cons_self) isName_initramfs _ _).bind fun _ => ?_
  refine Body.Triple.modify fun st w h => ?_
  obtain ⟨-, hinv, ⟨hfrom, hk⟩, hi⟩ := h
  refine ⟨hinv, fun _ _ => ⟨files, hfrom, ?_, ?_, ?_, ?_⟩⟩
  · rw [hfrom.1.kernel]
  · rw [hfrom.1.initramfs]
  · rw [hfrom.1.kernel]
    exact hk
  · rw [hfrom.1.initramfs]
    exact hi

theorem reconcileBootArtifacts_booted {deps : Deps} (hjoin : deps.pathJoin = Path.join) {rc : ReconcileCtx}
    (hspec : rc.libvirtCluster.bootArtifacts = some ba) {st : RunState} (hblank : Blank st) {w : BootHost ι}
    (hw : BootInv sha w) :
    Holds (bootSummary sha) (bootGuard sha) (fun out after => Booted sha ba out.1 out.2 after)
      (reconcileBootArtifacts deps rc st) w := by
  rw [reconcileBootArtifacts, hspec]
  cases hresolver : deps.bootArtifactsResolver with
  | true => exact stepFn_triple (stageBootArtifacts_boots hjoin rc) ⟨hblank, hw, trivial⟩
  | false => exact ⟨hw, fun h => by cases h⟩

end Summary

section Runs

variable {sha : Sha256} {spec : ι → BootArtifactsSpec} {i : ι} {before after : BootHost ι}

def bootRelies (sha : Sha256) (i : ι) (before after : BootHost ι) : Prop :=
  BootInv sha before → BootSince sha before after ∧ ∀ path data,
    before.remote.writing path = some (i, data) → after.remote.writing path = some (i, data)

theorem bootStep_since {op : Op} {reply : Reply op}
    (hbefore : BootInv sha before) (hstep : bootStep sha before op reply after)
    (hallowed : BootAllowed sha before op) : BootSince sha before after := by
  obtain ⟨remote, store⟩ := after
  obtain ⟨rfl, hstore, -⟩ := hstep
  have hkept := RemoteFiles.Kept.refl hbefore.remote
  have hsame (h : store = before.store) : BootSince sha before ⟨before.remote, store⟩ := by
    subst h
    exact BootSince.refl hbefore
  cases op with
  | loadArtifacts key => exact hsame hstore.1
  | storeArtifacts key files =>
    obtain rfl : store = _ := hstore
    refine ⟨⟨hbefore.remote, fun key' files' hcached => ?_, hbefore.resolved⟩, hkept, fun _ h => h⟩
    by_cases hkey : key' = key
    · subst hkey
      simp only [Function.update_self, Option.some.injEq] at hcached
      exact hcached ▸ hallowed
    · simp only [Function.update_of_ne hkey] at hcached
      exact hbefore.cached key' files' hcached
  | resolveArtifacts src creds =>
    obtain ⟨net, hreply, rfl⟩ := hstore
    refine ⟨⟨hbefore.remote, fun key files hcached => ?_, fun entry hmem => ?_⟩, hkept,
      fun _ h => List.mem_append_right _ h⟩
    · obtain ⟨haddressed, call, hmem⟩ := hbefore.cached key files hcached
      exact ⟨haddressed, call, List.mem_append_right _ hmem⟩
    · rcases List.mem_append.mp hmem with hnew | hold
      · cases hresult : reply with
        | error err => simp [hresult, Except.toOption] at hnew
        | ok files =>
          simp only [hresult, Except.toOption, Option.map_some, Option.toList_some,
            List.mem_singleton] at hnew
          subst hnew
          exact resolve_addressed (hreply.symm.trans hresult)
      · exact hbefore.resolved entry hold
  | _ => exact hsame hstore

theorem fileStep_since {cmd : FileCommand} {reply : Except Failure String} (hbefore : BootInv sha before)
    (hstore : after.store = before.store) (hstep : FileStep i before.remote cmd reply after.remote)
    (hnew : RemoteFiles.OpensNewFile before.remote cmd)
    (hguard : RemoteFiles.fileGuard (Placed sha) i before.remote cmd) : BootSince sha before after := by
  have hkept := RemoteFiles.fileStep_kept hbefore.remote hstep hnew hguard
  refine ⟨⟨hkept.sound, ?_, ?_⟩, hkept, ?_⟩
  · unfold FromResolver
    rw [hstore]
    exact hbefore.cached
  · rw [hstore]
    exact hbefore.resolved
  · rw [hstore]
    exact fun _ h => h

abbrev bootSeen (sha : Sha256) (spec : ι → BootArtifactsSpec) (i : ι) :
    Handler (signature.sum fileCommands) (BootHost ι) :=
  interfered (bootRelies sha i)
    ((bootSystem sha spec ChecksFinished RemoteFiles.OpensNewFile).handler i)

def bootSystemGuard (sha : Sha256) (i : ι) (w : BootHost ι) : (signature.sum fileCommands).Op → Prop
  | .inl op => BootAllowed sha w op
  | .inr cmd => RemoteFiles.fileGuard (Placed sha) i w.remote cmd

theorem controller_boots {op : Op} {reply : Reply op} (hop : writeCommands op = none)
    (hguard : bootGuard sha before op) (hstep : bootSeen sha spec i before (.inl op) reply after) :
    bootSummary sha before op reply after := by
  obtain ⟨middle, ⟨hown, hchecked⟩, hrely⟩ := hstep
  have hsince := bootStep_since hguard.1 hown hguard.2
  obtain ⟨hrest, -⟩ := hrely hsince.inv
  refine ⟨hsince.trans hrest, ?_⟩
  cases op with
  | client host call =>
    cases call with
    | remoteFileExists path =>
      intro hfound
      have hpresent : true = (before.remote.files path).isSome := hown.2.2 true hfound
      have hfinished : before.remote.Finished path :=
        ⟨hchecked, Option.isSome_iff_ne_none.mp hpresent.symm⟩
      exact ((hsince.trans hrest).kept.finished path hfinished).1
    | writeRemoteFile path data => cases hop
    | _ => trivial
  | loadArtifacts key =>
    intro files hfiles
    exact (hguard.1.cached key files (hown.2.1.2.symm.trans hfiles)).since (hsince.trans hrest)
  | resolveArtifacts src creds =>
    intro files hfiles
    obtain ⟨-, ⟨net, hreply, hstore⟩, -⟩ := hown
    have haddressed : Addressed sha files := resolve_addressed (hreply.symm.trans hfiles)
    have hmem : (⟨src, creds⟩, files) ∈ middle.store.resolved := by
      rw [hstore, hfiles]
      exact List.mem_append_left _ List.mem_cons_self
    exact FromResolver.since ⟨haddressed, _, hmem⟩ hrest
  | _ => trivial

theorem command_boots {cmd : FileCommand} {reply : Except Failure String}
    (hbefore : BootInv sha before) (hstep : bootSeen sha spec i before (.inr cmd) reply after)
    (hguard : RemoteFiles.fileGuard (Placed sha) i before.remote cmd) :
    BootSince sha before after ∧ ∃ middle : BootHost ι, FileStep i before.remote cmd reply middle.remote ∧
      BootSince sha middle after ∧ ∀ path data,
        middle.remote.writing path = some (i, data) → after.remote.writing path = some (i, data) := by
  obtain ⟨middle, ⟨hstore, hcmd, hnew⟩, hrely⟩ := hstep
  have hsince := fileStep_since hbefore hstore hcmd hnew hguard
  obtain ⟨hrest, hown⟩ := hrely hsince.inv
  exact ⟨hsince.trans hrest, middle, hcmd, hrest, hown⟩

theorem writeRemoteFile_boots {path : String} {data : Bytes} {start : BootHost ι}
    (hstart : BootInv sha start) (hplaced : Placed sha path data) :
    Holds (fun before cmd reply after => bootSeen sha spec i before (.inr cmd) reply after)
      (fun w cmd => bootSystemGuard sha i w (.inr cmd))
      (fun result after => BootSince sha start after ∧
        (result = .ok () → Present sha after path (sha.hex data)))
      (VirshClient.writeRemoteFile path data) start := by
  refine ⟨trivial, fun reply made hstep => ?_⟩
  obtain ⟨hmade, -⟩ := command_boots hstart hstep trivial
  cases reply with
  | error failure => exact ⟨hmade, nofun⟩
  | ok out =>
    refine ⟨hplaced, fun reply opened hstep => ?_⟩
    obtain ⟨hopened, middle, hcmd, -, hown⟩ := command_boots hmade.inv hstep hplaced
    cases reply with
    | error failure => exact ⟨hmade.trans hopened, nofun⟩
    | ok out =>
      have hwriting : opened.remote.writing path = some (i, data) := by
        apply hown
        generalize middle.remote = remote at hcmd ⊢
        cases hcmd
        exact Function.update_self ..
      refine ⟨hwriting, fun reply ended hstep => ?_⟩
      obtain ⟨hended, middle, hcmd, hrest, -⟩ := command_boots hopened.inv hstep hwriting
      cases reply with
      | error failure => exact ⟨(hmade.trans hopened).trans hended, nofun⟩
      | ok out =>
        refine ⟨(hmade.trans hopened).trans hended, fun _ => Present.since ?_ hrest⟩
        have hfile : middle.remote.files path = some data ∧ middle.remote.writing path = none := by
          generalize middle.remote = remote at hcmd
          cases hcmd
          exact ⟨Function.update_self .., Function.update_self ..⟩
        exact ⟨⟨hfile.2, hfile.1 ▸ Option.some_ne_none data⟩, data, hfile.1, rfl⟩

theorem reconcileBootArtifacts_ends {prog : Prog (signature.sum fileCommands) (Option GoError × RunState)}
    (hstart : (bootSystem sha spec ChecksFinished RemoteFiles.OpensNewFile).start i prog) {w : BootHost ι}
    (hw : BootInv sha w) :
    EndsUnder (bootRelies sha i)
      ((bootSystem sha spec ChecksFinished RemoteFiles.OpensNewFile).handler i) (bootSystemGuard sha i)
      (fun out after => Booted sha (spec i) out.1 out.2 after) prog w := by
  obtain ⟨deps, rc, st, hjoin, hspec, hkernel, hinitrd, rfl⟩ := hstart
  intro other hrely
  refine (reconcileBootArtifacts_booted hjoin hspec ⟨hkernel, hinitrd⟩ (hrely hw).1.inv).expand
    (fun before op hop hguard => ⟨hguard.2, fun reply after hs => controller_boots hop hguard hs⟩) ?_
  intro before op prog hop hguard
  cases op with
  | client host call =>
    cases call with
    | writeRemoteFile path data =>
      cases hop
      exact Holds.sumRight (writeRemoteFile_boots hguard.1 hguard.2)
    | _ => cases hop
  | _ => cases hop

theorem BootStart.inv {w : BootHost ι} (h : BootStart sha w) : BootInv sha w := by
  refine ⟨⟨fun path content _ hfile => h.files path content hfile, fun path j data hwriting => ?_⟩,
    fun key files hcached => ?_, fun entry hmem => ?_⟩
  · rw [h.writing] at hwriting
    cases hwriting
  · rw [h.store.1] at hcached
    cases hcached
  · rw [h.store.2] at hmem
    cases hmem

theorem BootEnv.relies (h : BootEnv before after) (hbefore : BootInv sha before) :
    BootInv sha after ∧ ∀ i, bootRelies sha i before after := by
  have hsince : BootSince sha before after ∧ after.remote.writing = before.remote.writing := by
    cases h with
    | restart =>
      exact ⟨⟨⟨hbefore.remote, nofun, hbefore.resolved⟩, RemoteFiles.Kept.refl hbefore.remote, fun _ h => h⟩, rfl⟩
    | arrives hwriting n =>
      have hkept := RemoteFiles.kept_arrived hbefore.remote hwriting n
      exact ⟨⟨⟨hkept.sound, hbefore.cached, hbefore.resolved⟩, hkept, fun _ h => h⟩, rfl⟩
  exact ⟨hsince.1.inv, fun i _ => ⟨hsince.1, fun _ _ h => hsince.2 ▸ h⟩⟩

theorem system_boots {op : (signature.sum fileCommands).Op}
    {reply : (signature.sum fileCommands).Reply op} (hbefore : BootInv sha before)
    (hstep : (bootSystem sha spec ChecksFinished RemoteFiles.OpensNewFile).handler i before op reply after)
    (hguard : bootSystemGuard sha i before op) :
    BootInv sha after ∧ ∀ j, j ≠ i → bootRelies sha j before after := by
  cases op with
  | inl op =>
    have hsince := bootStep_since hbefore hstep.1 hguard
    refine ⟨hsince.inv, fun j _ _ => ⟨hsince, fun path data h => ?_⟩⟩
    rw [hstep.1.1]
    exact h
  | inr cmd =>
    obtain ⟨hstore, hcmd, hnew⟩ := hstep
    have hsince := fileStep_since hbefore hstore hcmd hnew hguard
    exact ⟨hsince.inv, fun j hne _ => ⟨hsince, fun path data h =>
      RemoteFiles.fileStep_others hbefore.remote hcmd hnew hguard hne h⟩⟩

-- In every run in which checks and writes keep clear of unfinished files, a run that returns
-- nil with its paths set has the files with the resolver's digests at them.
theorem bootArtifacts_addressed [DecidableEq ι]
    {c : Config (signature.sum fileCommands) (BootHost ι) ι (Option GoError × RunState)}
    (hc : (bootSystem sha spec ChecksFinished RemoteFiles.OpensNewFile).Reachable (BootStart sha) c)
    {i : ι} {st : RunState} (hdone : c.threads i = some (.done (none, st))) (hset : st.kernelPath ≠ "") :
    ∃ files, FromResolver sha c.state files ∧
      st.kernelPath = Path.join [trimRight (spec i).hostPath '/', files.kernelSHA256, "vmlinuz"] ∧
      st.initrdPath = Path.join [trimRight (spec i).hostPath '/', files.initramfsSHA256, "initramfs.img"] ∧
      (∃ content, c.state.remote.files st.kernelPath = some content ∧
        sha.hex content = files.kernelSHA256) ∧
      ∃ content, c.state.remote.files st.initrdPath = some content ∧
        sha.hex content = files.initramfsSHA256 := by
  obtain ⟨hinv, hends⟩ := (bootSystem sha spec ChecksFinished RemoteFiles.OpensNewFile).reachable_ends
    (BootInv sha) (bootRelies sha) (bootSystemGuard sha)
    (fun i out after => Booted sha (spec i) out.1 out.2 after)
    (fun _ _ h => ⟨BootSince.refl h, fun _ _ h => h⟩)
    (fun _ _ _ _ hab hbc h =>
      have hab := hab h
      have hbc := hbc hab.1.inv
      ⟨hab.1.trans hbc.1, fun path data hw => hbc.2 path data (hab.2 path data hw)⟩)
    (fun _ h => h.inv) (fun _ _ hb henv => henv.relies hb)
    (fun _ _ _ hw hstart => reconcileBootArtifacts_ends hstart hw)
    (fun _ _ _ _ _ hb hguard hstep => system_boots hb hstep hguard) hc
  have hbooted := hends i _ hdone c.state fun h => ⟨BootSince.refl h, fun _ _ h => h⟩
  obtain ⟨files, hfrom, hkernel, hinitrd, hk, hi⟩ := hbooted.2 rfl hset
  exact ⟨files, hfrom, hkernel, hinitrd, hk.2, hi.2⟩

end Runs

section Samples

def bootMachine (i : Bool) : Machine (signature.sum fileCommands) (BootHost Bool) := fun w op => match op with
  | .inl (.client _ (.remoteFileExists path)) => (.ok (w.remote.files path).isSome, w)
  | .inl op => ((artifactMachine w.store op).1, { w with store := (artifactMachine w.store op).2 })
  | .inr (.installDir _) => (.ok "", w)
  | .inr (.openTee path data) => (.ok "", { w with remote := w.remote.opened i path data })
  | .inr (.endTee path data) => (.ok "", { w with remote := w.remote.ended path data })

def sampleBootSpec (_ : Bool) : BootArtifactsSpec := ⟨"/boot/", "", sampleSource false⟩

def bootCtx : ReconcileCtx :=
  ⟨sampleMachine, sampleOwner, sampleCluster,
    { sampleLibvirtCluster with bootArtifacts := some (sampleBootSpec true) }, sampleHost, 1, 1⟩

def bootRun : Prog (signature.sum fileCommands) (Option GoError × RunState) :=
  (reconcileBootArtifacts { sampleDeps with pathJoin := Path.join } bootCtx
    (bootCtx.initialState sampleMachine.status)).expand writeCommands

def bareBootHost : BootHost Bool := ⟨⟨fun _ => none, fun _ => none⟩, emptyStore⟩

def sampleKernelPath : String := Path.join ["/boot", sampleSha.hex [1], "vmlinuz"]

def clearOfWrites (w : BootHost Bool) : (signature.sum fileCommands).Op → Bool
  | .inl (.client _ (.remoteFileExists path)) => (w.remote.writing path).isNone
  | .inr (.openTee path _) => (w.remote.files path).isNone
  | _ => true

abbrev sampleBoot (checks : RemoteFiles Bool → Op → Prop) (opens : RemoteFiles Bool → FileCommand → Prop) :
    System (signature.sum fileCommands) (BootHost Bool) Bool (Option GoError × RunState) :=
  bootSystem sampleSha sampleBootSpec checks opens

theorem bootMachine_controller (i : Bool) (w : BootHost Bool) (op : Op) :
    bootStep sampleSha w op (bootMachine i w (.inl op)).1 (bootMachine i w (.inl op)).2 := by
  have hstore := artifactMachine_step w.store op
  cases op with
  | client host call =>
    cases call with
    | remoteFileExists path => exact ⟨rfl, rfl, fun found h => (Except.ok.inj h).symm⟩
    | _ => exact ⟨rfl, hstore, trivial⟩
  | _ => exact ⟨rfl, hstore, trivial⟩

theorem bootMachine_command (i : Bool) (w : BootHost Bool) (cmd : FileCommand) :
    (bootMachine i w (.inr cmd)).2.store = w.store ∧
      FileStep i w.remote cmd (bootMachine i w (.inr cmd)).1 (bootMachine i w (.inr cmd)).2.remote := by
  cases cmd with
  | installDir dir => exact ⟨rfl, .installDir dir (.ok "")⟩
  | openTee path data => exact ⟨rfl, .openTee path data (.ok "")⟩
  | endTee path data => exact ⟨rfl, .endTee path data ""⟩

theorem bootMachine_step (i : Bool) (w : BootHost Bool) (op : (signature.sum fileCommands).Op) :
    (sampleBoot (fun _ _ => True) fun _ _ => True).handler i w op
      (bootMachine i w op).1 (bootMachine i w op).2 := by
  cases op with
  | inl op => exact ⟨bootMachine_controller i w op, trivial⟩
  | inr cmd => exact ⟨(bootMachine_command i w cmd).1, (bootMachine_command i w cmd).2, trivial⟩

theorem bootMachine_clear_step (i : Bool) (w : BootHost Bool) (op : (signature.sum fileCommands).Op)
    (h : clearOfWrites w op = true) :
    (sampleBoot ChecksFinished RemoteFiles.OpensNewFile).handler i w op
      (bootMachine i w op).1 (bootMachine i w op).2 := by
  cases op with
  | inl op =>
    refine ⟨bootMachine_controller i w op, ?_⟩
    cases op with
    | client host call =>
      cases call with
      | remoteFileExists path => exact Option.isNone_iff_eq_none.mp h
      | _ => trivial
    | _ => trivial
  | inr cmd =>
    refine ⟨(bootMachine_command i w cmd).1, (bootMachine_command i w cmd).2, ?_⟩
    cases cmd with
    | openTee path data => exact Option.isNone_iff_eq_none.mp h
    | _ => trivial

theorem bootRun_starts (checks : RemoteFiles Bool → Op → Prop)
    (opens : RemoteFiles Bool → FileCommand → Prop) (i : Bool) : (sampleBoot checks opens).start i bootRun :=
  ⟨_, bootCtx, _, rfl, rfl, rfl, rfl, rfl⟩

theorem bareBootHost_start : BootStart sampleSha bareBootHost := ⟨nofun, fun _ => rfl, fun _ => rfl, rfl⟩

-- The first run crashes right after its tee has opened the kernel's file.
def crashedBoot : BootHost Bool := (runFor (bootMachine false) 6 bootRun bareBootHost).2

def secondBoot : Prog (signature.sum fileCommands) (Option GoError × RunState) × BootHost Bool :=
  runFor (bootMachine true) 6 bootRun crashedBoot

theorem secondBoot_reachable : (sampleBoot (fun _ _ => True) fun _ _ => True).Reachable
    (BootStart sampleSha) ⟨secondBoot.2, Function.update (fun _ => none) true (some secondBoot.1)⟩ := by
  have hidle : (sampleBoot (fun _ _ => True) fun _ _ => True).Reachable (BootStart sampleSha)
      (System.idle bareBootHost) := System.reachable_idle bareBootHost_start
  have hcrashed := hidle.startCrash (i := false) rfl (bootRun_starts _ _ false) (bootMachine false)
    (fun _ _ => true) 6 (permits_of_forall (fun _ _ => rfl) _ _ _) fun w op _ => bootMachine_step false w op
  exact hcrashed.startRun (i := true) rfl (bootRun_starts _ _ true) (bootMachine true) (fun _ _ => true) 6
    (permits_of_forall (fun _ _ => rfl) _ _ _) fun w op _ => bootMachine_step true w op

-- The second run takes the empty file for the kernel and succeeds.
theorem truncated_kernel_boots : ∃ c st,
    (sampleBoot (fun _ _ => True) fun _ _ => True).Reachable (BootStart sampleSha) c ∧
      c.threads true = some (.done (none, st)) ∧
      st.kernelPath = Path.join ["/boot", sampleSha.hex [1], "vmlinuz"] ∧
      c.state.remote.files st.kernelPath = some [] ∧ sampleSha.hex [] ≠ sampleSha.hex [1] := by
  refine ⟨_, _, secondBoot_reachable, rfl, ?_, ?_, ?_⟩
  · rfl
  · rfl
  · decide

theorem sampleKernelPath_ne_empty : sampleKernelPath ≠ "" := by decide +kernel

theorem bootArtifacts_addressed_single : ∃ c st,
    (sampleBoot ChecksFinished RemoteFiles.OpensNewFile).Reachable (BootStart sampleSha) c ∧
      c.threads true = some (.done (none, st)) ∧ st.kernelPath ≠ "" ∧
      ∃ files, FromResolver sampleSha c.state files ∧
        ∃ content, c.state.remote.files st.kernelPath = some content ∧
          sampleSha.hex content = files.kernelSHA256 := by
  have hidle : (sampleBoot ChecksFinished RemoteFiles.OpensNewFile).Reachable (BootStart sampleSha)
      (System.idle bareBootHost) := System.reachable_idle bareBootHost_start
  have hreachable := hidle.startRun (i := true) rfl (bootRun_starts _ _ true) (bootMachine true)
    clearOfWrites 11 (by rfl) fun w op h => bootMachine_clear_step true w op h
  refine ⟨_, _, hreachable, rfl, sampleKernelPath_ne_empty, ?_⟩
  obtain ⟨files, hfiles, -, -, hkernel, -⟩ :=
    bootArtifacts_addressed hreachable (i := true) rfl sampleKernelPath_ne_empty
  exact ⟨files, hfiles, hkernel⟩

end Samples

end Caplv.Controller
