import Caplv.Libvirt.Remote
import Caplv.Libvirt.RemoteFiles
import Caplv.Libvirt.Tmpfs
import Caplv.Shell.Glob

namespace Caplv.Libvirt

open Text Shell Program

-- The commands the setup playbook lets the service account run as root.
def sudoersRules : List String :=
  ["/usr/bin/mkdir -p /run/caplv/*",
    "/usr/bin/install -d -m 0755 /run/caplv/*",
    "/usr/bin/chmod 0755 /run/caplv/*",
    "/usr/bin/chmod 0644 /run/caplv/*",
    "/usr/bin/mount -t tmpfs tmpfs /run/caplv/*",
    "/usr/bin/mount -t tmpfs -o size=* tmpfs /run/caplv/*",
    "/usr/bin/umount /run/caplv/*",
    "/usr/bin/rmdir /run/caplv/*",
    "/usr/bin/tee /run/caplv/*",
    "/usr/bin/rm -f /run/caplv/*"]

-- What sudo compares with its rules: the resolved command and its arguments between blanks.
def sudoLine (words : List String) : String := "/usr/bin/" ++ String.intercalate " " words

def sudoAllows : List String → Bool
  | "sudo" :: words => sudoersRules.any fun rule => glob rule.toList (sudoLine words).toList
  | _ => true

-- Every command of the text that runs through sudo is on the list.
def Allowed (text : String) : Prop :=
  ∃ run, commands text = some run ∧ ∀ simple ∈ run, sudoAllows simple.argv = true

def underRunDir (path : String) : Bool := hasPrefix path "/run/caplv/"

section Rules

variable {path : String}

theorem allowed_text (cmd : RemoteCommand) :
    Allowed cmd.text ↔ ∀ simple ∈ cmd.intended, sudoAllows simple.argv = true := by
  constructor
  · rintro ⟨run, hrun, hall⟩
    obtain rfl := Option.some.inj ((commands_text cmd).symm.trans hrun)
    exact hall
  · exact fun hall => ⟨_, commands_text cmd, hall⟩

-- The commands before their directory, and the texts the rules are made of.
def sudoHeads : List (List String) :=
  [["mkdir", "-p"], ["install", "-d", "-m", "0755"], ["chmod", "0644"], ["mount", "-t", "tmpfs", "tmpfs"],
    ["umount"], ["rmdir"], ["tee"], ["rm", "-f"]]

def sizedMountRule : String := "/usr/bin/mount -t tmpfs -o size=* tmpfs /run/caplv/*"

-- What is read off the texts of the rules. It is evaluated at once.
theorem rules_read :
    (∀ words ∈ sudoHeads, sudoLine words ++ " /run/caplv/*" ∈ sudoersRules ∧
      '*' ∉ (sudoLine words).toList ∧ words ≠ []) ∧
    ('*' ∉ " /run/caplv/".toList ∧ " /run/caplv/".toList = ' ' :: "/run/caplv/".toList) ∧
    (∀ rule ∈ sudoersRules, '*' ∉ rule.toList.take 10 ∧ 10 ≤ rule.toList.length) ∧
    (∀ words ∈ [["umount"], ["install", "-d", "-m", "0755"]], words ∈ sudoHeads ∧
      10 ≤ (sudoLine words).toList.length ∧ ∀ rule ∈ sudoersRules,
        (sudoLine words).toList.take 10 = rule.toList.take 10 → rule = sudoLine words ++ " /run/caplv/*") ∧
    (sizedMountRule ∈ sudoersRules ∧
      sizedMountRule.toList = "/usr/bin/mount -t tmpfs -o size=".toList ++ '*' :: (" tmpfs /run/caplv/".toList ++ ['*']) ∧
      '*' ∉ "/usr/bin/mount -t tmpfs -o size=".toList ∧ '*' ∉ " tmpfs /run/caplv/".toList) ∧
    "/usr/bin/chmod 0755 /run/caplv/" ++ "*" ∈ sudoersRules ∧ '*' ∉ "/usr/bin/chmod 0755 /run/caplv/".toList := by
  decide +kernel

theorem sudoHeads_rules : ∀ words ∈ sudoHeads, sudoLine words ++ " /run/caplv/*" ∈ sudoersRules ∧
    '*' ∉ (sudoLine words).toList ∧ words ≠ [] := rules_read.1

theorem runDir_text : '*' ∉ " /run/caplv/".toList ∧ " /run/caplv/".toList = ' ' :: "/run/caplv/".toList :=
  rules_read.2.1

theorem sudoAllows_of_rule {words : List String} (head : String) (hrule : head ++ "*" ∈ sudoersRules)
    (hhead : '*' ∉ head.toList) (hline : hasPrefix (sudoLine words) head = true) :
    sudoAllows ("sudo" :: words) = true := by
  refine List.any_eq_true.mpr ⟨head ++ "*", hrule, ?_⟩
  rw [String.toList_append]
  exact (glob_star_last hhead).mpr (List.isPrefixOf_iff_prefix.mp hline)

theorem sudoLine_last (words : List String) (hwords : words ≠ []) (last : String) :
    sudoLine (words ++ [last]) = sudoLine words ++ " " ++ last := by
  have hjoin : String.intercalate " " (words ++ [last]) = String.intercalate " " words ++ " " ++ last := by
    induction words with
    | nil => exact absurd rfl hwords
    | cons word rest ih =>
      cases rest with
      | nil => rfl
      | cons next rest =>
        have hnext := ih (List.cons_ne_nil next rest)
        rw [List.cons_append, List.cons_append, String.intercalate_cons_cons, String.intercalate_cons_cons,
          ← List.cons_append, hnext]
        simp only [String.append_assoc]
  rw [sudoLine, hjoin, sudoLine, String.append_assoc, String.append_assoc, String.append_assoc]

theorem star_notMem_head {words : List String} (hstar : '*' ∉ (sudoLine words).toList) :
    '*' ∉ (sudoLine words ++ " /run/caplv/").toList := by
  rw [String.toList_append, List.mem_append]
  rintro (h | h)
  · exact hstar h
  · exact runDir_text.1 h

theorem sudoAllows_path {words : List String} (hwords : words ∈ sudoHeads) (hpath : underRunDir path = true) :
    sudoAllows ("sudo" :: (words ++ [path])) = true := by
  obtain ⟨hrule, hstar, hne⟩ := sudoHeads_rules words hwords
  obtain ⟨rest, rfl⟩ := (hasPrefix_iff _ _).mp hpath
  refine sudoAllows_of_rule (sudoLine words ++ " /run/caplv/") ?_ (star_notMem_head hstar) ?_
  · rw [String.append_assoc]
    exact hrule
  · rw [sudoLine_last words hne]
    refine (hasPrefix_iff _ _).mpr ⟨rest, String.toList_inj.mp ?_⟩
    simp only [String.toList_append, runDir_text.2]
    simp

theorem rule_of_sudoAllows {words : List String} (h : sudoAllows ("sudo" :: words) = true) :
    ∃ rule ∈ sudoersRules, glob rule.toList (sudoLine words).toList = true ∧
      (sudoLine words).toList.take 10 = rule.toList.take 10 := by
  obtain ⟨rule, hrule, hglob⟩ := List.any_eq_true.mp h
  obtain ⟨hstar, hlength⟩ := rules_read.2.2.1 rule hrule
  exact ⟨rule, hrule, hglob, take_of_glob hstar hlength hglob⟩

theorem sudoAllows_path_iff {words : List String} (hwords : words ∈ [["umount"], ["install", "-d", "-m", "0755"]]) :
    sudoAllows ("sudo" :: (words ++ [path])) = true ↔ underRunDir path = true := by
  obtain ⟨hhead, hlength, honly⟩ := rules_read.2.2.2.1 words hwords
  obtain ⟨hrule, hstar, hne⟩ := sudoHeads_rules words hhead
  refine ⟨fun hallowed => ?_, sudoAllows_path hhead⟩
  obtain ⟨rule, hmem, hglob, htake⟩ := rule_of_sudoAllows hallowed
  rw [sudoLine_last words hne, String.append_assoc, String.toList_append] at hglob htake
  rw [List.take_append_of_le_length hlength] at htake
  have hsplit : sudoLine words ++ " /run/caplv/*" = sudoLine words ++ " /run/caplv/" ++ "*" := by
    rw [String.append_assoc]
    rfl
  rw [honly rule hmem htake, hsplit, String.toList_append] at hglob
  have hpre := prefix_of_glob (star_notMem_head hstar) hglob
  rw [String.toList_append, List.prefix_append_right_inj] at hpre
  have hblank : (" " ++ path).toList = ' ' :: path.toList := by simp
  rw [hblank, runDir_text.2, List.cons_prefix_cons] at hpre
  exact List.isPrefixOf_iff_prefix.mpr hpre.2

end Rules

section Commands

variable {path size : String}

theorem allowed_single {cmd : RemoteCommand} {simple : SimpleCommand} (hintended : cmd.intended = [simple]) :
    Allowed cmd.text ↔ sudoAllows simple.argv = true := by
  rw [allowed_text, hintended, List.forall_mem_singleton]

theorem allowed_pair {cmd : RemoteCommand} {first second : SimpleCommand}
    (hintended : cmd.intended = [first, second]) :
    Allowed cmd.text ↔ sudoAllows first.argv = true ∧ sudoAllows second.argv = true := by
  rw [allowed_text, hintended, List.forall_mem_cons, List.forall_mem_singleton]

theorem allowed_virsh (connURI : String) (args : List String) : Allowed (RemoteCommand.virsh connURI args).text :=
  (allowed_single rfl).mpr rfl

theorem allowed_mkdir (hpath : underRunDir path = true) : Allowed (RemoteCommand.mkdir path).text :=
  (allowed_single rfl).mpr (@sudoAllows_path path ["mkdir", "-p"] (by simp [sudoHeads]) hpath)

theorem allowed_rm (hpath : underRunDir path = true) : Allowed (RemoteCommand.rm path).text :=
  (allowed_single rfl).mpr (@sudoAllows_path path ["rm", "-f"] (by simp [sudoHeads]) hpath)

theorem allowed_rmdir (hpath : underRunDir path = true) : Allowed (RemoteCommand.rmdir path).text :=
  (allowed_single rfl).mpr (@sudoAllows_path path ["rmdir"] (by simp [sudoHeads]) hpath)

theorem allowed_umount_iff : Allowed (RemoteCommand.umount path).text ↔ underRunDir path = true :=
  (allowed_single rfl).trans (@sudoAllows_path_iff path ["umount"] List.mem_cons_self)

theorem allowed_tee (hpath : underRunDir path = true) : Allowed (RemoteCommand.tee path).text :=
  (allowed_pair rfl).mpr ⟨@sudoAllows_path path ["tee"] (by simp [sudoHeads]) hpath,
    @sudoAllows_path path ["chmod", "0644"] (by simp [sudoHeads]) hpath⟩

theorem sudoAllows_sizedMount (hpath : underRunDir path = true) :
    sudoAllows ["sudo", "mount", "-t", "tmpfs", "-o", "size=" ++ size, "tmpfs", path] = true := by
  obtain ⟨rest, rfl⟩ := (hasPrefix_iff _ _).mp hpath
  obtain ⟨hmem, hrule, hsize, hdir⟩ := rules_read.2.2.2.2.1
  have hline : (sudoLine ["mount", "-t", "tmpfs", "-o", "size=" ++ size, "tmpfs", "/run/caplv/" ++ rest]).toList =
      "/usr/bin/mount -t tmpfs -o size=".toList ++ (size.toList ++ (" tmpfs /run/caplv/".toList ++ rest.toList)) := by
    simp [sudoLine, String.intercalate_cons_cons]
  refine List.any_eq_true.mpr ⟨_, hmem, ?_⟩
  rw [hline, hrule]
  refine (glob_literal hsize).mpr ⟨_, rfl, glob_star.mpr ⟨_, _, rfl, ?_⟩⟩
  exact (glob_star_last hdir).mpr (List.prefix_append _ _)

theorem allowed_mount (hpath : underRunDir path = true) : Allowed (RemoteCommand.mount path size).text := by
  by_cases hsize : size = ""
  · subst hsize
    exact (allowed_single rfl).mpr
      (@sudoAllows_path path ["mount", "-t", "tmpfs", "tmpfs"] (by simp [sudoHeads]) hpath)
  · have hintended : (RemoteCommand.mount path size).intended =
        [⟨["sudo", "mount", "-t", "tmpfs", "-o", "size=" ++ size, "tmpfs", path], []⟩] := if_neg hsize
    exact (allowed_single hintended).mpr (sudoAllows_sizedMount hpath)

-- The directory is created only under the run directory; the mode of the run directory
-- itself is repaired by the same command.
theorem allowed_installDir_iff {dir : String} :
    Allowed (RemoteCommand.installDir dir).text ↔ underRunDir dir = true := by
  have hinstall := @sudoAllows_path_iff dir ["install", "-d", "-m", "0755"]
    (List.mem_cons_of_mem _ List.mem_cons_self)
  refine (allowed_pair rfl).trans ⟨fun h => hinstall.mp h.1, fun hdir => ⟨hinstall.mpr hdir, ?_⟩⟩
  have hrepair : repairDirs dir = [dir, "/run/caplv"] := if_pos hdir
  obtain ⟨rest, rfl⟩ := (hasPrefix_iff _ _).mp hdir
  obtain ⟨hrule, hstar⟩ := rules_read.2.2.2.2.2
  rw [hrepair]
  refine sudoAllows_of_rule "/usr/bin/chmod 0755 /run/caplv/" hrule hstar ?_
  refine (hasPrefix_iff _ _).mpr ⟨rest ++ " /run/caplv", String.toList_inj.mp ?_⟩
  simp [sudoLine, String.intercalate_cons_cons]

end Commands

def Command.remote (connURI : String) : Command → RemoteCommand
  | .umount path => .umount path
  | .rmdir path => .rmdir path
  | .rm path => .rm path
  | cmd => .virsh connURI cmd.args

def PoolCommand.remote (connURI : String) : PoolCommand → RemoteCommand
  | .mkdir path => .mkdir path
  | .mount path size => .mount path size
  | cmd => .virsh connURI cmd.args

-- A tee that has opened its file and one that ends are the same command.
def FileCommand.remote : FileCommand → RemoteCommand
  | .installDir dir => .installDir dir
  | .openTee path _ | .endTee path _ => .tee path

-- What pool-dumpxml can say about the target of the pool.
def reportsTarget (target : String) : Replies shell
  | .poolDumpxml _, reply => ∀ path, reply = .ok path → path = target
  | _, _ => True

section Programs

variable {replies : Replies shell} {connURI name path size : String}

theorem runVirsh_emits {allowed : Command → Prop} {cmd : Command} (hcmd : allowed cmd) :
    Emits replies allowed (fun out => ∀ stdout, out = .ok stdout → replies cmd (.ok stdout)) (runVirsh cmd) := by
  refine (emits_ask _ _).mpr ⟨hcmd, fun reply hreply => ?_⟩
  cases reply with
  | ok stdout => exact fun other hother => Except.ok.inj hother ▸ hreply
  | error failure => exact fun other hother => nomatch hother

theorem runSSH_emits {allowed : Command → Prop} {cmd : Command} (hcmd : allowed cmd) :
    Emits replies allowed (fun _ => True) (runSSH cmd) := by
  refine (emits_ask _ _).mpr ⟨hcmd, fun reply _ => ?_⟩
  cases reply <;> trivial

theorem deleteRemoteFile_allowed (hpath : underRunDir path = true) :
    Emits anyReply (fun cmd => Allowed (cmd.remote connURI).text) (fun _ => True)
      (VirshClient.deleteRemoteFile path) :=
  runSSH_emits (allowed_rm hpath)

theorem destroyPool_allowed_iff (target : String) :
    Emits (reportsTarget target) (fun cmd => Allowed (cmd.remote connURI).text) (fun _ => True)
      (VirshClient.destroyPool name) ↔ target = "" ∨ underRunDir target = true := by
  constructor
  · intro h
    by_cases hempty : target = ""
    · exact .inl hempty
    · have hdump := ((emits_ask _ _).mp h).2 (.ok target) fun _ hok => (Except.ok.inj hok).symm
      have hdestroy := ((emits_ask _ _).mp hdump).2 (.ok "") trivial
      have hundefine := ((emits_ask _ _).mp hdestroy).2 (.ok "") trivial
      change Emits _ _ _ (if target = "" then _ else _) at hundefine
      rw [if_neg hempty] at hundefine
      exact .inr (allowed_umount_iff.mp ((emits_ask _ _).mp hundefine).1)
  · intro htarget
    refine (runVirsh_emits (allowed_virsh connURI _)).bind fun dumped hdumped => ?_
    cases dumped with
    | error err => trivial
    | ok poolPath =>
      obtain rfl : poolPath = target := hdumped poolPath rfl poolPath rfl
      refine (runVirsh_emits (allowed_virsh connURI _)).bind fun _ _ => ?_
      refine (runVirsh_emits (allowed_virsh connURI _)).bind fun _ _ => ?_
      split
      · trivial
      · rename_i hpath
        have hunder := htarget.resolve_left hpath
        refine (runSSH_emits (allowed_umount_iff.mpr hunder)).bind fun _ _ => ?_
        exact (runSSH_emits (allowed_rmdir hunder)).bind fun _ _ => trivial

theorem createTmpfsPool_allowed (hpath : underRunDir path = true) :
    Emits anyReply (Sum.elim (fun cmd => Allowed (cmd.remote connURI).text)
      fun cmd => Allowed (Command.remote connURI cmd).text) (fun _ => True)
      (VirshClient.createTmpfsPool name path size) := by
  have hvirsh (cmd : PoolCommand) (hcmd : Allowed (cmd.remote connURI).text) :
      Emits anyReply (Sum.elim (fun cmd => Allowed (cmd.remote connURI).text)
        fun cmd => Allowed (Command.remote connURI cmd).text) (fun _ => True) (VirshClient.setupVirsh cmd) := by
    refine (emits_ask _ _).mpr ⟨hcmd, fun reply _ => ?_⟩
    cases reply <;> trivial
  have hssh (cmd : PoolCommand) (hcmd : Allowed (cmd.remote connURI).text) :
      Emits anyReply (Sum.elim (fun cmd => Allowed (cmd.remote connURI).text)
        fun cmd => Allowed (Command.remote connURI cmd).text) (fun _ => True) (VirshClient.setupSSH cmd) := by
    refine (emits_ask _ _).mpr ⟨hcmd, fun reply _ => ?_⟩
    cases reply <;> trivial
  refine (hssh (.mkdir path) (allowed_mkdir hpath)).bind fun made _ => ?_
  cases made with
  | error err => trivial
  | ok _ =>
    refine (hssh (.mount path size) (allowed_mount hpath)).bind fun mounted _ => ?_
    cases mounted with
    | error err => trivial
    | ok _ =>
      refine (hvirsh (.poolDefineAs name path) (allowed_virsh connURI _)).bind fun defined _ => ?_
      cases defined with
      | error err => trivial
      | ok _ =>
        refine (hvirsh (.poolStart name) (allowed_virsh connURI _)).bind fun started _ => ?_
        cases started <;> trivial

theorem parentDir_begins (path : String) : (VirshClient.parentDir path).toList <+: path.toList := by
  have hsuffix : (path.toList.reverse.dropWhile (· ≠ '/')).drop 1 <:+ path.toList.reverse :=
    (List.drop_suffix _ _).trans (List.dropWhile_suffix _)
  rw [VirshClient.parentDir, String.toList_ofList]
  simpa using List.reverse_prefix.mpr hsuffix

theorem parentDir_append (dir : String) {name : String} (hname : '/' ∉ name.toList) :
    VirshClient.parentDir (dir ++ "/" ++ name) = dir := by
  have hchars : (dir ++ "/" ++ name).toList.reverse = name.toList.reverse ++ '/' :: dir.toList.reverse := by
    simp
  have hslash : ∀ c ∈ name.toList.reverse, decide (c ≠ '/') = true := by
    intro c hc
    refine decide_eq_true ?_
    rintro rfl
    exact hname (List.mem_reverse.mp hc)
  rw [VirshClient.parentDir, hchars, List.dropWhile_append_of_pos hslash]
  simp

theorem writeRemoteFile_allowed_iff (data : Bytes) :
    Emits anyReply (fun cmd => Allowed (FileCommand.remote cmd).text) (fun _ => True)
      (VirshClient.writeRemoteFile path data) ↔ underRunDir (VirshClient.parentDir path) = true := by
  constructor
  · exact fun h => allowed_installDir_iff.mp ((emits_ask _ _).mp h).1
  · intro hdir
    have hpath : underRunDir path = true := by
      refine List.isPrefixOf_iff_prefix.mpr ?_
      exact (List.isPrefixOf_iff_prefix.mp hdir).trans (parentDir_begins path)
    refine (emits_ask _ _).mpr ⟨allowed_installDir_iff.mpr hdir, fun installed _ => ?_⟩
    cases installed with
    | error failure => trivial
    | ok _ =>
      refine (emits_ask _ _).mpr ⟨allowed_tee hpath, fun opened _ => ?_⟩
      cases opened with
      | error failure => trivial
      | ok _ =>
        refine (emits_ask _ _).mpr ⟨allowed_tee hpath, fun ended _ => ?_⟩
        cases ended <;> trivial

end Programs

end Caplv.Libvirt
