import Caplv.Libvirt.Station

namespace Caplv.Libvirt

open Text Program Shell GoString

namespace RemoteCommand

def list : RemoteCommand → AndOr
  | .virsh connURI args => ⟨{ argv := "virsh" :: "-c" :: connURI :: args }, []⟩
  | .mkdir path => ⟨{ argv := ["sudo", "mkdir", "-p", path] }, []⟩
  | .mount path size =>
    if size = "" then ⟨{ argv := ["sudo", "mount", "-t", "tmpfs", "tmpfs", path] }, []⟩
    else ⟨{ argv := ["sudo", "mount", "-t", "tmpfs", "-o", "size=" ++ size, "tmpfs", path] }, []⟩
  | .umount path => ⟨{ argv := ["sudo", "umount", path], stderr := some "/dev/null" }, []⟩
  | .rmdir path => ⟨{ argv := ["sudo", "rmdir", path], stderr := some "/dev/null" }, []⟩
  | .installDir dir =>
    ⟨{ argv := ["sudo", "install", "-d", "-m", "0755", dir] },
      [(.andIf, { argv := ["sudo", "chmod", "0755"] ++ repairDirs dir })]⟩
  | .tee path =>
    ⟨{ argv := ["sudo", "tee", path], stdout := some "/dev/null" },
      [(.andIf, { argv := ["sudo", "chmod", "0644", path] })]⟩
  | .testExists path =>
    ⟨{ argv := ["test", "-e", path] },
      [(.andIf, { argv := ["echo", "present"] }), (.orIf, { argv := ["echo", "missing"] })]⟩
  | .rm path => ⟨{ argv := ["sudo", "rm", "-f", path] }, []⟩
  | .upload tmpFile => ⟨{ argv := ["cat"], stdout := some tmpFile }, []⟩
  | .removeUpload tmpFile => ⟨{ argv := ["rm", "-f", tmpFile] }, []⟩

end RemoteCommand

section Texts

variable {text : String} {out : List Token}

theorem tokens_word (h : tokens text = some out) (s : String) (hplain : isPlain s = true) :
    tokens (text ++ " " ++ s) = some (out ++ [unquoted s]) := tokens_append h (tokens_plain hplain)

theorem tokens_quote (h : tokens text = some out) (s : String) :
    tokens (text ++ " " ++ shellQuote s) = some (out ++ [quoted s]) := tokens_append h (tokens_shellQuote s)

theorem tokens_sudo (s : String) (hplain : isPlain s = true) :
    tokens ("sudo" ++ " " ++ s) = some [unquoted "sudo", unquoted s] :=
  tokens_word (tokens_plain (by decide)) s hplain

theorem tokens_discard (h : tokens text = some out) : tokens (text ++ " " ++ "2>/dev/null") =
    some (out ++ [.ioNumber [('2', false)], .operator ['>'], unquoted "/dev/null"]) :=
  tokens_append h (by decide)

theorem tokens_and (h : tokens text = some out) :
    tokens (text ++ " " ++ "&&") = some (out ++ [.operator ['&', '&']]) := tokens_append h (by decide)

theorem tokens_or (h : tokens text = some out) :
    tokens (text ++ " " ++ "||") = some (out ++ [.operator ['|', '|']]) := tokens_append h (by decide)

theorem tokens_into (h : tokens text = some out) :
    tokens (text ++ " " ++ ">") = some (out ++ [.operator ['>']]) := tokens_append h (by decide)

theorem script_of_tokens (h : tokens text = some out) : script text = parseList {} out := by
  rw [script, h, Option.bind_eq_bind, Option.bind_some]

end Texts

-- The shell finds the commands that were meant, with their redirections and the way they hang
-- together.
theorem script_text (cmd : RemoteCommand) : script cmd.text = some cmd.list := by
  cases cmd with
  | virsh connURI args =>
    have htokens := tokens_shellJoin ("virsh" :: "-c" :: connURI :: args)
    have hparse : parseList {} (("virsh" :: "-c" :: connURI :: args).map quoted ++ []) = _ :=
      parseList_words ("virsh" :: "-c" :: connURI :: args)
    rw [List.append_nil] at hparse
    exact (script_of_tokens htokens).trans hparse
  | mkdir path =>
    have htokens := tokens_quote (tokens_word (tokens_sudo "mkdir" (by decide)) "-p" (by decide)) path
    have hhead : "sudo mkdir -p " = "sudo" ++ " " ++ "mkdir" ++ " " ++ "-p" ++ " " := by decide
    change script ("sudo mkdir -p " ++ shellQuote path) = _
    rw [hhead, script_of_tokens htokens]
    simp (disch := decide) [parseList_unquoted, RemoteCommand.list]
  | mount path size =>
    have hmount := tokens_word (tokens_word (tokens_sudo "mount" (by decide)) "-t" (by decide)) "tmpfs"
      (by decide)
    change script (if size = "" then _ else _) = some (if size = "" then _ else _)
    split
    · have hhead : "sudo mount -t tmpfs tmpfs " =
          "sudo" ++ " " ++ "mount" ++ " " ++ "-t" ++ " " ++ "tmpfs" ++ " " ++ "tmpfs" ++ " " := by decide
      rw [hhead, script_of_tokens (tokens_quote (tokens_word hmount "tmpfs" (by decide)) path)]
      simp (disch := decide) [parseList_unquoted]
    · have hhead : "sudo mount -t tmpfs -o " =
          "sudo" ++ " " ++ "mount" ++ " " ++ "-t" ++ " " ++ "tmpfs" ++ " " ++ "-o" ++ " " := by decide
      have hmiddle : " tmpfs " = " " ++ "tmpfs" ++ " " := by decide
      have hsize := tokens_quote (tokens_word hmount "-o" (by decide)) ("size=" ++ size)
      rw [hhead, hmiddle, ← String.append_assoc, ← String.append_assoc,
        script_of_tokens (tokens_quote (tokens_word hsize "tmpfs" (by decide)) path)]
      simp (disch := decide) [parseList_unquoted]
  | umount path =>
    have htokens := tokens_discard (tokens_quote (tokens_sudo "umount" (by decide)) path)
    have hhead : "sudo umount " = "sudo" ++ " " ++ "umount" ++ " " := by decide
    have htail : " 2>/dev/null" = " " ++ "2>/dev/null" := by decide
    change script ("sudo umount " ++ shellQuote path ++ " 2>/dev/null") = _
    rw [hhead, htail, ← String.append_assoc, script_of_tokens htokens]
    simp (disch := decide) [parseList_unquoted, parseList_stderr_unquoted, RemoteCommand.list]
  | rmdir path =>
    have htokens := tokens_discard (tokens_quote (tokens_sudo "rmdir" (by decide)) path)
    have hhead : "sudo rmdir " = "sudo" ++ " " ++ "rmdir" ++ " " := by decide
    have htail : " 2>/dev/null" = " " ++ "2>/dev/null" := by decide
    change script ("sudo rmdir " ++ shellQuote path ++ " 2>/dev/null") = _
    rw [hhead, htail, ← String.append_assoc, script_of_tokens htokens]
    simp (disch := decide) [parseList_unquoted, parseList_stderr_unquoted, RemoteCommand.list]
  | installDir dir =>
    have hhead : "sudo install -d -m 0755 " =
        "sudo" ++ " " ++ "install" ++ " " ++ "-d" ++ " " ++ "-m" ++ " " ++ "0755" ++ " " := by decide
    have hmiddle : " && sudo chmod 0755 " =
        " " ++ "&&" ++ " " ++ "sudo" ++ " " ++ "chmod" ++ " " ++ "0755" ++ " " := by decide
    have hinstall := tokens_quote (tokens_word (tokens_word (tokens_word (tokens_sudo "install" (by decide))
      "-d" (by decide)) "-m" (by decide)) "0755" (by decide)) dir
    have hchmod := tokens_word (tokens_word (tokens_word (tokens_and hinstall) "sudo" (by decide)) "chmod"
      (by decide)) "0755" (by decide)
    have htokens := tokens_append hchmod (tokens_shellJoin (repairDirs dir))
    have hparse := @parseList_words { argv := ["sudo", "chmod", "0755"] } [] (repairDirs dir)
    rw [List.append_nil] at hparse
    change script ("sudo install -d -m 0755 " ++ shellQuote dir ++ " && sudo chmod 0755 " ++
      shellJoin (repairDirs dir)) = _
    rw [hhead, hmiddle]
    simp only [← String.append_assoc]
    rw [script_of_tokens htokens]
    simp (disch := decide) [parseList_unquoted, parseList_and, hparse, RemoteCommand.list]
  | tee path =>
    have hhead : "sudo tee " = "sudo" ++ " " ++ "tee" ++ " " := by decide
    have hmiddle : " > /dev/null && sudo chmod 0644 " = " " ++ ">" ++ " " ++ "/dev/null" ++ " " ++
        "&&" ++ " " ++ "sudo" ++ " " ++ "chmod" ++ " " ++ "0644" ++ " " := by decide
    have htee := tokens_word (tokens_into (tokens_quote (tokens_sudo "tee" (by decide)) path)) "/dev/null"
      (by decide)
    have hchmod := tokens_word (tokens_word (tokens_word (tokens_and htee) "sudo" (by decide)) "chmod"
      (by decide)) "0644" (by decide)
    change script ("sudo tee " ++ shellQuote path ++ " > /dev/null && sudo chmod 0644 " ++
      shellQuote path) = _
    rw [hhead, hmiddle]
    simp only [← String.append_assoc]
    rw [script_of_tokens (tokens_quote hchmod path)]
    simp (disch := decide) [parseList_unquoted, parseList_and, parseList_stdout_unquoted, RemoteCommand.list]
  | testExists path =>
    have hhead : "test -e " = "test" ++ " " ++ "-e" ++ " " := by decide
    have htail : " && echo present || echo missing" = " " ++ "&&" ++ " " ++ "echo" ++ " " ++ "present" ++
        " " ++ "||" ++ " " ++ "echo" ++ " " ++ "missing" := by decide
    have htest := tokens_quote (tokens_word (tokens_plain (s := "test") (by decide)) "-e" (by decide)) path
    have hpresent := tokens_word (tokens_word (tokens_and htest) "echo" (by decide)) "present" (by decide)
    have hmissing := tokens_word (tokens_word (tokens_or hpresent) "echo" (by decide)) "missing" (by decide)
    change script ("test -e " ++ shellQuote path ++ " && echo present || echo missing") = _
    rw [hhead, htail]
    simp only [← String.append_assoc]
    rw [script_of_tokens hmissing]
    simp (disch := decide) [parseList_unquoted, parseList_and, parseList_or, RemoteCommand.list]
  | rm path =>
    have htokens := tokens_quote (tokens_word (tokens_sudo "rm" (by decide)) "-f" (by decide)) path
    have hhead : "sudo rm -f " = "sudo" ++ " " ++ "rm" ++ " " ++ "-f" ++ " " := by decide
    change script ("sudo rm -f " ++ shellQuote path) = _
    rw [hhead, script_of_tokens htokens]
    simp (disch := decide) [parseList_unquoted, RemoteCommand.list]
  | upload tmpFile =>
    have htokens := tokens_quote (tokens_into (tokens_plain (s := "cat") (by decide))) tmpFile
    have hhead : "cat > " = "cat" ++ " " ++ ">" ++ " " := by decide
    change script ("cat > " ++ shellQuote tmpFile) = _
    rw [hhead, script_of_tokens htokens]
    simp (disch := decide) [parseList_unquoted, parseList_stdout, RemoteCommand.list]
  | removeUpload tmpFile =>
    have htokens := tokens_quote (tokens_word (tokens_plain (s := "rm") (by decide)) "-f" (by decide)) tmpFile
    have hhead : "rm -f " = "rm" ++ " " ++ "-f" ++ " " := by decide
    change script ("rm -f " ++ shellQuote tmpFile) = _
    rw [hhead, script_of_tokens htokens]
    simp (disch := decide) [parseList_unquoted, RemoteCommand.list]

namespace Station

variable (s : Station) (daemon : Daemon)

def effect : RemoteCommand → Bytes → Except Failure Bytes × Station
  | .virsh connURI args, _ =>
    answer (if connURI = daemon.uri then s.runArgs daemon args
      else s.fail "error: failed to connect to the hypervisor")
  | .mkdir _, _ | .rmdir _, _ | .installDir _, _ => (.ok [], s)
  | .mount path _, _ => (.ok [], s.setMounts path (s.mounts path + 1))
  | .umount path, _ =>
    if s.mounts path = 0 then (.error (.exit "" "Process exited with status 1"), s)
    else (.ok [], s.setMounts path (s.mounts path - 1))
  | .tee path, stdin =>
    if s.mounts path = 0 then (.ok [], s.setFile path (some stdin)) else answer (s.fail "tee: Is a directory")
  | .testExists path, _ =>
    (.ok (echoed (if (s.files path).isSome ∨ s.mounts path ≠ 0 then "present" else "missing")), s)
  | .rm path, _ | .removeUpload path, _ =>
    if s.mounts path = 0 then (.ok [], s.setFile path none)
    else answer (s.fail "rm: cannot remove: Is a directory")
  | .upload tmpFile, stdin => (.ok [], s.write tmpFile stdin)

theorem session_text (cmd : RemoteCommand) (stdin : Bytes) :
    s.session daemon cmd.text stdin = s.effect daemon cmd stdin := by
  rw [session, script_text]
  change answer (cmd.list.run (runner daemon) s stdin) = _
  have hremove (argv : List String) (path : String) (hexec : s.exec daemon argv stdin =
      if s.mounts path = 0 then (s.setFile path none).succeed []
      else s.fail "rm: cannot remove: Is a directory") :
      answer ((⟨{ argv := argv }, []⟩ : AndOr).run (runner daemon) s stdin) = s.effect daemon (.rm path) stdin := by
    by_cases hmounts : s.mounts path = 0
    · simp [AndOr.run, Simple.run, runner, hexec, succeed, answer, effect, hmounts]
    · simp [AndOr.run, Simple.run, runner, hexec, fail, answer, effect, hmounts]
  cases cmd with
  | virsh connURI args => rfl
  | mkdir path => rfl
  | mount path size =>
    by_cases hsize : size = ""
    · rw [RemoteCommand.list, if_pos hsize]
      rfl
    · rw [RemoteCommand.list, if_neg hsize]
      rfl
  | umount path =>
    by_cases hmounts : s.mounts path = 0
    · have hexec : s.exec daemon ["sudo", "umount", path] stdin = s.fail "umount: not mounted." := if_pos hmounts
      simp [RemoteCommand.list, AndOr.run, Simple.run, runner, hexec, fail, write, answer, effect, hmounts]
    · have hexec : s.exec daemon ["sudo", "umount", path] stdin =
          (s.setMounts path (s.mounts path - 1)).succeed [] := if_neg hmounts
      simp [RemoteCommand.list, AndOr.run, Simple.run, runner, hexec, succeed, write, answer, effect, hmounts]
  | rmdir path => rfl
  | installDir dir => rfl
  | tee path =>
    have hchmod (after : Station) : after.exec daemon ["sudo", "chmod", "0644", path] [] = after.succeed [] := rfl
    by_cases hmounts : s.mounts path = 0
    · have hexec : s.exec daemon ["sudo", "tee", path] stdin = (s.setFile path (some stdin)).succeed stdin :=
        if_pos hmounts
      simp [RemoteCommand.list, AndOr.run, Simple.run, runner, hexec, hchmod, succeed, write, answer, effect,
        hmounts, continueWith, Connector.continues, Outcome.followedBy]
    · have hexec : s.exec daemon ["sudo", "tee", path] stdin = s.fail "tee: Is a directory" := if_neg hmounts
      simp [RemoteCommand.list, AndOr.run, Simple.run, runner, hexec, fail, write, answer, effect, hmounts,
        continueWith, Connector.continues]
  | testExists path =>
    have hecho (text : String) : s.exec daemon ["echo", text] [] = s.succeed (echoed text) := rfl
    by_cases hfound : (s.files path).isSome ∨ s.mounts path ≠ 0
    · have hexec : s.exec daemon ["test", "-e", path] stdin = s.succeed [] := if_pos hfound
      simp [RemoteCommand.list, AndOr.run, Simple.run, runner, hexec, hecho, succeed, answer, effect,
        if_pos hfound, continueWith, Connector.continues, Outcome.followedBy]
    · have hexec : s.exec daemon ["test", "-e", path] stdin = (⟨false, [], ""⟩, s) := if_neg hfound
      simp [RemoteCommand.list, AndOr.run, Simple.run, runner, hexec, hecho, succeed, answer, effect,
        if_neg hfound, continueWith, Connector.continues, Outcome.followedBy]
  | rm path => exact hremove _ path rfl
  | upload tmpFile => rfl
  | removeUpload tmpFile => exact hremove _ tmpFile rfl

end Station

end Caplv.Libvirt
