import Caplv.Text
import Caplv.Shell.Lexer

namespace Caplv.Libvirt

open Text Shell

def shellJoin (args : List String) : String := String.intercalate " " (args.map shellQuote)

def hostRunDir : String := "/run/caplv"

-- The directories whose mode WriteRemoteFile repairs.
def repairDirs (dir : String) : List String :=
  if hasPrefix dir (hostRunDir ++ "/") then [dir, hostRunDir] else [dir]

-- The command texts the client hands to the shell of the host.
inductive RemoteCommand where
  | virsh (connURI : String) (args : List String)
  | mkdir (path : String)
  | mount (path size : String)
  | umount (path : String)
  | rmdir (path : String)
  | installDir (dir : String)
  | tee (path : String)
  | testExists (path : String)
  | rm (path : String)
  | upload (tmpFile : String)
  | removeUpload (tmpFile : String)
deriving DecidableEq, Repr

namespace RemoteCommand

def text : RemoteCommand → String
  | .virsh connURI args => shellJoin (["virsh", "-c", connURI] ++ args)
  | .mkdir path => "sudo mkdir -p " ++ shellQuote path
  | .mount path size =>
    if size = "" then "sudo mount -t tmpfs tmpfs " ++ shellQuote path
    else "sudo mount -t tmpfs -o " ++ shellQuote ("size=" ++ size) ++ " tmpfs " ++ shellQuote path
  | .umount path => "sudo umount " ++ shellQuote path ++ " 2>/dev/null"
  | .rmdir path => "sudo rmdir " ++ shellQuote path ++ " 2>/dev/null"
  | .installDir dir =>
    "sudo install -d -m 0755 " ++ shellQuote dir ++ " && sudo chmod 0755 " ++ shellJoin (repairDirs dir)
  | .tee path =>
    "sudo tee " ++ shellQuote path ++ " > /dev/null && sudo chmod 0644 " ++ shellQuote path
  | .testExists path => "test -e " ++ shellQuote path ++ " && echo present || echo missing"
  | .rm path => "sudo rm -f " ++ shellQuote path
  | .upload tmpFile => "cat > " ++ shellQuote tmpFile
  | .removeUpload tmpFile => "rm -f " ++ shellQuote tmpFile

def intended : RemoteCommand → List SimpleCommand
  | .virsh connURI args => [⟨"virsh" :: "-c" :: connURI :: args, []⟩]
  | .mkdir path => [⟨["sudo", "mkdir", "-p", path], []⟩]
  | .mount path size =>
    if size = "" then [⟨["sudo", "mount", "-t", "tmpfs", "tmpfs", path], []⟩]
    else [⟨["sudo", "mount", "-t", "tmpfs", "-o", "size=" ++ size, "tmpfs", path], []⟩]
  | .umount path => [⟨["sudo", "umount", path], ["/dev/null"]⟩]
  | .rmdir path => [⟨["sudo", "rmdir", path], ["/dev/null"]⟩]
  | .installDir dir =>
    [⟨["sudo", "install", "-d", "-m", "0755", dir], []⟩, ⟨["sudo", "chmod", "0755"] ++ repairDirs dir, []⟩]
  | .tee path => [⟨["sudo", "tee", path], ["/dev/null"]⟩, ⟨["sudo", "chmod", "0644", path], []⟩]
  | .testExists path => [⟨["test", "-e", path], []⟩, ⟨["echo", "present"], []⟩, ⟨["echo", "missing"], []⟩]
  | .rm path => [⟨["sudo", "rm", "-f", path], []⟩]
  | .upload tmpFile => [⟨["cat"], [tmpFile]⟩]
  | .removeUpload tmpFile => [⟨["rm", "-f", tmpFile], []⟩]

end RemoteCommand

section Quoting

variable {rest : List Char}

def escapeQuote (c : Char) : List Char := if c = '\'' then ['\'', '\\', '\'', '\''] else [c]

theorem shellQuote_toList (s : String) :
    (shellQuote s).toList = '\'' :: s.toList.flatMap escapeQuote ++ ['\''] := by
  rw [shellQuote]
  split
  · rename_i hempty
    subst hempty
    rfl
  · simp
    rfl

-- Inside the quotes every character stands for itself; a quote closes them, is escaped and
-- opens them again.
theorem read_escaped (chars : List Char) (current : Word) :
    read (.single current) (chars.flatMap escapeQuote ++ '\'' :: rest) =
      read (.plain (some (current ++ chars.map fun c => (c, true)))) rest := by
  induction chars generalizing current with
  | nil =>
    rw [List.map_nil, List.append_nil]
    exact read_cons_of_silent rfl
  | cons c chars ih =>
    have hnext := ih (push current c true)
    rw [push, Option.getD_some, List.append_assoc] at hnext
    rw [List.flatMap_cons, List.map_cons, List.append_assoc]
    by_cases hc : c = '\''
    · subst hc
      have hclose : step (.single current) '\'' = some ([], .plain (some current)) := rfl
      have hescape : step (.plain (some current)) '\\' = some ([], .backslash (some current)) := rfl
      have hquote : step (.backslash (some current)) '\'' =
          some ([], .plain (some (push current '\'' true))) := rfl
      have hopen : step (.plain (some (push current '\'' true))) '\'' =
          some ([], .single (push current '\'' true)) := rfl
      change read _ ('\'' :: '\\' :: '\'' :: '\'' :: _) = _
      rw [read_cons_of_silent hclose, read_cons_of_silent hescape, read_cons_of_silent hquote,
        read_cons_of_silent hopen]
      exact hnext
    · have hplain : step (.single current) c = some ([], .single (push current c true)) := if_neg hc
      rw [escapeQuote, if_neg hc, List.singleton_append, read_cons_of_silent hplain]
      exact hnext

theorem read_shellQuote (s : String) :
    read (.plain none) ((shellQuote s).toList ++ rest) =
      read (.plain (some (s.toList.map fun c => (c, true)))) rest := by
  have hopen : step (.plain none) '\'' = some ([], .single []) := rfl
  rw [shellQuote_toList, List.cons_append, List.cons_append, List.append_assoc, read_cons_of_silent hopen]
  exact read_escaped s.toList []

theorem tokens_shellQuote (s : String) : tokens (shellQuote s) = some [quoted s] := by
  rw [tokens, ← List.append_nil (shellQuote s).toList, read_shellQuote]
  rfl

theorem tokens_shellJoin (args : List String) : tokens (shellJoin args) = some (args.map quoted) := by
  induction args with
  | nil => rfl
  | cons arg rest ih =>
    cases rest with
    | nil => exact tokens_shellQuote arg
    | cons next rest =>
      have hjoin : shellJoin (arg :: next :: rest) = shellQuote arg ++ " " ++ shellJoin (next :: rest) :=
        String.intercalate_cons_cons
      rw [hjoin, tokens_append (tokens_shellQuote arg) ih]
      rfl

end Quoting

section Reads

variable {text : String} {done : List SimpleCommand} {command : SimpleCommand}

theorem reads_shellJoin (h : Reads text done command) (args : List String) :
    Reads (text ++ " " ++ shellJoin args) done { command with argv := command.argv ++ args } :=
  h.extend (tokens_shellJoin args) fun _ => parse_quoted_args args

theorem reads_shellQuote (h : Reads text done command) (s : String) :
    Reads (text ++ " " ++ shellQuote s) done { command with argv := command.argv ++ [s] } :=
  h.extend (tokens_shellQuote s) fun _ => parse_word (literal?_quoted s)

-- Standard error is thrown away.
theorem reads_discard (h : Reads text done command) : Reads (text ++ " " ++ "2>/dev/null") done
    { command with redirects := command.redirects ++ ["/dev/null"] } := by
  have htokens : tokens "2>/dev/null" =
      some [.ioNumber [('2', false)], .operator ['>'], unquoted "/dev/null"] := by
    decide
  refine h.extend htokens fun rest => ?_
  exact parse_redirect (literal?_unquoted (by decide))

end Reads

theorem commands_virsh (connURI : String) (args : List String) :
    commands (RemoteCommand.virsh connURI args).text = some (RemoteCommand.virsh connURI args).intended := by
  have hparse : parse {} (("virsh" :: "-c" :: connURI :: args).map quoted ++ []) = _ :=
    parse_quoted_args ("virsh" :: "-c" :: connURI :: args)
  rw [List.append_nil] at hparse
  have htokens := tokens_shellJoin ("virsh" :: "-c" :: connURI :: args)
  have htext : (RemoteCommand.virsh connURI args).text = shellJoin ("virsh" :: "-c" :: connURI :: args) := rfl
  rw [htext, commands, htokens, Option.bind_eq_bind, Option.bind_some, hparse]
  rfl

theorem sudo_reads (s : String) (hplain : isPlain s = true) :
    Reads ("sudo" ++ " " ++ s) [] ⟨["sudo", s], []⟩ :=
  (Reads.start "sudo" (by decide)).word s hplain

-- Whatever names, paths, sizes and URIs a command is built from, the host runs what was meant.
theorem commands_text (cmd : RemoteCommand) : commands cmd.text = some cmd.intended := by
  cases cmd with
  | virsh connURI args => exact commands_virsh connURI args
  | mkdir path =>
    have hhead : "sudo mkdir -p " = "sudo" ++ " " ++ "mkdir" ++ " " ++ "-p" ++ " " := by decide
    have hreads := (sudo_reads "mkdir" (by decide)).word "-p" (by decide)
    change commands ("sudo mkdir -p " ++ shellQuote path) = _
    rw [hhead]
    exact (reads_shellQuote hreads path).commands
  | mount path size =>
    have hreads := ((sudo_reads "mount" (by decide)).word "-t" (by decide)).word "tmpfs" (by decide)
    change commands (if size = "" then _ else _) = some (if size = "" then _ else _)
    split
    · have hhead : "sudo mount -t tmpfs tmpfs " =
          "sudo" ++ " " ++ "mount" ++ " " ++ "-t" ++ " " ++ "tmpfs" ++ " " ++ "tmpfs" ++ " " := by decide
      rw [hhead]
      exact (reads_shellQuote (hreads.word "tmpfs" (by decide)) path).commands
    · have hhead : "sudo mount -t tmpfs -o " =
          "sudo" ++ " " ++ "mount" ++ " " ++ "-t" ++ " " ++ "tmpfs" ++ " " ++ "-o" ++ " " := by decide
      have hmiddle : " tmpfs " = " " ++ "tmpfs" ++ " " := by decide
      have hsize := reads_shellQuote (hreads.word "-o" (by decide)) ("size=" ++ size)
      rw [hhead, hmiddle, ← String.append_assoc, ← String.append_assoc]
      exact (reads_shellQuote (hsize.word "tmpfs" (by decide)) path).commands
  | umount path =>
    have hhead : "sudo umount " = "sudo" ++ " " ++ "umount" ++ " " := by decide
    have htail : " 2>/dev/null" = " " ++ "2>/dev/null" := by decide
    change commands ("sudo umount " ++ shellQuote path ++ " 2>/dev/null") = _
    rw [hhead, htail, ← String.append_assoc]
    exact (reads_discard (reads_shellQuote (sudo_reads "umount" (by decide)) path)).commands
  | rmdir path =>
    have hhead : "sudo rmdir " = "sudo" ++ " " ++ "rmdir" ++ " " := by decide
    have htail : " 2>/dev/null" = " " ++ "2>/dev/null" := by decide
    change commands ("sudo rmdir " ++ shellQuote path ++ " 2>/dev/null") = _
    rw [hhead, htail, ← String.append_assoc]
    exact (reads_discard (reads_shellQuote (sudo_reads "rmdir" (by decide)) path)).commands
  | installDir dir =>
    have hhead : "sudo install -d -m 0755 " =
        "sudo" ++ " " ++ "install" ++ " " ++ "-d" ++ " " ++ "-m" ++ " " ++ "0755" ++ " " := by decide
    have hmiddle : " && sudo chmod 0755 " =
        " " ++ "&&" ++ " " ++ "sudo" ++ " " ++ "chmod" ++ " " ++ "0755" ++ " " := by decide
    have hreads := (((sudo_reads "install" (by decide)).word "-d" (by decide)).word "-m"
      (by decide)).word "0755" (by decide)
    have hchmod := (((reads_shellQuote hreads dir).and.word "sudo" (by decide)).word "chmod"
      (by decide)).word "0755" (by decide)
    change commands ("sudo install -d -m 0755 " ++ shellQuote dir ++ " && sudo chmod 0755 " ++
      shellJoin (repairDirs dir)) = _
    rw [hhead, hmiddle]
    simp only [← String.append_assoc]
    exact (reads_shellJoin hchmod (repairDirs dir)).commands
  | tee path =>
    have hhead : "sudo tee " = "sudo" ++ " " ++ "tee" ++ " " := by decide
    have hmiddle : " > /dev/null && sudo chmod 0644 " = " " ++ (">" ++ " " ++ "/dev/null") ++ " " ++
        "&&" ++ " " ++ "sudo" ++ " " ++ "chmod" ++ " " ++ "0644" ++ " " := by decide
    have hreads := (reads_shellQuote (sudo_reads "tee" (by decide)) path).redirect
      (tokens_plain (by decide)) (literal?_unquoted (s := "/dev/null") (by decide))
    have hchmod := ((hreads.and.word "sudo" (by decide)).word "chmod" (by decide)).word "0644" (by decide)
    have hall := (reads_shellQuote hchmod path).commands
    change commands ("sudo tee " ++ shellQuote path ++ " > /dev/null && sudo chmod 0644 " ++
      shellQuote path) = _
    rw [hhead, hmiddle]
    simp only [← String.append_assoc] at hall ⊢
    exact hall
  | testExists path =>
    have hhead : "test -e " = "test" ++ " " ++ "-e" ++ " " := by decide
    have htail : " && echo present || echo missing" = " " ++ "&&" ++ " " ++ "echo" ++ " " ++ "present" ++
        " " ++ "||" ++ " " ++ "echo" ++ " " ++ "missing" := by decide
    have hreads := reads_shellQuote ((Reads.start "test" (by decide)).word "-e" (by decide)) path
    have hfound := (hreads.and.word "echo" (by decide)).word "present" (by decide)
    change commands ("test -e " ++ shellQuote path ++ " && echo present || echo missing") = _
    rw [hhead, htail]
    simp only [← String.append_assoc]
    exact ((hfound.or.word "echo" (by decide)).word "missing" (by decide)).commands
  | rm path =>
    have hhead : "sudo rm -f " = "sudo" ++ " " ++ "rm" ++ " " ++ "-f" ++ " " := by decide
    have hreads := (sudo_reads "rm" (by decide)).word "-f" (by decide)
    change commands ("sudo rm -f " ++ shellQuote path) = _
    rw [hhead]
    exact (reads_shellQuote hreads path).commands
  | upload tmpFile =>
    have hhead : "cat > " = "cat" ++ " " ++ (">" ++ " ") := by decide
    have hall := ((Reads.start "cat" (by decide)).redirect (tokens_shellQuote tmpFile)
      (literal?_quoted tmpFile)).commands
    change commands ("cat > " ++ shellQuote tmpFile) = _
    rw [hhead]
    simp only [← String.append_assoc] at hall ⊢
    exact hall
  | removeUpload tmpFile =>
    have hhead : "rm -f " = "rm" ++ " " ++ "-f" ++ " " := by decide
    have hreads := (Reads.start "rm" (by decide)).word "-f" (by decide)
    change commands ("rm -f " ++ shellQuote tmpFile) = _
    rw [hhead]
    exact (reads_shellQuote hreads tmpFile).commands

theorem literals_quoted (args : List String) : (args.map quoted).mapM Token.literal? = some args := by
  induction args with
  | nil => rfl
  | cons arg args ih => simp [literal?_quoted, ih]

-- A joined argument list is read back as it was, one word for each argument and nothing else;
-- a quoted text between blanks is one word of any command; and every command of the client
-- runs with the arguments it was built from.
theorem shell_reads_what_was_built :
    (∀ args, (tokens (shellJoin args)).bind (List.mapM Token.literal?) = some args) ∧
    (∀ s head tail out more, tokens head = some out → tokens tail = some more →
      ∃ token, token.literal? = some s ∧
        tokens (head ++ " " ++ shellQuote s ++ " " ++ tail) = some (out ++ [token] ++ more)) ∧
    ∀ cmd : RemoteCommand, commands cmd.text = some cmd.intended := by
  refine ⟨fun args => ?_, fun s head tail out more hhead htail => ?_, commands_text⟩
  · rw [tokens_shellJoin, Option.bind_some, literals_quoted]
  · exact ⟨quoted s, literal?_quoted s, tokens_append (tokens_append hhead (tokens_shellQuote s)) htail⟩

-- An argument that closes the quotes and starts a command of its own.
example : (tokens (shellJoin ["vol-info", "a'; rm -rf \"$HOME\" #", ""])).bind (List.mapM Token.literal?) =
    some ["vol-info", "a'; rm -rf \"$HOME\" #", ""] := by
  decide

end Caplv.Libvirt
