import Caplv.Host.HealthCheck
import Caplv.Libvirt.Virsh
import Caplv.Program.Checked
import Caplv.Runes

namespace Caplv.Host

open Text Libvirt Program GoString

-- What runVirsh returns of the bytes a command has printed.
def virshOutput (args : List String) : Except Failure Bytes → Except GoError GoString
  | .ok stdout => .ok (trim (decode stdout))
  | .error failure => .error (virshFailure args failure)

-- The two parts of a line with a colon; the loops continue with the next line otherwise.
def keyValue (line : GoString) : Except Panic (Option (GoString × GoString)) := do
  let parts := splitN2 line .colon
  if parts.length ≠ 2 then .ok none
  else do
    let key ← index parts 0
    let val ← index parts 1
    .ok (some (trim key, trim val))

-- The keys GetNodeInfo looks for, and the width it parses their values with.
inductive NodeField where
  | sockets
  | cores
  | threads
  | memory
  | cpus
deriving DecidableEq, Repr

namespace NodeField

def key : NodeField → String
  | .sockets => "CPU socket(s)"
  | .cores => "Core(s) per socket"
  | .threads => "Thread(s) per core"
  | .memory => "Memory size"
  | .cpus => "CPU(s)"

def bitSize : NodeField → Nat
  | .memory => 64
  | _ => 32

def all : List NodeField := [.sockets, .cores, .threads, .memory, .cpus]

def named (key : GoString) : Option NodeField := all.find? fun field => key = ofString field.key

end NodeField

structure Scan where
  sockets : Int64
  cores : Int64
  threads : Int64
  info : NodeInfo
deriving DecidableEq

namespace Scan

def start : Scan := ⟨0, 0, 0, ⟨0, 0⟩⟩

def assign (scan : Scan) (value : Int64) : NodeField → Scan
  | .sockets => { scan with sockets := value }
  | .cores => { scan with cores := value }
  | .threads => { scan with threads := value }
  | .memory => { scan with info.memoryKB := value }
  | .cpus => { scan with info.cpus := value.toInt32 }

-- The switch over the keys. Errors of ParseInt are dropped and its value is kept.
def record (scan : Scan) (key val : GoString) : Scan :=
  match NodeField.named key with
  | some field => scan.assign (Int64.ofInt (parseInt val field.bitSize).1) field
  | none => scan

def readLine (scan : Scan) (line : GoString) : Except Panic Scan := do
  match ← keyValue line with
  | none => .ok scan
  | some (key, val) => do
      let val ← index (fields val) 0
      .ok (scan.record key val)

-- The product is preferred if all of its factors are there.
def nodeInfo (scan : Scan) : NodeInfo :=
  if 0 < scan.sockets ∧ 0 < scan.cores ∧ 0 < scan.threads then
    { scan.info with cpus := (scan.sockets * scan.cores * scan.threads).toInt32 }
  else scan.info

end Scan

def getNodeInfo (reply : Except Failure Bytes) : Except Panic (Except GoError NodeInfo) :=
  match virshOutput ["nodeinfo"] reply with
  | .error err => .ok (.error err)
  | .ok output => do
      let scan ← (lines output).foldlM Scan.readLine .start
      .ok (.ok scan.nodeInfo)

-- A DomainInfo whose texts may hold any bytes.
structure DomainReport where
  name : String
  uuid : GoString
  state : GoString
deriving DecidableEq

def DomainReport.readLine (report : DomainReport) (line : GoString) : Except Panic DomainReport := do
  match ← keyValue line with
  | none => .ok report
  | some (key, val) =>
    if key = ofString "UUID" then .ok { report with uuid := val }
    else if key = ofString "State" then .ok { report with state := val }
    else .ok report

def getDomain (name : String) (reply : Except Failure Bytes) :
    Except Panic (Except GoError DomainReport) :=
  match virshOutput ["dominfo", name] reply with
  | .error err => .ok (.error err)
  | .ok output => do
      let report ← (lines output).foldlM DomainReport.readLine ⟨name, [], []⟩
      .ok (.ok report)

-- strings.CutPrefix.
def cutHead (line head : GoString) : Except Panic (Option GoString) :=
  if head.isPrefixOf line then do
    let rest ← slice line head.length line.length
    .ok (some rest)
  else .ok none

-- The loop returns at the first line with a state.
def poolState : List GoString → Except Panic (Option GoString)
  | [] => .ok none
  | line :: rest => do
      match ← cutHead line (ofString "State:") with
      | some state => .ok (some state)
      | none => poolState rest

def poolIsActive (name : String) (reply : Except Failure Bytes) :
    Except Panic (Except GoError Bool) :=
  match virshOutput ["pool-info", name] reply with
  | .error err => .ok (.error err)
  | .ok output => do
      match ← poolState (lines output) with
      | some state => .ok (.ok (trim state == ofString "running"))
      | none => .ok (.ok false)

-- The value after the first colon is missing or white space.
def BlankValue (line : GoString) : Prop :=
  ∃ key value, line = key ++ .colon :: value ∧ .colon ∉ key ∧ ∀ r ∈ value, r.isSpace = true

section Lines

variable {line key value : GoString}

theorem keyValue_of_not_mem (h : .colon ∉ line) : keyValue line = .ok none := by
  rw [keyValue, splitN2_of_not_mem h]
  rfl

theorem keyValue_append (h : .colon ∉ key) :
    keyValue (key ++ .colon :: value) = .ok (some (trim key, trim value)) := by
  rw [keyValue, splitN2_append h]
  rfl

theorem colon_cases (line : GoString) :
    .colon ∉ line ∨ ∃ key value, line = key ++ .colon :: value ∧ .colon ∉ key := by
  by_cases h : .colon ∈ line
  · exact .inr (List.eq_append_cons_of_mem h)
  · exact .inl h

theorem keyValue_ok (line : GoString) : ∃ entry, keyValue line = .ok entry := by
  rcases colon_cases line with h | ⟨key, value, rfl, h⟩
  · exact ⟨none, keyValue_of_not_mem h⟩
  · exact ⟨_, keyValue_append h⟩

theorem append_colon_inj {key' value' : GoString} (h : .colon ∉ key) (h' : .colon ∉ key')
    (heq : key ++ .colon :: value = key' ++ .colon :: value') : key = key' ∧ value = value' := by
  have hsplit : splitN2 (key ++ .colon :: value) .colon = [key, value] := splitN2_append h
  rw [heq, splitN2_append h'] at hsplit
  simp only [List.cons.injEq, and_true] at hsplit
  exact ⟨hsplit.1.symm, hsplit.2.symm⟩

theorem blankValue_append_iff (h : .colon ∉ key) :
    BlankValue (key ++ .colon :: value) ↔ ∀ r ∈ value, r.isSpace = true := by
  constructor
  · rintro ⟨key', value', heq, h', hblank⟩
    obtain ⟨-, rfl⟩ := append_colon_inj h h' heq
    exact hblank
  · intro hblank
    exact ⟨key, value, rfl, h, hblank⟩

theorem readLine_append (scan : Scan) (h : .colon ∉ key) :
    scan.readLine (key ++ .colon :: value) =
      (index (fields value) 0).map fun val => scan.record (trim key) val := by
  rw [Scan.readLine, keyValue_append h]
  change (index (fields (trim value)) 0 >>= fun val => Except.ok (scan.record (trim key) val)) = _
  rw [fields_trim]
  rfl

theorem readLine_of_not_mem (scan : Scan) (h : .colon ∉ line) : scan.readLine line = .ok scan := by
  rw [Scan.readLine, keyValue_of_not_mem h]
  rfl

theorem readLine_ok_iff (scan : Scan) (line : GoString) :
    (∃ after, scan.readLine line = .ok after) ↔ ¬ BlankValue line := by
  rcases colon_cases line with h | ⟨key, value, rfl, h⟩
  · refine iff_of_true ⟨scan, readLine_of_not_mem scan h⟩ ?_
    rintro ⟨key, value, rfl, -, -⟩
    exact h (by simp)
  · rw [readLine_append scan h, blankValue_append_iff h, ← fields_eq_nil_iff]
    cases hfields : fields value with
    | nil => simp [index, Except.map]
    | cons word rest => simp [index, Except.map]

end Lines

section Loops

variable {α σ : Type}

theorem foldlM_ok_iff {body : σ → α → Except Panic σ} {fine : α → Prop}
    (hbody : ∀ state item, (∃ after, body state item = .ok after) ↔ fine item) (items : List α) (state : σ) :
    (∃ after, items.foldlM body state = .ok after) ↔ ∀ item ∈ items, fine item := by
  induction items generalizing state with
  | nil => exact iff_of_true ⟨state, rfl⟩ nofun
  | cons item rest ih =>
    rw [List.foldlM_cons, List.forall_mem_cons, ← hbody state item]
    cases hitem : body state item with
    | error kind => exact iff_of_false nofun (by simp)
    | ok after =>
      rw [← ih after]
      exact (and_iff_right ⟨after, rfl⟩).symm

theorem poolState_ok (items : List GoString) : ∃ state, poolState items = .ok state := by
  induction items with
  | nil => exact ⟨none, rfl⟩
  | cons line rest ih =>
    rw [poolState, cutHead]
    split
    · rename_i hhead
      have hlength := (List.isPrefixOf_iff_prefix.mp hhead).length_le
      rw [slice_of_le hlength le_rfl]
      exact ⟨_, rfl⟩
    · exact ih

end Loops

section Trimmed

variable {r : Rune}

theorem ne_colon_of_isSpace (hr : r.isSpace = true) : .colon ≠ r := by
  rintro rfl
  rw [Rune.isSpace_colon] at hr
  cases hr

theorem readLine_cons_space (scan : Scan) (hr : r.isSpace = true) (line : GoString) :
    scan.readLine (r :: line) = scan.readLine line := by
  rcases colon_cases line with h | ⟨key, value, rfl, h⟩
  · have hcons : .colon ∉ r :: line := List.not_mem_cons_of_ne_of_not_mem (ne_colon_of_isSpace hr) h
    rw [readLine_of_not_mem scan h, readLine_of_not_mem scan hcons]
  · have hcons : .colon ∉ r :: key := List.not_mem_cons_of_ne_of_not_mem (ne_colon_of_isSpace hr) h
    rw [readLine_append scan h, ← List.cons_append, readLine_append scan hcons, trim_cons_space hr]

theorem readLine_concat_space (scan : Scan) (hr : r.isSpace = true) (line : GoString) :
    scan.readLine (line ++ [r]) = scan.readLine line := by
  rcases colon_cases line with h | ⟨key, value, rfl, h⟩
  · have hconcat : .colon ∉ line ++ [r] := by
      simp only [List.mem_append, List.mem_singleton, not_or]
      exact ⟨h, ne_colon_of_isSpace hr⟩
    rw [readLine_of_not_mem scan h, readLine_of_not_mem scan hconcat]
  · have hvalue : fields (value ++ [r]) = fields value := fields_append_spaces (by simpa using hr) value
    rw [readLine_append scan h, List.append_assoc, List.cons_append, readLine_append scan h, hvalue]

theorem readLine_nil (scan : Scan) : scan.readLine [] = .ok scan := readLine_of_not_mem scan List.not_mem_nil

theorem foldlM_lines_cons (scan : Scan) (hr : r.isSpace = true) (s : GoString) :
    (lines (r :: s)).foldlM Scan.readLine scan = (lines s).foldlM Scan.readLine scan := by
  rw [lines_cons]
  split
  · rw [List.foldlM_cons, readLine_nil]
    rfl
  · obtain ⟨line, rest, hlines⟩ := List.exists_cons_of_ne_nil (lines_ne_nil s)
    rw [hlines, List.modifyHead_cons, List.foldlM_cons, List.foldlM_cons, readLine_cons_space scan hr]

theorem foldlM_lines_concat (scan : Scan) (hr : r.isSpace = true) (s : GoString) :
    (lines (s ++ [r])).foldlM Scan.readLine scan = (lines s).foldlM Scan.readLine scan := by
  have hlast (after : Scan) (line line' : GoString) (hsame : after.readLine line' = after.readLine line) :
      [line'].foldlM Scan.readLine after = [line].foldlM Scan.readLine after := by
    rw [List.foldlM_cons, List.foldlM_cons, hsame]
  by_cases hnewline : r = .newline
  · subst hnewline
    rw [lines_concat_newline, List.foldlM_append]
    have hblank (after : Scan) : [[]].foldlM Scan.readLine after = .ok after := by
      rw [List.foldlM_cons, readLine_nil]
      rfl
    simp only [hblank]
    exact bind_pure _
  · obtain ⟨before, last, hlines, hconcat⟩ := lines_concat hnewline s
    rw [hlines, hconcat, List.foldlM_append, List.foldlM_append]
    congr 1
    funext after
    exact hlast after last (last ++ [r]) (readLine_concat_space after hr last)

theorem foldlM_lines_trim (scan : Scan) (s : GoString) :
    (lines (trim s)).foldlM Scan.readLine scan = (lines s).foldlM Scan.readLine scan := by
  have hright (t : GoString) :
      (lines (t.rdropWhile Rune.isSpace)).foldlM Scan.readLine scan = (lines t).foldlM Scan.readLine scan := by
    induction t using List.reverseRecOn with
    | nil => rfl
    | append_singleton t r ih =>
      rw [List.rdropWhile_concat]
      split
      · rename_i hr
        rw [ih, foldlM_lines_concat scan hr]
      · rfl
  rw [trim, hright]
  induction s with
  | nil => rfl
  | cons r rest ih =>
    rw [List.dropWhile_cons]
    split
    · rename_i hr
      rw [ih, foldlM_lines_cons scan hr]
    · rfl

end Trimmed

theorem getNodeInfo_ok (stdout : Bytes) :
    getNodeInfo (.ok stdout) = ((lines (decode stdout)).foldlM Scan.readLine .start).map
      fun scan => .ok scan.nodeInfo := by
  rw [← foldlM_lines_trim]
  rfl

theorem getNodeInfo_in_bounds_iff (stdout : Bytes) :
    (∃ result, getNodeInfo (.ok stdout) = .ok result) ↔ ∀ line ∈ lines (decode stdout), ¬ BlankValue line := by
  rw [getNodeInfo_ok, ← foldlM_ok_iff readLine_ok_iff _ Scan.start]
  cases (lines (decode stdout)).foldlM Scan.readLine .start with
  | error kind => exact iff_of_false nofun nofun
  | ok scan => exact iff_of_true ⟨_, rfl⟩ ⟨_, rfl⟩

theorem DomainReport.readLine_ok (report : DomainReport) (line : GoString) :
    ∃ after, report.readLine line = .ok after := by
  obtain ⟨entry, hentry⟩ := keyValue_ok line
  rw [DomainReport.readLine, hentry]
  cases entry with
  | none => exact ⟨_, rfl⟩
  | some entry =>
    change ∃ after, (if entry.1 = _ then _ else if entry.1 = _ then _ else _) = Except.ok after
    split
    · exact ⟨_, rfl⟩
    · split <;> exact ⟨_, rfl⟩

theorem getDomain_ok (name : String) (stdout : Bytes) :
    ∃ report, getDomain name (.ok stdout) = .ok (.ok report) := by
  have hbody (report : DomainReport) (line : GoString) :
      (∃ after, report.readLine line = .ok after) ↔ True :=
    iff_true_intro (report.readLine_ok line)
  obtain ⟨report, hreport⟩ := (foldlM_ok_iff hbody (lines (trim (decode stdout))) ⟨name, [], []⟩).mpr
    fun _ _ => trivial
  refine ⟨report, ?_⟩
  change ((lines (trim (decode stdout))).foldlM _ _ >>= _) = _
  rw [hreport]
  rfl

-- For every output: GetDomain and PoolIsActive stay in bounds, and GetNodeInfo does exactly if
-- no line has a colon with nothing but white space after it.
theorem parsers_in_bounds_iff (stdout : Bytes) :
    ((∃ result, getNodeInfo (.ok stdout) = .ok result) ↔ ∀ line ∈ lines (decode stdout), ¬ BlankValue line) ∧
    (∀ name, ∃ result, getDomain name (.ok stdout) = .ok result) ∧
    ∀ name, ∃ result, poolIsActive name (.ok stdout) = .ok result := by
  refine ⟨getNodeInfo_in_bounds_iff stdout, fun name => ?_, fun name => ?_⟩
  · obtain ⟨report, hreport⟩ := getDomain_ok name stdout
    exact ⟨.ok report, hreport⟩
  · obtain ⟨state, hstate⟩ := poolState_ok (lines (trim (decode stdout)))
    change ∃ result, (poolState (lines (trim (decode stdout))) >>= _) = Except.ok result
    rw [hstate]
    cases state with
    | none => exact ⟨_, rfl⟩
    | some state => exact ⟨_, rfl⟩

def valuelessOutput : Bytes := "CPU model:
".toUTF8.toList

theorem valueless_output_panics : getNodeInfo (.ok valuelessOutput) = .error .outOfRange := by
  decide +kernel

end Caplv.Host
