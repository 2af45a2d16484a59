import Caplv.Host.Output

namespace Caplv.Host

open Text Libvirt Program GoString

-- The line has this key, and the word is the first of its value.
def HasField (line : GoString) (key : String) (word : GoString) : Prop :=
  ∃ head value, line = head ++ .colon :: value ∧ .colon ∉ head ∧ trim head = ofString key ∧
    (fields value).head? = some word

def Unread (line : GoString) : Prop :=
  ∀ head value, line = head ++ .colon :: value → .colon ∉ head → ∀ field : NodeField, trim head ≠ ofString field.key

-- What the lines say of each field, over the integers: the last one counts.
inductive Reading : (NodeField → Int) → List GoString → (NodeField → Int) → Prop where
  | done (counts : NodeField → Int) : Reading counts [] counts
  | field {counts final : NodeField → Int} {line word : GoString} {rest : List GoString} {n : Int}
      (field : NodeField) (hline : HasField line field.key word)
      (hparse : parseInt word field.bitSize = (n, none)) (hn : 0 ≤ n)
      (hrest : Reading (Function.update counts field n) rest final) : Reading counts (line :: rest) final
  | unread {counts final : NodeField → Int} {line : GoString} {rest : List GoString} (hline : Unread line)
      (hrest : Reading counts rest final) : Reading counts (line :: rest) final

namespace NodeField

theorem key_injective {field other : NodeField} (h : ofString field.key = ofString other.key) : field = other := by
  revert h
  cases field <;> cases other <;> decide

theorem named_key (field : NodeField) : named (ofString field.key) = some field := by
  cases field <;> decide

theorem named_eq_none {key : GoString} (h : ∀ field : NodeField, key ≠ ofString field.key) : named key = none := by
  rw [named, List.find?_eq_none]
  intro field _
  simpa using h field

end NodeField

section Parsing

theorem signed_lt {negative : Bool} {bitSize : Nat} {un : Nat × Option NumError} {n : Int}
    (h : signed negative bitSize un = (n, none)) : n < 2 ^ (bitSize - 1) := by
  have hpow : (0 : Int) < 2 ^ (bitSize - 1) := Int.pow_pos (by decide)
  unfold signed at h
  cases negative with
  | false =>
    simp only [true_and, Bool.false_eq_true, false_and, if_false] at h
    split at h
    · cases h
    · split at h
      · cases h
      · rename_i hlt
        cases h
        push Not at hlt
        exact_mod_cast hlt
  | true =>
    simp only [Bool.true_eq_false, true_and, false_and, if_false, if_true] at h
    split at h
    · cases h
    · split at h
      · cases h
      · cases h
        omega

theorem parseInt_lt {word : GoString} {bitSize : Nat} {n : Int} (h : parseInt word bitSize = (n, none)) :
    n < 2 ^ (bitSize - 1) := by
  unfold parseInt at h
  split at h <;> exact signed_lt h

end Parsing

def InRange (counts : NodeField → Int) : Prop := ∀ field, 0 ≤ counts field ∧ counts field < 2 ^ (field.bitSize - 1)

theorem Reading.inRange {counts final : NodeField → Int} {text : List GoString} (h : Reading counts text final)
    (hcounts : InRange counts) : InRange final := by
  induction h with
  | done counts => exact hcounts
  | @field counts final line word rest n field hline hparse hn hrest ih =>
    apply ih
    intro other
    rcases eq_or_ne other field with rfl | hne
    · rw [Function.update_self]
      exact ⟨hn, parseInt_lt hparse⟩
    · rw [Function.update_of_ne hne]
      exact hcounts other
  | unread hline hrest ih => exact ih hcounts

structure Represents (scan : Scan) (counts : NodeField → Int) : Prop where
  sockets : scan.sockets.toInt = counts .sockets
  cores : scan.cores.toInt = counts .cores
  threads : scan.threads.toInt = counts .threads
  memory : scan.info.memoryKB.toInt = counts .memory
  cpus : scan.info.cpus.toInt = counts .cpus

theorem represents_start : Represents .start fun _ => 0 := by
  constructor <;> rfl

section Scanning

variable {scan : Scan} {counts : NodeField → Int} {line word : GoString}

theorem readLine_hasField (scan : Scan) {key : String} (h : HasField line key word) :
    scan.readLine line = .ok (scan.record (ofString key) word) := by
  obtain ⟨head, value, rfl, hcolon, hkey, hword⟩ := h
  rw [readLine_append scan hcolon, hkey]
  cases hfields : fields value with
  | nil => simp [hfields] at hword
  | cons first rest =>
    rw [hfields, List.head?_cons, Option.some.injEq] at hword
    rw [hword]
    rfl

theorem record_unread (scan : Scan) {key : GoString} (h : ∀ field : NodeField, key ≠ ofString field.key)
    (val : GoString) : scan.record key val = scan := by
  rw [Scan.record, NodeField.named_eq_none h]

theorem readLine_unread (scan : Scan) (h : Unread line) (hvalue : ¬ BlankValue line) :
    scan.readLine line = .ok scan := by
  rcases colon_cases line with hcolon | ⟨head, value, rfl, hcolon⟩
  · exact readLine_of_not_mem scan hcolon
  · rw [blankValue_append_iff hcolon, ← fields_eq_nil_iff] at hvalue
    obtain ⟨first, rest, hfields⟩ := List.exists_cons_of_ne_nil hvalue
    rw [readLine_append scan hcolon, hfields]
    exact congrArg Except.ok (record_unread scan (h head value rfl hcolon) first)

theorem Represents.assign (h : Represents scan counts) (field : NodeField) {n : Int} (hn : 0 ≤ n)
    (hlt : n < 2 ^ (field.bitSize - 1)) :
    Represents (scan.assign (Int64.ofInt n) field) (Function.update counts field n) := by
  have hwide : n < 2 ^ 63 := by
    refine Int.lt_of_lt_of_le hlt ?_
    cases field <;> decide
  have hvalue : (Int64.ofInt n).toInt = n := Int64.toInt_ofInt_of_le (by omega) hwide
  obtain ⟨hsockets, hcores, hthreads, hmemory, hcpus⟩ := h
  cases field with
  | cpus =>
    have hnarrow : (Int64.ofInt n).toInt32.toInt = n := by
      rw [Int64.toInt_toInt32, hvalue]
      exact Int.bmod_eq_of_le (by omega) hlt
    exact ⟨hsockets, hcores, hthreads, hmemory, hnarrow⟩
  | sockets | cores | threads | memory => constructor <;> simp [Scan.assign, Function.update, *]

theorem Reading.foldlM {text : List GoString} {final : NodeField → Int} (h : Reading counts text final)
    (hscan : Represents scan counts) (hvalues : ∀ line ∈ text, ¬ BlankValue line) :
    ∃ after, text.foldlM Scan.readLine scan = .ok after ∧ Represents after final := by
  induction h generalizing scan with
  | done counts => exact ⟨scan, rfl, hscan⟩
  | @field counts final line word rest n field hline hparse hn hrest ih =>
    have hrecord : scan.record (ofString field.key) word = scan.assign (Int64.ofInt n) field := by
      rw [Scan.record, NodeField.named_key]
      simp only [hparse]
    rw [List.foldlM_cons, readLine_hasField scan hline, hrecord]
    exact ih (hscan.assign field hn (parseInt_lt hparse)) fun other hother =>
      hvalues other (List.mem_cons_of_mem line hother)
  | @unread counts final line rest hline hrest ih =>
    rw [List.foldlM_cons, readLine_unread scan hline (hvalues line List.mem_cons_self)]
    exact ih hscan fun other hother => hvalues other (List.mem_cons_of_mem line hother)

end Scanning

-- The count of CPUs that the fields stand for.
def cpuCount (counts : NodeField → Int) : Int :=
  if 0 < counts .sockets ∧ 0 < counts .cores ∧ 0 < counts .threads then
    counts .sockets * counts .cores * counts .threads
  else counts .cpus

section Arithmetic

variable {scan : Scan} {counts : NodeField → Int}

theorem bmod_eq_self_iff {x : Int} (hx : 0 ≤ x) : x.bmod (2 ^ 32) = x ↔ x < 2 ^ 31 := by
  rw [Int.bmod_def]
  omega

theorem cpuCount_nonneg (hrange : InRange counts) : 0 ≤ cpuCount counts := by
  rw [cpuCount]
  split
  · have hsockets := (hrange .sockets).1
    have hcores := (hrange .cores).1
    have hthreads := (hrange .threads).1
    exact Int.mul_nonneg (Int.mul_nonneg hsockets hcores) hthreads
  · exact (hrange .cpus).1

-- The product wraps around twice, in 64 and then in 32 bits.
theorem Represents.nodeInfo_cpus (h : Represents scan counts) (hrange : InRange counts) :
    scan.nodeInfo.cpus.toInt = (cpuCount counts).bmod (2 ^ 32) := by
  have hpos : (0 < scan.sockets ∧ 0 < scan.cores ∧ 0 < scan.threads) ↔
      0 < counts .sockets ∧ 0 < counts .cores ∧ 0 < counts .threads := by
    rw [Int64.lt_iff_toInt_lt, Int64.lt_iff_toInt_lt, Int64.lt_iff_toInt_lt, Int64.toInt_zero, h.sockets,
      h.cores, h.threads]
  rw [Scan.nodeInfo, cpuCount, if_congr hpos rfl rfl]
  split
  · change (scan.sockets * scan.cores * scan.threads).toInt32.toInt = _
    rw [Int64.toInt_toInt32, Int64.toInt_mul, Int64.toInt_mul, Int.bmod_mul_bmod,
      Int.bmod_bmod_of_dvd (by decide), h.sockets, h.cores, h.threads]
  · obtain ⟨hnonneg, hlt⟩ := hrange .cpus
    rw [h.cpus]
    exact ((bmod_eq_self_iff hnonneg).mpr hlt).symm

theorem Represents.nodeInfo_memoryKB (h : Represents scan counts) :
    scan.nodeInfo.memoryKB.toInt = counts .memory := by
  rw [← h.memory, Scan.nodeInfo]
  split <;> rfl

theorem clamp_sub_eq {total reserve : Int32} (htotal : 0 ≤ total.toInt) (hreserve : 0 ≤ reserve.toInt) :
    (if total - reserve < 0 then 0 else total - reserve : Int32).toInt = max 0 (total.toInt - reserve.toInt) := by
  have htotalLt := Int32.toInt_lt total
  have hreserveLt := Int32.toInt_lt reserve
  have hdiff : (total - reserve).toInt = total.toInt - reserve.toInt := by
    rw [Int32.toInt_sub]
    exact Int.bmod_eq_of_le (by omega) (by omega)
  have hnegative : total - reserve < 0 ↔ total.toInt - reserve.toInt < 0 := by
    rw [Int32.lt_iff_toInt_lt, Int32.toInt_zero, hdiff]
  split
  · rename_i hlt
    rw [hnegative] at hlt
    rw [Int32.toInt_zero]
    omega
  · rename_i hge
    rw [hnegative] at hge
    rw [hdiff]
    omega

end Arithmetic

-- What is discovered and published, as it is over the integers.
structure Exact (counts : NodeField → Int) (reserved : ReservedResources) (info : NodeInfo)
    (capacity : Capacity) : Prop where
  cpus : info.cpus.toInt = cpuCount counts
  totalVCPUs : capacity.totalVCPUs.toInt = cpuCount counts
  totalMemoryMB : capacity.totalMemoryMB.toInt = counts .memory / 1024
  availableVCPUs : capacity.availableVCPUs.toInt = max 0 (cpuCount counts - reserved.vcpus.toInt)
  availableMemoryMB : capacity.availableMemoryMB.toInt = max 0 (counts .memory / 1024 - reserved.memoryMB.toInt)

theorem Represents.exact_iff {scan : Scan} {counts : NodeField → Int} (h : Represents scan counts)
    (hrange : InRange counts) (reserved : Option ReservedResources)
    (hvcpus : 0 ≤ (reservedFor reserved).vcpus.toInt) (hmemoryMB : 0 ≤ (reservedFor reserved).memoryMB.toInt) :
    Exact counts (reservedFor reserved) scan.nodeInfo (capacityFor reserved scan.nodeInfo) ↔
      cpuCount counts < 2 ^ 31 ∧ counts .memory < 2 ^ 41 := by
  have hcpus := h.nodeInfo_cpus hrange
  have hmemory := h.nodeInfo_memoryKB
  have hnonneg := (hrange .memory).1
  have htotal := totalMemoryMB_toInt reserved scan.nodeInfo (by omega)
  rw [hmemory] at htotal
  have hfits := bmod_eq_self_iff (cpuCount_nonneg hrange)
  have hmemoryFits := bmod_eq_self_iff (x := counts .memory / 1024) (by omega)
  constructor
  · intro hexact
    have hcount := hexact.cpus
    have hmegabytes := hexact.totalMemoryMB
    rw [hcpus, hfits] at hcount
    rw [htotal, hmemoryFits] at hmegabytes
    omega
  · rintro ⟨hcount, hmegabytes⟩
    rw [hfits.mpr hcount] at hcpus
    rw [hmemoryFits.mpr (by omega)] at htotal
    have hcountNonneg := cpuCount_nonneg hrange
    refine ⟨hcpus, hcpus, htotal, ?_, ?_⟩
    · rw [← hcpus]
      exact clamp_sub_eq (by omega) hvcpus
    · have hnonneg : 0 ≤ (capacityFor reserved scan.nodeInfo).totalMemoryMB.toInt := by omega
      rw [← htotal]
      exact clamp_sub_eq hnonneg hmemoryMB

section Lines

-- A line "key: word", with white space anywhere around them and anything after it.
def Says (line : GoString) (key : String) (word : GoString) : Prop :=
  ∃ lead mid gap rest, line = lead ++ ofString key ++ mid ++ .colon :: (gap ++ word ++ rest) ∧
    (∀ r ∈ lead, r.isSpace = true) ∧ (∀ r ∈ mid, r.isSpace = true) ∧ (∀ r ∈ gap, r.isSpace = true) ∧
    ∀ r ∈ rest.head?, r.isSpace = true

theorem Says.hasField {line : GoString} {key : String} {n : Nat} (h : Says line key (decimal n))
    (hcolon : .colon ∉ ofString key) (htrim : trim (ofString key) = ofString key) :
    HasField line key (decimal n) := by
  obtain ⟨lead, mid, gap, rest, rfl, hlead, hmid, hgap, hrest⟩ := h
  refine ⟨lead ++ ofString key ++ mid, gap ++ decimal n ++ rest, rfl, ?_, ?_, ?_⟩
  · simp only [List.mem_append, not_or]
    exact ⟨⟨fun hmem => ne_colon_of_isSpace (hlead _ hmem) rfl, hcolon⟩,
      fun hmem => ne_colon_of_isSpace (hmid _ hmem) rfl⟩
  · rw [trim_padded hlead hmid, htrim]
  · have hword := fields_word (decimal_ne_nil n) fun r hr => isSpace_of_mem_decimal hr
    rw [List.append_assoc, fields_spaces_append hgap]
    cases rest with
    | nil => rw [List.append_nil, hword, List.head?_cons]
    | cons r rest => rw [fields_append_space (hrest r rfl), hword, List.singleton_append, List.head?_cons]

theorem NodeField.key_plain (field : NodeField) :
    .colon ∉ ofString field.key ∧ trim (ofString field.key) = ofString field.key := by
  cases field <;> decide

theorem Says.field {line : GoString} {field : NodeField} {n : Nat} (h : Says line field.key (decimal n)) :
    HasField line field.key (decimal n) :=
  h.hasField field.key_plain.1 field.key_plain.2

theorem HasField.not_blankValue {line : GoString} {key : String} {word : GoString} (h : HasField line key word) :
    ¬ BlankValue line := by
  obtain ⟨head, value, rfl, hcolon, -, hword⟩ := h
  rw [blankValue_append_iff hcolon, ← fields_eq_nil_iff]
  intro hblank
  rw [hblank] at hword
  cases hword

def printedChars (item : String × Nat) : List Char := item.1.toList ++ ':' :: ' ' :: Nat.toDigits 10 item.2

def printedLine (item : String × Nat) : GoString := (printedChars item).map .char

def printedOutput (items : List (String × Nat)) : Bytes :=
  encode (['\n'].intercalate (items.map printedChars))

theorem says_printedLine (key : String) (n : Nat) : Says (printedLine (key, n)) key (decimal n) :=
  ⟨[], [], [.char ' '], [], by simp [printedLine, printedChars, ofString, decimal, Rune.colon], nofun, nofun,
    by decide, nofun⟩

theorem lines_printedOutput {items : List (String × Nat)} (hne : items ≠ [])
    (hitems : ∀ item ∈ items, '\n' ∉ item.1.toList) :
    lines (decode (printedOutput items)) = items.map printedLine := by
  have hlines : ∀ line ∈ items.map printedChars, '\n' ∉ line := by
    intro line hline hnewline
    obtain ⟨item, hitem, rfl⟩ := List.mem_map.mp hline
    rw [printedChars, List.mem_append, List.mem_cons, List.mem_cons] at hnewline
    rcases hnewline with hkey | hcolon | hspace | hdigit
    · exact hitems item hitem hkey
    · exact absurd hcolon (by decide)
    · exact absurd hspace (by decide)
    · exact absurd (isDigit_of_mem_toDigits hdigit) (by decide)
  rw [printedOutput, decode_encode, lines_map_char, List.splitOn_intercalate '\n' hlines (by simpa using hne),
    List.map_map]
  rfl

end Lines

theorem cpuCount_lt_iff {counts : NodeField → Int} (hrange : InRange counts) :
    cpuCount counts < 2 ^ 31 ↔ (0 < counts .sockets → 0 < counts .cores → 0 < counts .threads →
      counts .sockets * counts .cores * counts .threads < 2 ^ 31) := by
  rw [cpuCount]
  split
  · rename_i hpos
    exact ⟨fun hlt _ _ _ => hlt, fun h => h hpos.1 hpos.2.1 hpos.2.2⟩
  · rename_i hzero
    exact iff_of_true (hrange .cpus).2 fun hsockets hcores hthreads => absurd ⟨hsockets, hcores, hthreads⟩ hzero

-- For every output and every reservation: the capacity is exact if and only if no value is blank,
-- the product of the three factors is below 2^31 and the memory below 2^31 megabytes.
theorem capacity_exact_iff {stdout : Bytes} {counts : NodeField → Int}
    (hreading : Reading (fun _ => 0) (lines (decode stdout)) counts) (reserved : Option ReservedResources)
    (hvcpus : 0 ≤ (reservedFor reserved).vcpus.toInt) (hmemoryMB : 0 ≤ (reservedFor reserved).memoryMB.toInt) :
    (∃ info, getNodeInfo (.ok stdout) = .ok (.ok info) ∧
        Exact counts (reservedFor reserved) info (capacityFor reserved info)) ↔
      (∀ line ∈ lines (decode stdout), ¬ BlankValue line) ∧
      (0 < counts .sockets → 0 < counts .cores → 0 < counts .threads →
        counts .sockets * counts .cores * counts .threads < 2 ^ 31) ∧
      counts .memory < 2 ^ 41 := by
  have hrange : InRange counts := hreading.inRange fun field => by cases field <;> decide
  rw [← cpuCount_lt_iff hrange]
  constructor
  · rintro ⟨info, hinfo, hexact⟩
    have hvalues := (getNodeInfo_in_bounds_iff stdout).mp ⟨_, hinfo⟩
    obtain ⟨scan, hscan, hrepresents⟩ := hreading.foldlM represents_start hvalues
    rw [getNodeInfo_ok, hscan] at hinfo
    cases hinfo
    exact ⟨hvalues, (hrepresents.exact_iff hrange reserved hvcpus hmemoryMB).mp hexact⟩
  · rintro ⟨hvalues, hfits⟩
    obtain ⟨scan, hscan, hrepresents⟩ := hreading.foldlM represents_start hvalues
    refine ⟨scan.nodeInfo, ?_, (hrepresents.exact_iff hrange reserved hvcpus hmemoryMB).mpr hfits⟩
    rw [getNodeInfo_ok, hscan]
    rfl

theorem capacity_exact_two_megabytes :
    ∃ info, getNodeInfo (.ok (printedOutput [(NodeField.memory.key, 2048)])) = .ok (.ok info) ∧
      Exact (Function.update (fun _ => 0) .memory 2048) ⟨2, 4096⟩ info (capacityFor none info) := by
  have hlines : lines (decode (printedOutput [(NodeField.memory.key, 2048)])) =
      [printedLine (NodeField.memory.key, 2048)] := lines_printedOutput (by decide) (by decide)
  have hfield := (says_printedLine NodeField.memory.key 2048).field
  have hreading : Reading (fun _ => 0) [printedLine (NodeField.memory.key, 2048)]
      (Function.update (fun _ => 0) .memory 2048) :=
    .field .memory hfield (parseInt_decimal (by decide)) (by decide) (.done _)
  refine (capacity_exact_iff (hlines ▸ hreading) none (by decide) (by decide)).mpr ⟨?_, ?_, ?_⟩
  · rw [hlines, List.forall_mem_singleton]
    exact hfield.not_blankValue
  · exact fun hsockets => absurd hsockets (by decide)
  · decide

def wideOutput : Bytes :=
  printedOutput [(NodeField.sockets.key, 65536), (NodeField.cores.key, 65536), (NodeField.threads.key, 1)]

def wideCounts : NodeField → Int
  | .sockets | .cores => 65536
  | .threads => 1
  | .memory | .cpus => 0

-- A product of 2^32 CPUs is none.
theorem wide_product_wraps : Reading (fun _ => 0) (lines (decode wideOutput)) wideCounts ∧
    getNodeInfo (.ok wideOutput) = .ok (.ok ⟨0, 0⟩) ∧ cpuCount wideCounts = 2 ^ 32 := by
  have hcounts : wideCounts = Function.update (Function.update (Function.update (fun _ => 0) .sockets 65536)
      .cores 65536) .threads 1 := by
    funext field
    cases field <;> rfl
  have hfield (field : NodeField) (n : Nat) := (says_printedLine field.key n).field
  rw [getNodeInfo_ok, wideOutput, lines_printedOutput (by decide) (by decide), hcounts]
  refine ⟨?_, by decide +kernel, by decide⟩
  exact .field .sockets (hfield _ _) (parseInt_decimal (by decide)) (by decide) <|
    .field .cores (hfield _ _) (parseInt_decimal (by decide)) (by decide) <|
    .field .threads (hfield _ _) (parseInt_decimal (by decide)) (by decide) (.done _)

section Reports

def numaCells : String := "NUMA cell(s)"

-- The hardware of a host with all CPUs online, as libvirt describes it.
structure Topology where
  cells : Nat
  sockets : Nat
  cores : Nat
  threads : Nat
  memoryKB : Nat
  cells_pos : 0 < cells
  sockets_pos : 0 < sockets
  cores_pos : 0 < cores
  threads_pos : 0 < threads
  total_lt : cells * sockets * cores * threads < 2 ^ 31
  memoryKB_lt : memoryKB < 2 ^ 63

def Topology.total (topology : Topology) : Nat :=
  topology.cells * topology.sockets * topology.cores * topology.threads

def Topology.count (topology : Topology) : NodeField → Nat
  | .sockets => topology.sockets
  | .cores => topology.cores
  | .threads => topology.threads
  | .memory => topology.memoryKB
  | .cpus => topology.total

theorem Topology.count_lt (topology : Topology) (field : NodeField) :
    topology.count field < 2 ^ (field.bitSize - 1) := by
  obtain ⟨cells, sockets, cores, threads, memoryKB, hcells, hsockets, hcores, hthreads, htotal, hmemory⟩ := topology
  have hsocketsLe : sockets ≤ cells * sockets * cores * threads := by
    calc sockets ≤ cells * sockets := Nat.le_mul_of_pos_left sockets hcells
      _ ≤ cells * sockets * cores := Nat.le_mul_of_pos_right _ hcores
      _ ≤ _ := Nat.le_mul_of_pos_right _ hthreads
  have hcoresLe : cores ≤ cells * sockets * cores * threads := by
    calc cores ≤ cells * sockets * cores := Nat.le_mul_of_pos_left cores (Nat.mul_pos hcells hsockets)
      _ ≤ _ := Nat.le_mul_of_pos_right _ hthreads
  have hthreadsLe : threads ≤ cells * sockets * cores * threads :=
    Nat.le_mul_of_pos_left threads (Nat.mul_pos (Nat.mul_pos hcells hsockets) hcores)
  cases field with
  | sockets => exact Nat.lt_of_le_of_lt hsocketsLe htotal
  | cores => exact Nat.lt_of_le_of_lt hcoresLe htotal
  | threads => exact Nat.lt_of_le_of_lt hthreadsLe htotal
  | memory => exact hmemory
  | cpus => exact htotal

def Further (line : GoString) : Prop :=
  ∃ head value, line = head ++ .colon :: value ∧ .colon ∉ head ∧ (∃ r ∈ value, r.isSpace = false) ∧
    trim head ≠ ofString numaCells ∧ ∀ field : NodeField, trim head ≠ ofString field.key

-- What virsh nodeinfo prints, in any order and among blank lines.
structure Report (topology : Topology) (text : List GoString) : Prop where
  every : ∀ line ∈ text, (∃ field : NodeField, Says line field.key (decimal (topology.count field))) ∨
    Says line numaCells (decimal topology.cells) ∨ Further line ∨ ∀ r ∈ line, r.isSpace = true
  each : ∀ field : NodeField, ∃ line ∈ text, Says line field.key (decimal (topology.count field))
  cells : ∃ line ∈ text, Says line numaCells (decimal topology.cells)

theorem HasField.key_eq {line : GoString} {key key' : String} {word word' : GoString} (h : HasField line key word)
    (h' : HasField line key' word') : ofString key = ofString key' := by
  obtain ⟨head, value, rfl, hcolon, hkey, -⟩ := h
  obtain ⟨head', value', heq, hcolon', hkey', -⟩ := h'
  obtain ⟨rfl, -⟩ := append_colon_inj hcolon hcolon' heq
  rw [← hkey, hkey']

theorem HasField.unread {line : GoString} {key : String} {word : GoString} (h : HasField line key word)
    (hother : ∀ field : NodeField, ofString key ≠ ofString field.key) : Unread line := by
  obtain ⟨head, value, rfl, hcolon, hkey, -⟩ := h
  intro head' value' heq hcolon' field
  obtain ⟨rfl, -⟩ := append_colon_inj hcolon hcolon' heq
  rw [hkey]
  exact hother field

theorem unread_of_not_mem {line : GoString} (h : .colon ∉ line) : Unread line := by
  rintro head value rfl
  exact absurd (by simp) h

namespace Report

variable {topology : Topology} {text : List GoString}

theorem passed {line : GoString}
    (h : Says line numaCells (decimal topology.cells) ∨ Further line ∨ ∀ r ∈ line, r.isSpace = true) :
    Unread line ∧ ¬ BlankValue line := by
  rcases h with hcells | ⟨head, value, rfl, hcolon, ⟨r, hr, hspace⟩, -, hother⟩ | hblank
  · have hfield := hcells.hasField (by decide) (by decide)
    refine ⟨hfield.unread fun field => ?_, hfield.not_blankValue⟩
    cases field <;> decide
  · constructor
    · intro head' value' heq hcolon'
      obtain ⟨rfl, -⟩ := append_colon_inj hcolon hcolon' heq
      exact hother
    · rw [blankValue_append_iff hcolon]
      intro hblank
      rw [hblank r hr] at hspace
      cases hspace
  · have hcolon : .colon ∉ line := fun hmem => ne_colon_of_isSpace (hblank _ hmem) rfl
    refine ⟨unread_of_not_mem hcolon, ?_⟩
    rintro ⟨head, value, rfl, -, -⟩
    exact hcolon (by simp)

theorem not_blankValue (h : Report topology text) : ∀ line ∈ text, ¬ BlankValue line := by
  intro line hline
  rcases h.every line hline with ⟨field, hsays⟩ | hpassed
  · exact hsays.field.not_blankValue
  · exact (passed hpassed).2

theorem reading {count : NodeField → Nat} (hcount : ∀ field, count field < 2 ^ (field.bitSize - 1))
    (hevery : ∀ line ∈ text, (∃ field : NodeField, Says line field.key (decimal (count field))) ∨ Unread line)
    (counts : NodeField → Int) :
    ∃ final, Reading counts text final ∧ ∀ field,
      (counts field = count field ∨ ∃ line ∈ text, Says line field.key (decimal (count field))) →
        final field = count field := by
  induction text generalizing counts with
  | nil => exact ⟨counts, .done counts, fun field h => h.resolve_right nofun⟩
  | cons line rest ih =>
    have hrest := fun other hother => hevery other (List.mem_cons_of_mem line hother)
    rcases hevery line List.mem_cons_self with ⟨field, hsays⟩ | hunread
    · obtain ⟨final, hreading, hfinal⟩ := ih hrest (Function.update counts field (count field))
      refine ⟨final, .field field hsays.field (parseInt_decimal (hcount field)) (Int.natCast_nonneg _) hreading,
        fun other hother => hfinal other ?_⟩
      rcases eq_or_ne other field with rfl | hne
      · exact .inl (Function.update_self ..)
      · rw [Function.update_of_ne hne]
        rcases hother with hread | ⟨found, hfound, hsaid⟩
        · exact .inl hread
        · rcases List.mem_cons.mp hfound with rfl | hmem
          · exact absurd (NodeField.key_injective (hsaid.field.key_eq hsays.field)) hne
          · exact .inr ⟨found, hmem, hsaid⟩
    · obtain ⟨final, hreading, hfinal⟩ := ih hrest counts
      refine ⟨final, .unread hunread hreading, fun other hother => hfinal other ?_⟩
      rcases hother with hread | ⟨found, hfound, hsaid⟩
      · exact .inl hread
      · rcases List.mem_cons.mp hfound with rfl | hmem
        · obtain ⟨head, value, rfl, hcolon, hkey, -⟩ := hsaid.field
          exact absurd hkey (hunread head value rfl hcolon other)
        · exact .inr ⟨found, hmem, hsaid⟩

end Report

-- For every report: the CPUs and the memory are discovered as reported exactly on hosts with a
-- single NUMA cell.
theorem discovers_reported_iff {topology : Topology} {stdout : Bytes}
    (hreport : Report topology (lines (decode stdout))) :
    (∃ info, getNodeInfo (.ok stdout) = .ok (.ok info) ∧ info.cpus.toInt = topology.total ∧
        info.memoryKB.toInt = topology.memoryKB) ↔ topology.cells = 1 := by
  have hevery : ∀ line ∈ lines (decode stdout),
      (∃ field : NodeField, Says line field.key (decimal (topology.count field))) ∨ Unread line := by
    intro line hline
    exact (hreport.every line hline).imp_right fun hpassed => (Report.passed hpassed).1
  obtain ⟨counts, hreading, hcounts⟩ := Report.reading topology.count_lt hevery fun _ => 0
  have hcount (field : NodeField) : counts field = topology.count field :=
    hcounts field (.inr (hreport.each field))
  have hrange : InRange counts := hreading.inRange fun field => by cases field <;> decide
  obtain ⟨scan, hscan, hrepresents⟩ := hreading.foldlM represents_start hreport.not_blankValue
  have hinfo : getNodeInfo (.ok stdout) = .ok (.ok scan.nodeInfo) := by
    rw [getNodeInfo_ok, hscan]
    rfl
  have hproduct : cpuCount counts = (topology.sockets * topology.cores * topology.threads : Nat) := by
    have hsockets := topology.sockets_pos
    have hcores := topology.cores_pos
    have hthreads := topology.threads_pos
    rw [cpuCount, hcount, hcount, hcount, if_pos (by simp only [Topology.count]; omega)]
    simp only [Topology.count, Int.natCast_mul]
  have htotal : topology.total = topology.cells * (topology.sockets * topology.cores * topology.threads) := by
    rw [Topology.total, Nat.mul_assoc, Nat.mul_assoc, Nat.mul_assoc]
  have hpos : 0 < topology.sockets * topology.cores * topology.threads :=
    Nat.mul_pos (Nat.mul_pos topology.sockets_pos topology.cores_pos) topology.threads_pos
  have hle : topology.sockets * topology.cores * topology.threads ≤ topology.total := by
    rw [htotal]
    exact Nat.le_mul_of_pos_left _ topology.cells_pos
  have hcpus : scan.nodeInfo.cpus.toInt = (topology.sockets * topology.cores * topology.threads : Nat) := by
    have hlt : topology.total < 2 ^ 31 := topology.total_lt
    rw [hrepresents.nodeInfo_cpus hrange, hproduct]
    exact (bmod_eq_self_iff (Int.natCast_nonneg _)).mpr (by omega)
  have hmemory : scan.nodeInfo.memoryKB.toInt = topology.memoryKB := by
    rw [hrepresents.nodeInfo_memoryKB, hcount]
    rfl
  constructor
  · rintro ⟨info, heq, htotalCPUs, -⟩
    rw [hinfo] at heq
    cases heq
    rw [hcpus, htotal, Int.natCast_inj] at htotalCPUs
    exact Nat.eq_of_mul_eq_mul_right hpos (htotalCPUs.symm.trans (Nat.one_mul _).symm)
  · intro hcell
    refine ⟨scan.nodeInfo, hinfo, ?_, hmemory⟩
    rw [hcpus, htotal, hcell, Nat.one_mul]

def Topology.items (topology : Topology) : List (String × Nat) :=
  NodeField.all.map (fun field => (field.key, topology.count field)) ++ [(numaCells, topology.cells)]

theorem lines_items (topology : Topology) :
    lines (decode (printedOutput topology.items)) = topology.items.map printedLine := by
  have hkey (field : NodeField) : '\n' ∉ field.key.toList := by cases field <;> decide
  have hcells : '\n' ∉ numaCells.toList := by decide
  refine lines_printedOutput (List.cons_ne_nil _ _) fun item hitem => ?_
  rcases List.mem_append.mp hitem with hmem | hlast
  · obtain ⟨field, -, rfl⟩ := List.mem_map.mp hmem
    exact hkey field
  · rw [List.mem_singleton.mp hlast]
    exact hcells

theorem report_printedOutput (topology : Topology) :
    Report topology (lines (decode (printedOutput topology.items))) := by
  rw [lines_items]
  have hfield (field : NodeField) : printedLine (field.key, topology.count field) ∈ topology.items.map printedLine := by
    refine List.mem_map_of_mem (List.mem_append_left _ (List.mem_map_of_mem ?_))
    cases field <;> decide
  have hcells : printedLine (numaCells, topology.cells) ∈ topology.items.map printedLine :=
    List.mem_map_of_mem (List.mem_append_right _ List.mem_cons_self)
  refine ⟨fun line hline => ?_, fun field => ⟨_, hfield field, says_printedLine _ _⟩,
    ⟨_, hcells, says_printedLine _ _⟩⟩
  obtain ⟨item, hitem, rfl⟩ := List.mem_map.mp hline
  rcases List.mem_append.mp hitem with hmem | hlast
  · obtain ⟨field, -, rfl⟩ := List.mem_map.mp hmem
    exact .inl ⟨field, says_printedLine _ _⟩
  · rw [List.mem_singleton.mp hlast]
    exact .inr (.inl (says_printedLine _ _))

def smallHost (cells : Nat) (hpos : 0 < cells) (hlt : cells < 2 ^ 20) : Topology :=
  ⟨cells, 1, 2, 2, 2048, hpos, by decide, by decide, by decide, by omega, by decide⟩

theorem discovers_reported_one_cell :
    ∃ info, getNodeInfo (.ok (printedOutput (smallHost 1 (by decide) (by decide)).items)) = .ok (.ok info) ∧
      info.cpus.toInt = 4 ∧ info.memoryKB.toInt = 2048 :=
  (discovers_reported_iff (report_printedOutput (smallHost 1 (by decide) (by decide)))).mpr rfl

def twoCellsOutput : Bytes := printedOutput (smallHost 2 (by decide) (by decide)).items

-- Half of the CPUs of a host with two cells are missed.
theorem two_cells_undercounted :
    Report (smallHost 2 (by decide) (by decide)) (lines (decode twoCellsOutput)) ∧
    (smallHost 2 (by decide) (by decide)).total = 8 ∧
    getNodeInfo (.ok twoCellsOutput) = .ok (.ok ⟨4, 2048⟩) := by
  refine ⟨report_printedOutput _, rfl, ?_⟩
  rw [getNodeInfo_ok, twoCellsOutput, lines_items]
  decide +kernel

end Reports

end Caplv.Host
