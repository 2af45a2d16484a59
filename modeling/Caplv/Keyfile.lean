import Mathlib.Data.List.Nodup

namespace Caplv.Keyfile

-- One line of a keyfile, as its characters.
inductive Line where
  | blank
  | header (name : String)
  | entry (key value : String)
deriving DecidableEq, Repr

def readLine (line : List Char) : Option Line :=
  if line = [] then some .blank
  else if line.head? = some '[' ∧ line.getLast? = some ']' then
    some (.header (String.ofList line.tail.dropLast))
  else if '=' ∈ line then
    some (.entry (String.ofList (line.takeWhile (· ≠ '='))) (String.ofList (line.dropWhile (· ≠ '=')).tail))
  else none

-- The entries before the first header, and the groups.
def collect : List Line → List (String × String) × List (String × List (String × String))
  | [] => ([], [])
  | .blank :: rest => collect rest
  | .entry key value :: rest => ((key, value) :: (collect rest).1, (collect rest).2)
  | .header name :: rest => ([], (name, (collect rest).1) :: (collect rest).2)

def parse (text : String) : Option (List (String × List (String × String))) := do
  let lines ← (text.toList.splitOn '\n').mapM readLine
  if (collect lines).1 = [] then some (collect lines).2 else none

inductive Value where
  | text (value : String)
  | list (elements : List String)
deriving DecidableEq, Repr

-- A list with a semicolon behind every element.
def readList (value : String) : Option (List String) :=
  if (value.toList.splitOn ';').getLast? = some [] then
    some ((value.toList.splitOn ';').dropLast.map String.ofList)
  else none

-- The keys that hold lists are known to the reader.
def readEntry (lists : List String) (entry : String × String) : Option (String × Value) :=
  if entry.1 ∈ lists then (readList entry.2).map fun elements => (entry.1, .list elements)
  else some (entry.1, .text entry.2)

def readGroup (lists : List String) (group : String × List (String × String)) :
    Option (String × List (String × Value)) :=
  (group.2.mapM (readEntry lists)).map fun entries => (group.1, entries)

def decode (lists : List String) (text : String) : Option (List (String × List (String × Value))) := do
  (← parse text).mapM (readGroup lists)

def render (lines : List String) : String := String.join (lines.map (· ++ "\n"))

def Line.text : Line → String
  | .blank => ""
  | .header name => "[" ++ name ++ "]"
  | .entry key value => key ++ "=" ++ value

def Value.print : Value → String
  | .text value => value
  | .list elements => String.intercalate ";" elements ++ ";"

def groupLines (group : String × List (String × Value)) : List Line :=
  .header group.1 :: group.2.map fun entry => .entry entry.1 entry.2.print

-- The groups in their order, with a blank line between them.
def document (groups : List (String × List (String × Value))) : List Line :=
  [.blank].intercalate (groups.map groupLines)

def KeyName (key : String) : Prop :=
  key.toList ≠ [] ∧ key.toList.head? ≠ some '[' ∧ '=' ∉ key.toList ∧ '\n' ∉ key.toList

def Value.Plain : Value → Prop
  | .text value => '\n' ∉ value.toList
  | .list elements => ∀ element ∈ elements, '\n' ∉ element.toList ∧ ';' ∉ element.toList

-- The reader takes it for a list exactly if it is one.
def Value.Fits (lists : List String) (key : String) : Value → Prop
  | .text _ => key ∉ lists
  | .list elements => key ∈ lists ∧ elements ≠ []

section Reading

variable {α : Type} {parts : List (List α)} {lists : List String}
  {groups : List (String × List (String × Value))}

theorem not_mem_of_mem_splitOn [DecidableEq α] {sep : α} {list part : List α}
    (h : part ∈ list.splitOn sep) : sep ∉ part := by
  induction list generalizing part with
  | nil =>
    have hpart : part = [] := by simpa [List.splitOn] using h
    simp [hpart]
  | cons head rest ih =>
    rw [List.splitOn, List.splitOnP_cons_eq_if_modifyHead] at h
    by_cases hhead : head = sep
    · rcases List.mem_cons.mp (by simpa [hhead] using h) with rfl | h
      · simp
      · exact ih h
    · rw [if_neg (by simpa using hhead)] at h
      cases hsplit : List.splitOnP (· == sep) rest with
      | nil => exact absurd hsplit (List.splitOnP_ne_nil _ _)
      | cons first others =>
        have hmem (p : List α) (hp : p ∈ first :: others) : sep ∉ p :=
          ih (by rw [List.splitOn, hsplit]; exact hp)
        rw [hsplit, List.modifyHead_cons] at h
        rcases List.mem_cons.mp h with rfl | h
        · intro hsep
          rcases List.mem_cons.mp hsep with rfl | hsep
          · exact hhead rfl
          · exact hmem first List.mem_cons_self hsep
        · exact hmem part (List.mem_cons_of_mem _ h)

theorem mem_intercalate {sep c : α} {part : List α} (hpart : part ∈ parts)
    (hc : c ∈ part) : c ∈ [sep].intercalate parts := by
  induction parts with
  | nil => cases hpart
  | cons first rest ih =>
    cases rest with
    | nil =>
      rw [List.intercalate_singleton, ← List.mem_singleton.mp hpart]
      exact hc
    | cons second rest =>
      rw [List.intercalate_cons_cons, List.mem_append, List.mem_append]
      rcases List.mem_cons.mp hpart with rfl | hpart
      · exact .inl (.inl hc)
      · exact .inr (ih hpart)

theorem of_mem_intercalate {sep c : α} (h : c ∈ [sep].intercalate parts) :
    c = sep ∨ ∃ part ∈ parts, c ∈ part := by
  induction parts with
  | nil => cases h
  | cons first rest ih =>
    cases rest with
    | nil => exact .inr ⟨first, List.mem_cons_self, by simpa using h⟩
    | cons second rest =>
      rw [List.intercalate_cons_cons, List.mem_append, List.mem_append, List.mem_singleton] at h
      rcases h with (h | h) | h
      · exact .inr ⟨first, List.mem_cons_self, h⟩
      · exact .inl h
      · rcases ih h with h | ⟨part, hpart, h⟩
        · exact .inl h
        · exact .inr ⟨part, List.mem_cons_of_mem _ hpart, h⟩

theorem intercalate_terminated (sep : α) (hne : parts ≠ []) :
    [sep].intercalate (parts ++ [[]]) = [sep].intercalate parts ++ [sep] := by
  induction parts with
  | nil => exact absurd rfl hne
  | cons first rest ih =>
    cases rest with
    | nil => simp [List.intercalate]
    | cons second rest =>
      have hrest := ih (List.cons_ne_nil second rest)
      rw [List.cons_append] at hrest
      rw [List.cons_append, List.cons_append, List.intercalate_cons_cons, List.intercalate_cons_cons, hrest]
      simp only [List.append_assoc]

theorem mem_of_mapM {α β : Type} {f : α → Option β} {list : List α} {out : List β}
    (h : list.mapM f = some out) {y : β} (hy : y ∈ out) : ∃ x ∈ list, f x = some y := by
  induction list generalizing out with
  | nil =>
    obtain rfl : out = [] := by simpa using h.symm
    cases hy
  | cons head rest ih =>
    rw [List.mapM_cons] at h
    obtain ⟨first, hfirst, h⟩ := Option.bind_eq_some_iff.mp h
    obtain ⟨others, hothers, h⟩ := Option.bind_eq_some_iff.mp h
    obtain rfl : first :: others = out := Option.some.inj h
    rcases List.mem_cons.mp hy with rfl | hy
    · exact ⟨head, List.mem_cons_self, hfirst⟩
    · obtain ⟨x, hx, hfx⟩ := ih hothers hy
      exact ⟨x, List.mem_cons_of_mem _ hx, hfx⟩

theorem mapM_map_inverse {α β : Type} {f : α → Option β} {g : β → α} {list : List β}
    (h : ∀ y ∈ list, f (g y) = some y) : (list.map g).mapM f = some list := by
  induction list with
  | nil => rfl
  | cons head rest ih =>
    rw [List.map_cons, List.mapM_cons, h head List.mem_cons_self,
      ih fun y hy => h y (List.mem_cons_of_mem _ hy)]
    rfl

theorem collect_entries (entries : List (String × Value)) (rest : List Line) :
    collect (entries.map (fun entry => .entry entry.1 entry.2.print) ++ rest) =
      (entries.map (fun entry => (entry.1, entry.2.print)) ++ (collect rest).1, (collect rest).2) := by
  induction entries with
  | nil => rfl
  | cons entry entries ih =>
    rw [List.map_cons, List.cons_append, collect, ih]
    rfl

theorem collect_groupLines (group : String × List (String × Value)) {rest : List Line}
    (hrest : (collect rest).1 = []) : collect (groupLines group ++ rest) =
      ([], (group.1, group.2.map fun entry => (entry.1, entry.2.print)) :: (collect rest).2) := by
  rw [groupLines, List.cons_append, collect, collect_entries, hrest, List.append_nil]

theorem collect_document (groups : List (String × List (String × Value))) : collect (document groups) =
    ([], groups.map fun group => (group.1, group.2.map fun entry => (entry.1, entry.2.print))) := by
  induction groups with
  | nil => rfl
  | cons group rest ih =>
    cases rest with
    | nil =>
      have hdocument : document [group] = groupLines group ++ [] := by simp [document, List.intercalate]
      rw [hdocument, collect_groupLines group rfl]
      rfl
    | cons next rest =>
      have hnext : collect (.blank :: document (next :: rest)) = collect (document (next :: rest)) := rfl
      have hdocument : document (group :: next :: rest) =
          groupLines group ++ .blank :: document (next :: rest) := by
        rw [document, List.map_cons, List.map_cons, List.intercalate_cons_cons, List.append_assoc]
        rfl
      rw [hdocument, collect_groupLines group (by rw [hnext, ih]), hnext, ih]
      rfl

theorem readLine_entry {key : String} (hkey : KeyName key) (value : String) :
    readLine (key ++ "=" ++ value).toList = some (.entry key value) := by
  obtain ⟨hne, hbracket, hequals, -⟩ := hkey
  have hchars : (key ++ "=" ++ value).toList = key.toList ++ '=' :: value.toList := by simp
  have hpass : ∀ c ∈ key.toList, (decide (c ≠ '=')) = true := by
    intro c hc
    exact decide_eq_true fun heq => hequals (heq ▸ hc)
  have htake : (key.toList ++ '=' :: value.toList).takeWhile (· ≠ '=') = key.toList := by
    rw [List.takeWhile_append_of_pos hpass]
    simp
  have hdrop : (key.toList ++ '=' :: value.toList).dropWhile (· ≠ '=') = '=' :: value.toList := by
    rw [List.dropWhile_append_of_pos hpass]
    simp
  have hhead : (key.toList ++ '=' :: value.toList).head? ≠ some '[' := by
    rw [List.head?_append_of_ne_nil _ hne]
    exact hbracket
  rw [hchars, readLine, if_neg (by simp), if_neg (fun h => hhead h.1), if_pos (by simp), htake, hdrop]
  simp

theorem readLine_header (name : String) : readLine ("[" ++ name ++ "]").toList = some (.header name) := by
  have hchars : ("[" ++ name ++ "]").toList = '[' :: (name.toList ++ [']']) := by simp
  have hlast : ('[' :: (name.toList ++ [']'])).getLast? = some ']' := by
    rw [← List.cons_append, List.getLast?_concat]
  rw [hchars, readLine, if_neg (by simp), if_pos ⟨rfl, hlast⟩]
  simp

theorem splitOn_render {lines : List String} (h : ∀ line ∈ lines, '\n' ∉ line.toList) :
    (render lines).toList.splitOn '\n' = lines.map String.toList ++ [[]] := by
  have hchars : (render lines).toList = ['\n'].intercalate (lines.map String.toList ++ [[]]) := by
    induction lines with
    | nil => rfl
    | cons line rest ih =>
      have hrest := ih fun other hother => h other (List.mem_cons_of_mem _ hother)
      rw [render, List.map_cons, String.join_cons, String.toList_append, ← render, hrest]
      cases rest <;> simp [List.intercalate]
  rw [hchars, List.splitOn_intercalate _ _ (by simp)]
  intro part hpart
  rcases List.mem_append.mp hpart with hpart | hpart
  · obtain ⟨line, hline, rfl⟩ := List.mem_map.mp hpart
    exact h line hline
  · simp [List.mem_singleton.mp hpart]

theorem parse_render {lines : List Line} (hread : ∀ line ∈ lines, readLine line.text.toList = some line)
    (hplain : ∀ line ∈ lines, '\n' ∉ line.text.toList) (hfirst : (collect lines).1 = []) :
    parse (render (lines.map Line.text)) = some (collect lines).2 := by
  have hcollect : collect (lines ++ [.blank]) = collect lines := by
    clear hread hplain hfirst
    induction lines with
    | nil => rfl
    | cons line rest ih => cases line <;> simp [collect, ih]
  have hlines : (render (lines.map Line.text)).toList.splitOn '\n' =
      (lines ++ [Line.blank]).map fun line => line.text.toList := by
    rw [splitOn_render, List.map_map, List.map_append]
    · rfl
    · intro text htext
      obtain ⟨line, hline, rfl⟩ := List.mem_map.mp htext
      exact hplain line hline
  rw [parse, hlines, mapM_map_inverse, Option.bind_eq_bind, Option.bind_some, hcollect, if_pos hfirst]
  intro line hline
  rcases List.mem_append.mp hline with hline | hline
  · exact hread line hline
  · rw [List.mem_singleton.mp hline]
    rfl

theorem readList_intercalate {elements : List String} (hne : elements ≠ [])
    (h : ∀ element ∈ elements, ';' ∉ element.toList) :
    readList (String.intercalate ";" elements ++ ";") = some elements := by
  have hchars : (String.intercalate ";" elements ++ ";").toList =
      [';'].intercalate (elements.map String.toList ++ [[]]) := by
    rw [String.toList_append, String.toList_intercalate]
    exact (intercalate_terminated ';' (by simpa using hne)).symm
  have hsplit : (String.intercalate ";" elements ++ ";").toList.splitOn ';' = elements.map String.toList ++ [[]] := by
    rw [hchars, List.splitOn_intercalate _ _ (by simp)]
    intro part hpart
    rcases List.mem_append.mp hpart with hpart | hpart
    · obtain ⟨element, helement, rfl⟩ := List.mem_map.mp hpart
      exact h element helement
    · simp [List.mem_singleton.mp hpart]
  rw [readList, hsplit]
  simp

theorem print_oneLine {value : Value} (h : value.Plain) : '\n' ∉ value.print.toList := by
  cases value with
  | text value => exact h
  | list elements =>
    rw [Value.print, String.toList_append, String.toList_intercalate]
    intro hmem
    rcases List.mem_append.mp hmem with hmem | hmem
    · rcases of_mem_intercalate hmem with hsep | ⟨part, hpart, hmem⟩
      · revert hsep
        decide
      · obtain ⟨element, helement, rfl⟩ := List.mem_map.mp hpart
        exact (h element helement).1 hmem
    · revert hmem
      decide

theorem readEntry_print {key : String} {value : Value} (hfits : value.Fits lists key)
    (hplain : value.Plain) : readEntry lists (key, value.print) = some (key, value) := by
  cases value with
  | text value => rw [readEntry, if_neg hfits, Value.print]
  | list elements =>
    obtain ⟨hkey, hne⟩ := hfits
    rw [readEntry, if_pos hkey, Value.print,
      readList_intercalate hne fun element helement => (hplain element helement).2]
    rfl

theorem mem_document {line : Line} (h : line ∈ document groups) : line = .blank ∨ ∃ group ∈ groups, line = .header group.1 ∨
      ∃ entry ∈ group.2, line = .entry entry.1 entry.2.print := by
  rcases of_mem_intercalate h with h | ⟨part, hpart, h⟩
  · exact .inl h
  · obtain ⟨group, hgroup, rfl⟩ := List.mem_map.mp hpart
    refine .inr ⟨group, hgroup, ?_⟩
    rcases List.mem_cons.mp h with h | h
    · exact .inl h
    · obtain ⟨entry, hentry, rfl⟩ := List.mem_map.mp h
      exact .inr ⟨entry, hentry, rfl⟩

structure Readable (lists : List String) (groups : List (String × List (String × Value))) : Prop where
  names : ∀ group ∈ groups, '\n' ∉ group.1.toList
  keys : ∀ group ∈ groups, ∀ entry ∈ group.2, KeyName entry.1
  fits : ∀ group ∈ groups, ∀ entry ∈ group.2, entry.2.Fits lists entry.1
  plain : ∀ group ∈ groups, ∀ entry ∈ group.2, entry.2.Plain

theorem Readable.readLine (h : Readable lists groups) {line : Line} (hline : line ∈ document groups) :
    Keyfile.readLine line.text.toList = some line := by
  rcases mem_document hline with rfl | ⟨group, hgroup, rfl | ⟨entry, hentry, rfl⟩⟩
  · rfl
  · exact readLine_header group.1
  · exact readLine_entry (h.keys group hgroup entry hentry) _

theorem Readable.oneLine (h : Readable lists groups) {line : Line} (hline : line ∈ document groups) :
    '\n' ∉ line.text.toList := by
  rcases mem_document hline with rfl | ⟨group, hgroup, rfl | ⟨entry, hentry, rfl⟩⟩
  · decide
  · simpa [Line.text] using h.names group hgroup
  · have hkey := (h.keys group hgroup entry hentry).2.2.2
    have hvalue := print_oneLine (h.plain group hgroup entry hentry)
    simpa [Line.text] using And.intro hkey hvalue

theorem decode_document (h : Readable lists groups) :
    decode lists (render ((document groups).map Line.text)) = some groups := by
  have hparse : parse (render ((document groups).map Line.text)) = some (groups.map fun group =>
      (group.1, group.2.map fun entry => (entry.1, entry.2.print))) := by
    rw [parse_render (fun _ hline => h.readLine hline) (fun _ hline => h.oneLine hline)]
    · rw [collect_document]
    · rw [collect_document]
  rw [decode, hparse, Option.bind_eq_bind, Option.bind_some]
  refine mapM_map_inverse fun group hgroup => ?_
  rw [readGroup, mapM_map_inverse fun entry hentry =>
    readEntry_print (h.fits group hgroup entry hentry) (h.plain group hgroup entry hentry)]
  rfl

end Reading

section Plain

variable {key value : String}

theorem readLine_plain {line : List Char} (hline : '\n' ∉ line)
    (h : readLine line = some (.entry key value)) : '\n' ∉ value.toList := by
  unfold readLine at h
  split at h
  · cases h
  · split at h
    · cases h
    · split at h
      · obtain ⟨-, rfl⟩ := Line.entry.inj (Option.some.inj h)
        rw [String.toList_ofList]
        intro hmem
        exact hline ((List.dropWhile_sublist _).subset (List.mem_of_mem_tail hmem))
      · cases h

theorem mem_collect {lines : List Line} :
    ((key, value) ∈ (collect lines).1 → .entry key value ∈ lines) ∧
      ∀ name entries, (name, entries) ∈ (collect lines).2 → (key, value) ∈ entries → .entry key value ∈ lines := by
  induction lines with
  | nil => exact ⟨nofun, nofun⟩
  | cons line rest ih =>
    obtain ⟨hfirst, hgroups⟩ := ih
    cases line with
    | blank =>
      exact ⟨fun h => List.mem_cons_of_mem _ (hfirst h),
        fun name entries h he => List.mem_cons_of_mem _ (hgroups name entries h he)⟩
    | entry key' value' =>
      refine ⟨fun h => ?_, fun name entries h he => List.mem_cons_of_mem _ (hgroups name entries h he)⟩
      rcases List.mem_cons.mp h with heq | h
      · cases heq
        exact List.mem_cons_self
      · exact List.mem_cons_of_mem _ (hfirst h)
    | header name' =>
      refine ⟨nofun, fun name entries h he => List.mem_cons_of_mem _ ?_⟩
      rcases List.mem_cons.mp h with heq | h
      · cases heq
        exact hfirst he
      · exact hgroups name entries h he

theorem parse_plain {text : String} {groups : List (String × List (String × String))}
    (h : parse text = some groups) {name : String} {entries : List (String × String)}
    (hgroup : (name, entries) ∈ groups) (hentry : (key, value) ∈ entries) : '\n' ∉ value.toList := by
  obtain ⟨lines, hlines, h⟩ := Option.bind_eq_some_iff.mp h
  by_cases hfirst : (collect lines).1 = []
  · rw [if_pos hfirst] at h
    obtain rfl := Option.some.inj h
    obtain ⟨line, hline, hread⟩ := mem_of_mapM hlines (mem_collect.2 name entries hgroup hentry)
    exact readLine_plain (not_mem_of_mem_splitOn hline) hread
  · rw [if_neg hfirst] at h
    cases h

theorem readList_plain {value : String} (hvalue : '\n' ∉ value.toList) {elements : List String}
    (h : readList value = some elements) :
    ∀ element ∈ elements, '\n' ∉ element.toList ∧ ';' ∉ element.toList := by
  unfold readList at h
  split at h
  · obtain rfl := Option.some.inj h
    intro element helement
    obtain ⟨part, hpart, rfl⟩ := List.mem_map.mp helement
    have hmem := (List.dropLast_sublist _).subset hpart
    rw [String.toList_ofList]
    refine ⟨fun hnewline => hvalue ?_, not_mem_of_mem_splitOn hmem⟩
    have hjoined : [';'].intercalate (value.toList.splitOn ';') = value.toList := List.intercalate_splitOn ';'
    rw [← hjoined]
    exact mem_intercalate hmem hnewline
  · cases h

theorem decode_plain {lists : List String} {text : String} {groups : List (String × List (String × Value))}
    (h : decode lists text = some groups) {name : String} {entries : List (String × Value)}
    (hgroup : (name, entries) ∈ groups) {key : String} {value : Value} (hentry : (key, value) ∈ entries) :
    value.Plain := by
  obtain ⟨parsed, hparsed, h⟩ := Option.bind_eq_some_iff.mp h
  obtain ⟨⟨name', raw⟩, hraw, hread⟩ := mem_of_mapM h hgroup
  obtain ⟨read, hentries, heq⟩ := Option.map_eq_some_iff.mp hread
  obtain ⟨rfl, rfl⟩ := Prod.mk.inj heq
  obtain ⟨⟨key', text'⟩, hmem, hvalue⟩ := mem_of_mapM hentries hentry
  have hplain := parse_plain hparsed hraw hmem
  unfold readEntry at hvalue
  split at hvalue
  · obtain ⟨elements, helements, heq⟩ := Option.map_eq_some_iff.mp hvalue
    obtain ⟨-, rfl⟩ := Prod.mk.inj heq
    exact readList_plain hplain helements
  · obtain ⟨-, rfl⟩ := Prod.mk.inj (Option.some.inj hvalue)
    exact hplain

end Plain

end Caplv.Keyfile
