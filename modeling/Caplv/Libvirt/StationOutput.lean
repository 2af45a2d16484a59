import Caplv.Libvirt.Station
import Mathlib.Logic.Function.Iterate

namespace Caplv.Libvirt

open Text Program GoString

section Strings

@[simp] theorem shown_ofString (s : String) : shown (ofString s) = s := by
  simp [shown, ofString, Function.comp_def]

theorem decode_encode_ofString (s : String) : decode (encode s.toList) = ofString s := decode_encode s.toList

-- A text that is printed on a line of its own and read back: trimming takes nothing off it.
def Trimmed (s : String) : Prop := trim (ofString s) = ofString s

instance (s : String) : Decidable (Trimmed s) := inferInstanceAs (Decidable (trim (ofString s) = ofString s))

theorem trim_eq_self {s : GoString} (hfirst : ∀ r ∈ s.head?, r.isSpace = false)
    (hlast : ∀ r ∈ s.getLast?, r.isSpace = false) : trim s = s := by
  have hdrop : s.dropWhile Rune.isSpace = s := by
    cases s with
    | nil => rfl
    | cons r rest => exact List.dropWhile_cons_of_neg (by simp [hfirst r rfl])
  rw [trim, hdrop, List.rdropWhile_eq_self_iff]
  intro hne
  simp [hlast _ (List.getLast?_eq_some_getLast hne)]

theorem trim_echoed {text : String} (htext : Trimmed text) : trim (decode (echoed text)) = ofString text := by
  have hchars : ofString (text ++ "\n") = ofString text ++ [.newline] := by
    simp [ofString, Rune.newline]
  rw [echoed, decode_encode_ofString, hchars, trim_concat_space (by decide), htext]

theorem ofString_append (s t : String) : ofString (s ++ t) = ofString s ++ ofString t := by
  simp [ofString]

end Strings

section Tables

theorem lines_trim_unlines {before : List String} {last : String}
    (hnewline : ∀ line ∈ before ++ [last], '\n' ∉ line.toList)
    (hfirst : ∀ c ∈ (unlines (before ++ [last])).toList.head?, isSpace c = false)
    (hlast : ∀ c ∈ last.toList.getLast?, isSpace c = false) (hne : last ≠ "") :
    lines (trim (decode (encode (unlines (before ++ [last])).toList))) = (before ++ [last]).map ofString := by
  have htext : unlines (before ++ [last]) = unlines before ++ last ++ "\n" := by
    rw [unlines_append, String.append_assoc]
    simp [unlines]
  have hchars : ofString (unlines (before ++ [last])) = ofString (unlines before ++ last) ++ [.newline] := by
    rw [htext, ofString_append (unlines before ++ last) "\n"]
    rfl
  have hlast' : last.toList ≠ [] := fun hnil => hne (String.toList_eq_nil_iff.mp hnil)
  have htrim : trim (ofString (unlines before ++ last)) = ofString (unlines before ++ last) := by
    apply trim_eq_self
    · intro r hr
      rw [ofString, List.head?_map] at hr
      obtain ⟨c, hc, rfl⟩ := Option.map_eq_some_iff.mp hr
      apply hfirst c
      rw [htext, String.toList_append, List.head?_append, hc]
      rfl
    · intro r hr
      rw [ofString, String.toList_append, List.map_append, List.getLast?_append_of_ne_nil _ (by simpa using hlast'),
        List.getLast?_map] at hr
      obtain ⟨c, hc, rfl⟩ := Option.map_eq_some_iff.mp hr
      exact hlast c hc
  have hsplit : lines (ofString (unlines (before ++ [last]))) = (before ++ [last]).map ofString ++ [[]] := by
    rw [ofString, lines_map_char, splitOn_unlines hnewline, List.map_append, List.map_map]
    rfl
  rw [decode_encode_ofString, hchars, trim_concat_space (by decide), htrim]
  rw [hchars, lines_concat_newline] at hsplit
  exact List.append_cancel_right hsplit

theorem keyValue_column {key value : String} (hkey : ':' ∉ key.toList) :
    Caplv.Host.keyValue (ofString (column (key, value))) =
      .ok (some (trim (ofString key), trim (ofString value))) := by
  have hchars : ofString (column (key, value)) = ofString key ++ .colon ::
      (List.replicate (15 - key.length) (.char ' ') ++ ofString value) := by
    simp [column, ofString, Rune.colon]
  have hcolon : Rune.colon ∉ ofString key := by
    simpa [ofString, Rune.colon] using hkey
  have hspaces : ∀ r ∈ List.replicate (15 - key.length) (Rune.char ' '), r.isSpace = true := by
    intro r hr
    obtain rfl := List.eq_of_mem_replicate hr
    decide
  have hvalue := @trim_padded _ (ofString value) [] hspaces (List.forall_mem_nil _)
  rw [List.append_nil] at hvalue
  rw [hchars, Caplv.Host.keyValue_append hcolon, hvalue]

theorem newline_not_mem_column {key value : String} (hkey : '\n' ∉ key.toList) (hvalue : '\n' ∉ value.toList) :
    '\n' ∉ (column (key, value)).toList := by
  simp [column, hkey, hvalue]

theorem head?_unlines_column {key : String} (hkey : key ≠ "") (value : String) (rest : List String) :
    (unlines (column (key, value) :: rest)).toList.head? = key.toList.head? := by
  obtain ⟨c, chars, hchars⟩ := List.exists_cons_of_ne_nil fun hnil => hkey (String.toList_eq_nil_iff.mp hnil)
  simp [unlines, column, hchars]

section Report

variable (report : Caplv.Host.DomainReport) (value : String)

theorem readLine_uuid : report.readLine (ofString (column ("UUID", value))) =
    .ok { report with uuid := trim (ofString value) } := by
  have hkey : trim (ofString "UUID") = ofString "UUID" := by decide
  rw [Caplv.Host.DomainReport.readLine, keyValue_column (by decide), hkey]
  rfl

theorem readLine_state : report.readLine (ofString (column ("State", value))) =
    .ok { report with state := trim (ofString value) } := by
  have hkey : trim (ofString "State") = ofString "State" := by decide
  rw [Caplv.Host.DomainReport.readLine, keyValue_column (by decide), hkey]
  rfl

theorem readLine_other {key : String} (hkey : ':' ∉ key.toList) (huuid : trim (ofString key) ≠ ofString "UUID")
    (hstate : trim (ofString key) ≠ ofString "State") :
    report.readLine (ofString (column (key, value))) = .ok report := by
  rw [Caplv.Host.DomainReport.readLine, keyValue_column hkey]
  exact (if_neg huuid).trans (if_neg hstate)

end Report

theorem isSpace_of_map {found : Option Char} (h : found.map isSpace = some false) :
    ∀ c ∈ found, isSpace c = false := by
  intro c hc
  rw [Option.mem_def.mp hc] at h
  exact Option.some.inj h

theorem lines_trim_table {key value : String} {last : String × String} {middle : List (String × String)}
    (hnewline : ∀ entry ∈ (key, value) :: middle ++ [last], '\n' ∉ entry.1.toList ∧ '\n' ∉ entry.2.toList)
    (hfirst : key.toList.head?.map isSpace = some false)
    (hlast : last.2.toList.getLast?.map isSpace = some false) :
    lines (trim (decode (table ((key, value) :: middle ++ [last])))) =
      ((key, value) :: middle ++ [last]).map fun entry => ofString (column entry) := by
  have hkey : key ≠ "" := by
    rintro rfl
    cases hfirst
  have hchars : last.2.toList ≠ [] := by
    intro hnil
    rw [hnil] at hlast
    cases hlast
  have hsplit : ((key, value) :: middle ++ [last]).map column =
      ((key, value) :: middle).map column ++ [column last] := List.map_append
  have hlines := @lines_trim_unlines (((key, value) :: middle).map column) (column last) ?_ ?_ ?_ ?_
  · rw [table, hsplit, hlines, ← hsplit, List.map_map]
    rfl
  · rw [← hsplit, List.forall_mem_map]
    intro entry hentry
    exact newline_not_mem_column (hnewline entry hentry).1 (hnewline entry hentry).2
  · rw [List.map_cons, List.cons_append, head?_unlines_column hkey]
    exact isSpace_of_map hfirst
  · rw [column, String.toList_append, List.getLast?_append_of_ne_nil _ hchars]
    exact isSpace_of_map hlast
  · intro hempty
    have hnil : (column last).toList = [] := String.toList_eq_nil_iff.mpr hempty
    rw [column, String.toList_append] at hnil
    exact hchars (List.append_eq_nil_iff.mp hnil).2

theorem getDomain_dominfoTable {name : String} {d : Domain} (hname : '\n' ∉ name.toList)
    (hline : '\n' ∉ d.uuid.toList) (huuid : Trimmed d.uuid) :
    Caplv.Host.getDomain name (.ok (dominfoTable name d)) =
      .ok (.ok ⟨name, ofString d.uuid, ofString (if d.running then "running" else "shut off")⟩) := by
  have hid : '\n' ∉ (if d.running then "1" else "-").toList := by split <;> decide
  have hstate : '\n' ∉ (if d.running then "running" else "shut off").toList := by split <;> decide
  have htrimmed : trim (ofString (if d.running then "running" else "shut off")) =
      ofString (if d.running then "running" else "shut off") := by split <;> decide
  have hnewline : ∀ entry ∈ [("Id", if d.running then "1" else "-"), ("Name", name), ("UUID", d.uuid),
      ("OS Type", "hvm"), ("State", if d.running then "running" else "shut off"), ("Persistent", "yes")],
      '\n' ∉ entry.1.toList ∧ '\n' ∉ entry.2.toList := by
    simp [hid, hname, hline, hstate]
  have hlines := @lines_trim_table "Id" _ ("Persistent", "yes") [_, _, _, _] hnewline (by decide) (by decide)
  have houtput : Caplv.Host.getDomain name (.ok (dominfoTable name d)) =
      (lines (trim (decode (dominfoTable name d)))).foldlM Caplv.Host.DomainReport.readLine ⟨name, [], []⟩ >>=
        fun report => .ok (.ok report) := rfl
  simp only [List.cons_append, List.nil_append, List.map_cons, List.map_nil] at hlines
  rw [houtput, dominfoTable, hlines]
  simp (disch := decide) only [List.foldlM_cons, List.foldlM_nil, readLine_other, readLine_uuid, readLine_state]
  rw [huuid, htrimmed]
  rfl

theorem poolIsActive_poolInfoTable {name : String} {p : Pool} (hname : '\n' ∉ name.toList) :
    Caplv.Host.poolIsActive name (.ok (poolInfoTable name p)) = .ok (.ok p.active) := by
  have hnewline : ∀ entry ∈ [("Name", name), ("State", if p.active then "running" else "inactive"),
      ("Persistent", "yes")], '\n' ∉ entry.1.toList ∧ '\n' ∉ entry.2.toList := by
    have hstate : '\n' ∉ (if p.active then "running" else "inactive").toList := by split <;> decide
    simp [hname, hstate]
  have hlines := @lines_trim_table "Name" _ ("Persistent", "yes") [_] hnewline (by decide) (by decide)
  have hother : Caplv.Host.cutHead (ofString (column ("Name", name))) (ofString "State:") = .ok none := by
    simp [Caplv.Host.cutHead, column, ofString]
  simp only [List.cons_append, List.nil_append, List.map_cons, List.map_nil] at hlines
  change (Caplv.Host.poolState (lines (trim (decode (poolInfoTable name p)))) >>= _) = _
  rw [poolInfoTable, hlines, Caplv.Host.poolState, hother]
  cases p.active with
  | true => decide
  | false => decide

end Tables

section PoolXml

theorem isPrefixOf_map_char (part s : List Char) :
    (part.map Rune.char).isPrefixOf (s.map Rune.char) = part.isPrefixOf s := by
  induction part generalizing s with
  | nil => simp
  | cons c part ih =>
    cases s with
    | nil => rfl
    | cons d s =>
      have hchar : (Rune.char c == Rune.char d) = (c == d) := by
        rw [Bool.eq_iff_iff]
        simp
      simp only [List.map_cons, List.isPrefixOf, ih, hchar]

theorem indexOf_map_char (s part : List Char) :
    indexOf (s.map Rune.char) (part.map Rune.char) = indexOf s part := by
  induction s with
  | nil => simp [indexOf, indexOf]
  | cons c rest ih =>
    have hhead := isPrefixOf_map_char part (c :: rest)
    rw [List.map_cons] at hhead ⊢
    rw [indexOf, indexOf, hhead, ih]

def pathOpen : List Char := "<path>".toList

def pathClose : List Char := "</path>".toList

-- What stands before the pool's name, and between the name and the path.
def beforePoolName : List Char := "<pool type=\"dir\">\n  <name>".toList

def beforePath : List Char := "</name>\n  <target>\n    ".toList

def afterPath : List Char := "\n  </target>\n</pool>".toList

theorem render_poolElement (name : String) (p : Pool) :
    Xml.render 0 (poolElement name p) = beforePoolName ++ (Xml.escape name ++ (beforePath ++ (pathOpen ++
      (Xml.escape p.path ++ (pathClose ++ afterPath))))) := by
  simp only [poolElement, Xml.render, Xml.renderAll, List.append_assoc, List.cons_append, List.nil_append]
  rfl

theorem indexOf_pathOpen (name : String) (rest : List Char) :
    indexOf (beforePoolName ++ (Xml.escape name ++ (beforePath ++ (pathOpen ++ rest)))) pathOpen =
      some (beforePoolName.length + (Xml.escape name).length + beforePath.length) := by
  have hbefore (rest : List Char) : indexOf (beforePoolName ++ rest) pathOpen =
      (Option.map (· + 1))^[beforePoolName.length] (indexOf rest pathOpen) := rfl
  have hbetween : indexOf (beforePath ++ (pathOpen ++ rest)) pathOpen = some beforePath.length := rfl
  have hname := indexOf_append (show pathOpen.head? = some '<' from rfl) (Xml.lt_not_mem_escape name)
    (beforePath ++ (pathOpen ++ rest))
  rw [hbefore, iterate_map_succ, hname, hbetween]
  simp only [Option.map_some, Option.some.injEq]
  omega

theorem indexOf_pathClose (name path : String) (rest : List Char) :
    indexOf (beforePoolName ++ (Xml.escape name ++ (beforePath ++ (pathOpen ++ (Xml.escape path ++
      (pathClose ++ rest)))))) pathClose = some (beforePoolName.length + (Xml.escape name).length +
        beforePath.length + pathOpen.length + (Xml.escape path).length) := by
  have hhead : pathClose.head? = some '<' := rfl
  have hbefore (rest : List Char) : indexOf (beforePoolName ++ rest) pathClose =
      (Option.map (· + 1))^[beforePoolName.length] (indexOf rest pathClose) := rfl
  have hbetween (rest : List Char) : indexOf (beforePath ++ (pathOpen ++ rest)) pathClose =
      (Option.map (· + 1))^[beforePath.length + pathOpen.length] (indexOf rest pathClose) := rfl
  have hfound : indexOf (pathClose ++ rest) pathClose = some 0 := rfl
  rw [hbefore, iterate_map_succ, indexOf_append hhead (Xml.lt_not_mem_escape name), hbetween, iterate_map_succ,
    indexOf_append hhead (Xml.lt_not_mem_escape path), hfound]
  simp only [Option.map_some, Option.some.injEq]
  omega

theorem slice_append {α : Type} {i j : Nat} {first second third : List α} (hi : i = first.length)
    (hj : j = first.length + second.length) : slice (first ++ (second ++ third)) i j = .ok second := by
  have hbounds : j ≤ (first ++ (second ++ third)).length := by
    simp only [List.length_append]
    omega
  have htake : (first ++ (second ++ third)).take j = first ++ second := by
    rw [← List.append_assoc, List.take_left' (by rw [List.length_append, hj])]
  rw [slice_of_le (by omega) hbounds, htake, List.drop_left' hi.symm]

theorem trim_poolXml (name : String) (p : Pool) :
    trim (decode (poolXml name p)) = (Xml.render 0 (poolElement name p)).map Rune.char := by
  have hchars : (Xml.render 0 (poolElement name p) ++ ['\n']).map Rune.char =
      (Xml.render 0 (poolElement name p)).map Rune.char ++ [.newline] := List.map_append
  rw [poolXml, decode_encode, hchars, trim_concat_space (by decide), render_poolElement]
  apply trim_eq_self
  · rintro r ⟨⟩
    decide
  · intro r hr
    simp only [← List.append_assoc] at hr
    rw [List.map_append, List.getLast?_append_of_ne_nil _ (by decide)] at hr
    revert r
    decide

theorem extractXMLElement_poolXml {name : String} {p : Pool} (hpath : Xml.escape p.path = p.path.toList) :
    extractXMLElement (trim (decode (poolXml name p))) "path" = .ok (ofString p.path) := by
  let before := beforePoolName ++ (Xml.escape name ++ beforePath)
  have htext : (Xml.render 0 (poolElement name p)).map Rune.char = (before ++ pathOpen).map Rune.char ++
      (ofString p.path ++ (pathClose ++ afterPath).map Rune.char) := by
    simp only [before, render_poolElement, hpath, ofString, List.append_assoc, List.map_append]
  have hstart : indexOf ((Xml.render 0 (poolElement name p)).map Rune.char) (ofString ("<" ++ "path" ++ ">")) =
      some before.length := by
    have hpart : ofString ("<" ++ "path" ++ ">") = pathOpen.map Rune.char := by decide
    rw [hpart, indexOf_map_char, render_poolElement, indexOf_pathOpen]
    simp only [before, List.length_append, Nat.add_assoc]
  have hstop : indexOf ((Xml.render 0 (poolElement name p)).map Rune.char) (ofString ("</" ++ "path" ++ ">")) =
      some (before.length + pathOpen.length + p.path.toList.length) := by
    have hpart : ofString ("</" ++ "path" ++ ">") = pathClose.map Rune.char := by decide
    rw [hpart, indexOf_map_char, render_poolElement, indexOf_pathClose, hpath]
    simp only [before, List.length_append, Nat.add_assoc]
  have hopen : pathOpen.length = 6 := by decide
  have hlength : "path".length = 4 := by decide
  rw [trim_poolXml, extractXMLElement, hstart, hstop]
  simp only
  rw [if_pos (by omega), htext]
  apply slice_append
  · simp only [List.length_map, List.length_append]
    omega
  · simp only [List.length_map, List.length_append, ofString]

end PoolXml

section Sizes

theorem toList_toString_ofNat (n : Nat) : (toString (n : Int)).toList = Nat.toDigits 10 n := Nat.toList_repr

theorem readSize_digits (n : Nat) : readSize (toString (n : Int)) = some n := by
  have hlast : (toString (n : Int)).toList.getLast? ≠ some 'M' := by
    rw [toList_toString_ofNat]
    intro hM
    have hdigit : 'M'.isDigit = true := isDigit_of_mem_toDigits (List.mem_of_getLast? hM)
    exact absurd hdigit (by decide)
  rw [readSize]
  split
  · rename_i hM
    exact absurd hM hlast
  · rw [toList_toString_ofNat, readDigits_toDigits]

theorem readSize_mebibytes {sizeBytes : Int} (h : 0 ≤ sizeBytes) :
    readSize (Sessions.mebibytes sizeBytes) = some (sizeBytes.toNat / 1048576 * 1048576) := by
  obtain ⟨n, rfl⟩ := Int.eq_ofNat_of_zero_le h
  have hdiv : (n : Int).tdiv 1048576 = ((n / 1048576 : Nat) : Int) := rfl
  have hchars : (Sessions.mebibytes n).toList = Nat.toDigits 10 (n / 1048576) ++ ['M'] := by
    rw [Sessions.mebibytes, hdiv, String.toList_append, toList_toString_ofNat]
    rfl
  rw [readSize, hchars, List.getLast?_concat, List.dropLast_concat]
  simp only [readDigits_toDigits, Option.map_some, Int.toNat_natCast]

end Sizes

section Definitions

theorem mapM_character? (chars : List Char) : (chars.map Rune.char).mapM character? = some chars := by
  induction chars with
  | nil => rfl
  | cons c chars ih => simp [character?, ih]

-- The daemon reads the document that was marshalled, with the characters XML has no place for
-- replaced.
theorem readDefinition_text (d : DomainXML) :
    readDefinition (encode d.text.toList) = some (d.mapTexts Xml.legalText) := by
  rw [readDefinition, decode_encode, mapM_character?, DomainXML.text, String.toList_ofList]
  change (Xml.read _ >>= readDomain) = _
  rw [Xml.read_render (proper_element d), Option.bind_eq_bind, Option.bind_some, mapTexts_element,
    readDomain_element]

end Definitions

end Caplv.Libvirt
