import Mathlib.Data.List.Basic

namespace Caplv.Xml

-- An element with a text or with other elements in it.
inductive Element where
  | leaf (name : String) (attrs : List (String × String)) (text : String)
  | node (name : String) (attrs : List (String × String)) (children : List Element)

namespace Element

def name : Element → String
  | .leaf name _ _ | .node name _ _ => name

def attrs : Element → List (String × String)
  | .leaf _ attrs _ | .node _ attrs _ => attrs

def text : Element → String
  | .leaf _ _ text => text
  | .node _ _ _ => ""

def children : Element → List Element
  | .leaf _ _ _ => []
  | .node _ _ children => children

-- The value of an attribute, the elements of a name inside an element and the first of them; what
-- is not there is empty.
def value (element : Element) (key : String) : String := (element.attrs.lookup key).getD ""

def named (name : String) (elements : List Element) : List Element :=
  elements.filter fun element => element.name = name

def inside (element : Element) (name : String) : List Element := named name element.children

def child (element : Element) (name : String) : Element :=
  (element.inside name).headD (.leaf name [] "")

@[simp] theorem name_leaf (name : String) (attrs : List (String × String)) (text : String) :
    (leaf name attrs text).name = name := rfl

@[simp] theorem name_node (name : String) (attrs : List (String × String)) (children : List Element) :
    (node name attrs children).name = name := rfl

@[simp] theorem text_leaf (name : String) (attrs : List (String × String)) (text : String) :
    (leaf name attrs text).text = text := rfl

@[simp] theorem value_leaf (name key text : String) (attrs : List (String × String)) :
    (leaf name attrs text).value key = (attrs.lookup key).getD "" := rfl

@[simp] theorem value_node (name key : String) (attrs : List (String × String)) (children : List Element) :
    (node name attrs children).value key = (attrs.lookup key).getD "" := rfl

@[simp] theorem inside_node (name key : String) (attrs : List (String × String)) (children : List Element) :
    (node name attrs children).inside key = named key children := rfl

@[simp] theorem child_node (name key : String) (attrs : List (String × String)) (children : List Element) :
    (node name attrs children).child key = (named key children).headD (.leaf key [] "") := rfl

@[simp] theorem named_nil (name : String) : named name [] = [] := rfl

@[simp] theorem named_cons (name : String) (element : Element) (elements : List Element) :
    named name (element :: elements) =
      if element.name = name then element :: named name elements else named name elements := by
  unfold named
  by_cases hname : element.name = name <;> simp [hname]

@[simp] theorem named_append (name : String) (first second : List Element) :
    named name (first ++ second) = named name first ++ named name second :=
  List.filter_append ..

theorem named_map {α : Type} (f : α → Element) (kind : String) (hkind : ∀ item, (f item).name = kind)
    (name : String) (items : List α) : named name (items.map f) = if kind = name then items.map f else [] := by
  induction items with
  | nil => exact (ite_self []).symm
  | cons item items ih =>
    rw [List.map_cons, named_cons, ih, hkind]
    split <;> rfl

-- The induction over the elements inside an element.
theorem induct {motive : Element → Prop} (hleaf : ∀ name attrs text, motive (.leaf name attrs text))
    (hnode : ∀ name attrs children, (∀ child ∈ children, motive child) → motive (.node name attrs children))
    (element : Element) : motive element :=
  @Element.rec motive (fun children => ∀ child ∈ children, motive child) hleaf hnode
    (fun _ hchild => by cases hchild)
    (fun _ _ hhead hrest => List.forall_mem_cons.mpr ⟨hhead, hrest⟩) element

mutual

def mapTexts (f : String → String) : Element → Element
  | .leaf name attrs text => .leaf name (attrs.map fun attr => (attr.1, f attr.2)) (f text)
  | .node name attrs children =>
    .node name (attrs.map fun attr => (attr.1, f attr.2)) (mapAll f children)

def mapAll (f : String → String) : List Element → List Element
  | [] => []
  | child :: rest => mapTexts f child :: mapAll f rest

end

theorem mapAll_eq_map (f : String → String) (children : List Element) :
    mapAll f children = children.map (mapTexts f) := by
  induction children with
  | nil => rfl
  | cons child rest ih => rw [mapAll, ih, List.map_cons]

@[simp] theorem mapTexts_leaf (f : String → String) (name : String) (attrs : List (String × String))
    (text : String) : mapTexts f (.leaf name attrs text) =
      .leaf name (attrs.map fun attr => (attr.1, f attr.2)) (f text) := by
  rw [mapTexts]

@[simp] theorem mapTexts_node (f : String → String) (name : String) (attrs : List (String × String))
    (children : List Element) : mapTexts f (.node name attrs children) =
      .node name (attrs.map fun attr => (attr.1, f attr.2)) (children.map (mapTexts f)) := by
  rw [mapTexts, mapAll_eq_map]

end Element

section Escaping

-- The characters a document may hold; any other one is written as U+FFFD.
def legal (c : Char) : Bool :=
  let n := c.toNat
  n == 0x9 || n == 0xA || n == 0xD || (0x20 ≤ n && n ≤ 0xD7FF) || (0xE000 ≤ n && n ≤ 0xFFFD) || 0x10000 ≤ n

def legalChar (c : Char) : Char := if legal c then c else Char.ofNat 0xFFFD

def legalText (s : String) : String := String.ofList (s.toList.map legalChar)

def references : List (Char × List Char) :=
  [('"', ['#', '3', '4']), ('\'', ['#', '3', '9']), ('&', ['a', 'm', 'p']), ('<', ['l', 't']),
    ('>', ['g', 't']), ('\t', ['#', 'x', '9']), ('\n', ['#', 'x', 'A']), ('\r', ['#', 'x', 'D'])]

def escapeChar (c : Char) : List Char :=
  match references.lookup c with
  | some ref => '&' :: ref ++ [';']
  | none => [legalChar c]

def escape (s : String) : List Char := s.toList.flatMap escapeChar

theorem legal_of_le {c : Char} (hlow : 0x20 ≤ c.toNat) (hhigh : c.toNat ≤ 0x7E) : legal c = true := by
  have hmiddle : (decide (0x20 ≤ c.toNat) && decide (c.toNat ≤ 0xD7FF)) = true := by
    simp only [Bool.and_eq_true, decide_eq_true_eq]
    omega
  simp only [legal, hmiddle, Bool.or_true, Bool.true_or]

theorem legalText_of_legal {s : String} (hs : s.toList.all legal = true) : legalText s = s := by
  have hmap : s.toList.map legalChar = s.toList := by
    have hkept : ∀ c ∈ s.toList, legalChar c = id c := fun c hc => if_pos (List.all_eq_true.mp hs c hc)
    rw [List.map_congr_left hkept, List.map_id]
  rw [legalText, hmap, String.ofList_toList]

theorem legalText_eq_empty (s : String) : legalText s = "" ↔ s = "" := by
  rw [legalText, ← String.toList_eq_nil_iff, String.toList_ofList, List.map_eq_nil_iff, String.toList_eq_nil_iff]

theorem escapeChar_length (c : Char) : 1 ≤ (escapeChar c).length := by
  unfold escapeChar
  split
  · simp
  · simp

theorem escapeChar_eq_singleton {c : Char} (hlength : (escapeChar c).length = 1) :
    escapeChar c = [legalChar c] := by
  unfold escapeChar at hlength ⊢
  split at hlength
  · simp at hlength
  · rfl

theorem escapeChar_eq_self_iff (c : Char) :
    escapeChar c = [c] ↔ legal c = true ∧ c ∉ ['"', '\'', '&', '<', '>', '\t', '\n', '\r'] := by
  have hkeys : ['"', '\'', '&', '<', '>', '\t', '\n', '\r'] = references.map Prod.fst := rfl
  have hmem : c ∈ references.map Prod.fst ↔ (references.lookup c).isSome := by
    rw [List.mem_map]
    constructor
    · rintro ⟨entry, hentry, rfl⟩
      by_contra hnone
      rw [Option.not_isSome_iff_eq_none, List.lookup_eq_none_iff] at hnone
      exact absurd (hnone entry hentry) (by simp)
    · intro hsome
      obtain ⟨ref, hlookup⟩ := Option.isSome_iff_exists.mp hsome
      obtain ⟨before, after, htable, -⟩ := List.lookup_eq_some_iff.mp hlookup
      exact ⟨(c, ref), htable ▸ List.mem_append_right _ List.mem_cons_self, rfl⟩
  rw [hkeys, hmem, escapeChar]
  cases references.lookup c with
  | some ref => simp
  | none =>
    by_cases hlegal : legal c = true
    · simp [legalChar, hlegal]
    · have hne : Char.ofNat 0xFFFD ≠ c := by
        rintro rfl
        exact hlegal rfl
      simp [legalChar, hlegal, hne]

theorem length_escape (chars : List Char) : chars.length ≤ (chars.flatMap escapeChar).length := by
  induction chars with
  | nil => exact Nat.le_refl 0
  | cons c chars ih =>
    have hc := escapeChar_length c
    rw [List.flatMap_cons, List.length_append, List.length_cons]
    omega

-- Only what is written with every character as itself is written as it is: references are longer.
theorem flatMap_escapeChar_eq (chars : List Char) :
    chars.flatMap escapeChar = chars ↔ ∀ c ∈ chars, escapeChar c = [c] := by
  induction chars with
  | nil => simp
  | cons c chars ih =>
    rw [List.flatMap_cons, List.forall_mem_cons, ← ih]
    constructor
    · intro heq
      have hlength : (escapeChar c).length = 1 := by
        have hsum := congrArg List.length heq
        have hrest := length_escape chars
        have hc := escapeChar_length c
        rw [List.length_append, List.length_cons] at hsum
        omega
      rw [escapeChar_eq_singleton hlength, List.singleton_append, List.cons.injEq] at heq
      rw [escapeChar_eq_singleton hlength, heq.1]
      exact ⟨rfl, heq.2⟩
    · rintro ⟨hc, hrest⟩
      rw [hc, hrest, List.singleton_append]

end Escaping

section Rendering

def indentation (depth : Nat) : List Char := List.replicate (2 * depth) ' '

def attrText (attr : String × String) : List Char :=
  ' ' :: attr.1.toList ++ '=' :: '"' :: escape attr.2 ++ ['"']

def startTag (name : String) (attrs : List (String × String)) : List Char :=
  '<' :: name.toList ++ attrs.flatMap attrText ++ ['>']

def endTag (name : String) : List Char := '<' :: '/' :: name.toList ++ ['>']

mutual

-- A text stands on the line of its element, each element inside another on a line of its own.
def render (depth : Nat) : Element → List Char
  | .leaf name attrs text => startTag name attrs ++ escape text ++ endTag name
  | .node name attrs children =>
    startTag name attrs ++ renderAll (depth + 1) children ++ '\n' :: indentation depth ++ endTag name

def renderAll (depth : Nat) : List Element → List Char
  | [] => []
  | child :: rest => '\n' :: indentation depth ++ render depth child ++ renderAll depth rest

end

def header : List Char := "<?xml version=\"1.0\" encoding=\"UTF-8\"?>\n".toList

end Rendering

-- An element whose end tag is still to come, with what has been read inside it.
structure Frame where
  name : String
  attrs : List (String × String) := []
  children : List Element := []
  text : List Char := []

-- Where the reader is: outside of tags, behind the bracket of a tag, in a start tag and its
-- attributes, in a reference, in an end tag, in the declaration, or behind the document. The
-- frames are those of the elements around it, the innermost first.
inductive State where
  | content (around : List Frame)
  | bracket (around : List Frame)
  | startName (around : List Frame) (name : List Char)
  | inTag (around : List Frame) (frame : Frame)
  | attrName (around : List Frame) (frame : Frame) (key : List Char)
  | attrOpen (around : List Frame) (frame : Frame) (key : List Char)
  | attrValue (around : List Frame) (frame : Frame) (key value : List Char)
  | attrRef (around : List Frame) (frame : Frame) (key value ref : List Char)
  | textRef (around : List Frame) (frame : Frame) (ref : List Char)
  | endName (around : List Frame) (name : List Char)
  | declaration (question : Bool)
  | finished (root : Element)

section Reading

def isWhite (c : Char) : Bool := c = ' ' || c = '\t' || c = '\n'

def isNameChar (c : Char) : Bool := c.isAlphanum || c = '_' || c = '-' || c = '.' || c = ':'

def hexValue (c : Char) : Option Nat :=
  if c.isDigit then some (c.toNat - '0'.toNat)
  else if 'a' ≤ c ∧ c ≤ 'f' then some (c.toNat - 'a'.toNat + 10)
  else if 'A' ≤ c ∧ c ≤ 'F' then some (c.toNat - 'A'.toNat + 10)
  else none

def hexNumber (digits : List Char) : Option Nat :=
  digits.foldlM (fun n c => (hexValue c).map (16 * n + ·)) 0

def decimalNumber (digits : List Char) : Option Nat :=
  digits.foldlM (fun n c => if c.isDigit then some (10 * n + (c.toNat - '0'.toNat)) else none) 0

def charOf (n : Nat) : Option Char :=
  if n.isValidChar ∧ legal (Char.ofNat n) then some (Char.ofNat n) else none

-- The character a reference stands for: one of the five predefined ones or a number.
def referenced : List Char → Option Char
  | ['a', 'm', 'p'] => some '&'
  | ['l', 't'] => some '<'
  | ['g', 't'] => some '>'
  | ['q', 'u', 'o', 't'] => some '"'
  | ['a', 'p', 'o', 's'] => some '\''
  | '#' :: 'x' :: digit :: rest => hexNumber (digit :: rest) >>= charOf
  | '#' :: digit :: rest => decimalNumber (digit :: rest) >>= charOf
  | _ => none

-- Blanks between the elements inside an element do not count; other text does not stand there.
def Frame.element (frame : Frame) : Option Element :=
  if frame.children.isEmpty then some (.leaf frame.name frame.attrs (String.ofList frame.text))
  else if frame.text.all isWhite then some (.node frame.name frame.attrs frame.children)
  else none

-- A complete element goes into the one around it; the outermost is the document.
def attach (element : Element) : List Frame → State
  | [] => .finished element
  | parent :: around => .content ({ parent with children := parent.children ++ [element] } :: around)

def close (name : String) : List Frame → Option State
  | [] => none
  | frame :: around => if frame.name = name then frame.element.map fun element => attach element around else none

-- One character of the document. Comments, CDATA sections, empty-element tags, single-quoted
-- values and carriage returns are not read.
def step : State → Char → Option State
  | .content around, c =>
    if c = '<' then some (.bracket around)
    else
      match around with
      | [] => if isWhite c then some (.content []) else none
      | frame :: around =>
        if c = '&' then some (.textRef around frame [])
        else if c = '\r' then none
        else some (.content ({ frame with text := frame.text ++ [c] } :: around))
  | .bracket around, c =>
    if c = '/' then some (.endName around [])
    else if c = '?' ∧ around.isEmpty then some (.declaration false)
    else if isNameChar c then some (.startName around [c])
    else none
  | .startName around name, c =>
    if c = '>' then some (.content ({ name := String.ofList name } :: around))
    else if isWhite c then some (.inTag around { name := String.ofList name })
    else if isNameChar c then some (.startName around (name ++ [c]))
    else none
  | .inTag around frame, c =>
    if c = '>' then some (.content (frame :: around))
    else if isWhite c then some (.inTag around frame)
    else if isNameChar c then some (.attrName around frame [c])
    else none
  | .attrName around frame key, c =>
    if c = '=' then some (.attrOpen around frame key)
    else if isNameChar c then some (.attrName around frame (key ++ [c]))
    else none
  | .attrOpen around frame key, c => if c = '"' then some (.attrValue around frame key []) else none
  | .attrValue around frame key value, c =>
    if c = '"' then
      some (.inTag around { frame with attrs := frame.attrs ++ [(String.ofList key, String.ofList value)] })
    else if c = '&' then some (.attrRef around frame key value [])
    else if c = '<' ∨ c = '\r' then none
    else some (.attrValue around frame key (value ++ [if isWhite c then ' ' else c]))
  | .attrRef around frame key value ref, c =>
    if c = ';' then (referenced ref).map fun found => .attrValue around frame key (value ++ [found])
    else some (.attrRef around frame key value (ref ++ [c]))
  | .textRef around frame ref, c =>
    if c = ';' then
      (referenced ref).map fun found => .content ({ frame with text := frame.text ++ [found] } :: around)
    else some (.textRef around frame (ref ++ [c]))
  | .endName around name, c =>
    if c = '>' then close (String.ofList name) around
    else if isNameChar c then some (.endName around (name ++ [c]))
    else none
  | .declaration question, c =>
    if c = '>' ∧ question then some (.content []) else some (.declaration (c = '?'))
  | .finished root, c => if isWhite c then some (.finished root) else none

def follow : State → List Char → Option State
  | state, [] => some state
  | state, c :: rest => step state c >>= fun next => follow next rest

def read (document : List Char) : Option Element :=
  match follow (.content []) document with
  | some (.finished root) => some root
  | _ => none

end Reading

section RoundTrip

variable {around : List Frame} {frame : Frame} {state next : State} {rest chars : List Char}
  {attrs : List (String × String)} {name : String}

theorem follow_cons {c : Char} (hstep : step state c = some next) :
    follow state (c :: rest) = follow next rest := by
  rw [follow, hstep]
  rfl

theorem follow_append {first second : List Char} (hfirst : follow state first = some next) :
    follow state (first ++ second) = follow next second := by
  induction first generalizing state with
  | nil =>
    obtain rfl := Option.some.inj hfirst
    rfl
  | cons c first ih =>
    cases hstep : step state c with
    | none =>
      rw [follow, hstep] at hfirst
      cases hfirst
    | some middle =>
      rw [follow_cons hstep] at hfirst
      rw [List.cons_append, follow_cons hstep]
      exact ih hfirst

def IsName (s : String) : Prop := s.toList ≠ [] ∧ s.toList.all isNameChar = true

instance (s : String) : Decidable (IsName s) := inferInstanceAs (Decidable (_ ∧ _))

theorem ne_of_isNameChar {c other : Char} (hc : isNameChar c = true) (hother : isNameChar other = false) :
    c ≠ other := by
  rintro rfl
  exact Bool.noConfusion (hc.symm.trans hother)

theorem isWhite_of_isNameChar {c : Char} (hc : isNameChar c = true) : isWhite c = false := by
  have hspace := ne_of_isNameChar hc (show isNameChar ' ' = false by decide)
  have htab := ne_of_isNameChar hc (show isNameChar '\t' = false by decide)
  have hnewline := ne_of_isNameChar hc (show isNameChar '\n' = false by decide)
  simp [isWhite, hspace, htab, hnewline]

-- A state that takes in the characters it reads, one after the other.
theorem follow_gather {take : List Char → State} {chars : List Char}
    (hstep : ∀ c ∈ chars, ∀ seen, step (take seen) c = some (take (seen ++ [c]))) (seen : List Char) :
    follow (take seen) chars = some (take (seen ++ chars)) := by
  induction chars generalizing seen with
  | nil => rw [List.append_nil, follow]
  | cons c chars ih =>
    obtain ⟨hfirst, hrest⟩ := List.forall_mem_cons.mp hstep
    rw [follow_cons (hfirst seen), ih hrest, List.append_assoc, List.singleton_append]

theorem follow_startName (hchars : chars.all isNameChar = true) (name : List Char) :
    follow (.startName around name) chars = some (.startName around (name ++ chars)) := by
  refine @follow_gather (.startName around) chars (fun c hmem seen => ?_) name
  have hc := List.all_eq_true.mp hchars c hmem
  have hclose := ne_of_isNameChar hc (show isNameChar '>' = false by decide)
  simp [step, hclose, isWhite_of_isNameChar hc, hc]

theorem follow_attrName (hchars : chars.all isNameChar = true) (key : List Char) :
    follow (.attrName around frame key) chars = some (.attrName around frame (key ++ chars)) := by
  refine @follow_gather (.attrName around frame) chars (fun c hmem seen => ?_) key
  have hc := List.all_eq_true.mp hchars c hmem
  have hequals := ne_of_isNameChar hc (show isNameChar '=' = false by decide)
  simp [step, hequals, hc]

theorem follow_endName (hchars : chars.all isNameChar = true) (name : List Char) :
    follow (.endName around name) chars = some (.endName around (name ++ chars)) := by
  refine @follow_gather (.endName around) chars (fun c hmem seen => ?_) name
  have hc := List.all_eq_true.mp hchars c hmem
  have hclose := ne_of_isNameChar hc (show isNameChar '>' = false by decide)
  simp [step, hclose, hc]

-- What is written for a character: a reference that stands for it, or a character that is
-- none of those with a meaning.
theorem escapeChar_cases (c : Char) :
    (∃ ref, escapeChar c = '&' :: ref ++ [';'] ∧ ';' ∉ ref ∧ '<' ∉ ref ∧ referenced ref = some (legalChar c)) ∨
    escapeChar c = [legalChar c] ∧ ∀ entry ∈ references, legalChar c ≠ entry.1 := by
  have htable : ∀ entry ∈ references,
      ';' ∉ entry.2 ∧ '<' ∉ entry.2 ∧ referenced entry.2 = some (legalChar entry.1) := by
    decide
  have hlegal : ∀ entry ∈ references, legal entry.1 = true ∧ Char.ofNat 0xFFFD ≠ entry.1 := by decide
  unfold escapeChar
  split
  · rename_i ref hlookup
    obtain ⟨before, after, htable', -⟩ := List.lookup_eq_some_iff.mp hlookup
    have hmem : (c, ref) ∈ references := by
      rw [htable']
      exact List.mem_append_right _ List.mem_cons_self
    exact .inl ⟨ref, rfl, htable (c, ref) hmem⟩
  · rename_i hnone
    refine .inr ⟨rfl, fun entry hentry => ?_⟩
    have hc : c ≠ entry.1 := by
      rintro rfl
      exact absurd (List.lookup_eq_none_iff.mp hnone entry hentry) (by simp)
    rw [legalChar]
    split
    · exact hc
    · exact (hlegal entry hentry).2

theorem lt_not_mem_escape (s : String) : '<' ∉ escape s := by
  intro hmem
  obtain ⟨c, -, hc⟩ := List.mem_flatMap.mp hmem
  rcases escapeChar_cases c with ⟨ref, hescape, -, hlt, -⟩ | ⟨hescape, hplain⟩
  · rw [hescape] at hc
    simp [hlt] at hc
  · rw [hescape, List.mem_singleton] at hc
    exact hplain ('<', ['l', 't']) (by decide) hc.symm

theorem follow_attrRef {ref : List Char} (href : ';' ∉ ref) (key value seen : List Char) :
    follow (.attrRef around frame key value seen) ref =
      some (.attrRef around frame key value (seen ++ ref)) := by
  refine @follow_gather (.attrRef around frame key value) ref (fun c hmem seen => ?_) seen
  simp [step, ne_of_mem_of_not_mem hmem href]

theorem follow_textRef {ref : List Char} (href : ';' ∉ ref) (seen : List Char) :
    follow (.textRef around frame seen) ref = some (.textRef around frame (seen ++ ref)) := by
  refine @follow_gather (.textRef around frame) ref (fun c hmem seen => ?_) seen
  simp [step, ne_of_mem_of_not_mem hmem href]

theorem follow_attrValue_escapeChar (c : Char) (key value : List Char) :
    follow (.attrValue around frame key value) (escapeChar c) =
      some (.attrValue around frame key (value ++ [legalChar c])) := by
  rcases escapeChar_cases c with ⟨ref, hescape, hsemi, -, href⟩ | ⟨hescape, hplain⟩
  · have hopen : step (.attrValue around frame key value) '&' = some (.attrRef around frame key value []) := rfl
    rw [hescape, List.cons_append, follow_cons hopen, follow_append (follow_attrRef hsemi key value [])]
    have hclose : step (.attrRef around frame key value ref) ';' =
        some (.attrValue around frame key (value ++ [legalChar c])) := by
      simp [step, href]
    exact follow_cons hclose
  · rw [hescape]
    have hne (other : Char) (ref : List Char) (hmem : (other, ref) ∈ references) : legalChar c ≠ other :=
      hplain (other, ref) hmem
    have hquote := hne '"' _ List.mem_cons_self
    have hamp := hne '&' ['a', 'm', 'p'] (by decide)
    have hlt := hne '<' ['l', 't'] (by decide)
    have htab := hne '\t' ['#', 'x', '9'] (by decide)
    have hnewline := hne '\n' ['#', 'x', 'A'] (by decide)
    have hreturn := hne '\r' ['#', 'x', 'D'] (by decide)
    -- the only blank that is written as itself is a space
    have hkept : (if isWhite (legalChar c) then ' ' else legalChar c) = legalChar c := by
      by_cases hspace : legalChar c = ' '
      · rw [hspace]
        rfl
      · have hwhite : isWhite (legalChar c) = false := by simp [isWhite, hspace, htab, hnewline]
        rw [hwhite]
        rfl
    have hstep : step (.attrValue around frame key value) (legalChar c) =
        some (.attrValue around frame key (value ++ [legalChar c])) := by
      simp only [step, hquote, hamp, hlt, hreturn, hkept, or_self, if_false]
    exact follow_cons hstep

theorem follow_text_escapeChar (c : Char) :
    follow (.content (frame :: around)) (escapeChar c) =
      some (.content ({ frame with text := frame.text ++ [legalChar c] } :: around)) := by
  rcases escapeChar_cases c with ⟨ref, hescape, hsemi, -, href⟩ | ⟨hescape, hplain⟩
  · have hopen : step (.content (frame :: around)) '&' = some (.textRef around frame []) := rfl
    rw [hescape, List.cons_append, follow_cons hopen, follow_append (follow_textRef hsemi [])]
    have hclose : step (.textRef around frame ref) ';' =
        some (.content ({ frame with text := frame.text ++ [legalChar c] } :: around)) := by
      simp [step, href]
    exact follow_cons hclose
  · rw [hescape]
    have hamp : legalChar c ≠ '&' := hplain ('&', ['a', 'm', 'p']) (by decide)
    have hlt : legalChar c ≠ '<' := hplain ('<', ['l', 't']) (by decide)
    have hreturn : legalChar c ≠ '\r' := hplain ('\r', ['#', 'x', 'D']) (by decide)
    have hstep : step (.content (frame :: around)) (legalChar c) =
        some (.content ({ frame with text := frame.text ++ [legalChar c] } :: around)) := by
      simp only [step, hamp, hlt, hreturn, if_false]
    exact follow_cons hstep

theorem follow_attrValue_escape (chars key value : List Char) :
    follow (.attrValue around frame key value) (chars.flatMap escapeChar) =
      some (.attrValue around frame key (value ++ chars.map legalChar)) := by
  induction chars generalizing value with
  | nil => rw [List.map_nil, List.append_nil, List.flatMap_nil, follow]
  | cons c chars ih =>
    rw [List.flatMap_cons, follow_append (follow_attrValue_escapeChar c key value), ih, List.map_cons,
      List.append_assoc, List.singleton_append]

theorem follow_text_escape (chars : List Char) :
    follow (.content (frame :: around)) (chars.flatMap escapeChar) =
      some (.content ({ frame with text := frame.text ++ chars.map legalChar } :: around)) := by
  induction chars generalizing frame with
  | nil => rw [List.map_nil, List.append_nil, List.flatMap_nil, follow]
  | cons c chars ih =>
    rw [List.flatMap_cons, follow_append (follow_text_escapeChar c), ih, List.map_cons,
      List.append_assoc, List.singleton_append]

theorem follow_attribute {attr : String × String} (hname : IsName attr.1) :
    follow (.inTag around frame) (attrText attr).tail =
      some (.inTag around { frame with attrs := frame.attrs ++ [(attr.1, legalText attr.2)] }) := by
  obtain ⟨hne, hchars⟩ := hname
  cases hkey : attr.1.toList with
  | nil => exact absurd hkey hne
  | cons c key =>
    rw [hkey, List.all_cons, Bool.and_eq_true] at hchars
    have hclose := ne_of_isNameChar hchars.1 (show isNameChar '>' = false by decide)
    have hfirst : step (.inTag around frame) c = some (.attrName around frame [c]) := by
      simp [step, hclose, isWhite_of_isNameChar hchars.1, hchars.1]
    have hequals : step (.attrName around frame ([c] ++ key)) '=' =
        some (.attrOpen around frame ([c] ++ key)) := rfl
    have hopen : step (.attrOpen around frame ([c] ++ key)) '"' =
        some (.attrValue around frame ([c] ++ key) []) := rfl
    have hend : step (.attrValue around frame ([c] ++ key) ([] ++ attr.2.toList.map legalChar)) '"' =
        some (.inTag around { frame with attrs := frame.attrs ++ [(attr.1, legalText attr.2)] }) := by
      have hname : String.ofList (c :: key) = attr.1 := by rw [← hkey, String.ofList_toList]
      simp [step, hname, legalText]
    simp only [attrText, hkey, List.cons_append, List.tail_cons, List.append_assoc]
    rw [follow_cons hfirst, follow_append (follow_attrName hchars.2 [c]), follow_cons hequals,
      follow_cons hopen, escape, follow_append (follow_attrValue_escape _ _ _), follow_cons hend, follow]

-- A blank ends the name of the element, or stands before the next attribute.
theorem follow_attributes (hnames : ∀ attr ∈ attrs, IsName attr.1) :
    follow (.inTag around frame) (attrs.flatMap attrText) = some (.inTag around
      { frame with attrs := frame.attrs ++ attrs.map fun attr => (attr.1, legalText attr.2) }) := by
  induction attrs generalizing frame with
  | nil => rw [List.map_nil, List.append_nil, List.flatMap_nil, follow]
  | cons attr attrs ih =>
    obtain ⟨hfirst, hrest⟩ := List.forall_mem_cons.mp hnames
    have hblank : step (.inTag around frame) ' ' = some (.inTag around frame) := rfl
    have hattr : attrText attr = ' ' :: (attrText attr).tail := rfl
    rw [List.flatMap_cons, hattr, List.cons_append, follow_cons hblank,
      follow_append (follow_attribute hfirst), ih hrest, List.map_cons, List.append_assoc,
      List.singleton_append]

theorem follow_startTag (hname : IsName name) (hnames : ∀ attr ∈ attrs, IsName attr.1) :
    follow (.content around) (startTag name attrs) = some (.content
      ({ name := name, attrs := attrs.map fun attr => (attr.1, legalText attr.2) } :: around)) := by
  obtain ⟨hne, hchars⟩ := hname
  have hbracket : step (.content around) '<' = some (.bracket around) := rfl
  cases hkey : name.toList with
  | nil => exact absurd hkey hne
  | cons c key =>
    rw [hkey, List.all_cons, Bool.and_eq_true] at hchars
    have hslash := ne_of_isNameChar hchars.1 (show isNameChar '/' = false by decide)
    have hquestion := ne_of_isNameChar hchars.1 (show isNameChar '?' = false by decide)
    have hfirst : step (.bracket around) c = some (.startName around [c]) := by
      simp [step, hslash, hquestion, hchars.1]
    have hread : String.ofList (c :: key) = name := by rw [← hkey, String.ofList_toList]
    simp only [startTag, hkey, List.cons_append, List.append_assoc]
    rw [follow_cons hbracket, follow_cons hfirst, follow_append (follow_startName hchars.2 [c]),
      List.singleton_append]
    cases attrs with
    | nil =>
      have hend : step (.startName around (c :: key)) '>' = some (.content ({ name := name } :: around)) := by
        simp only [step, hread, if_true]
      rw [List.flatMap_nil, List.nil_append, follow_cons hend, follow, List.map_nil]
    | cons attr attrs =>
      obtain ⟨hattr, hattrs⟩ := List.forall_mem_cons.mp hnames
      have hblank : step (.startName around (c :: key)) ' ' = some (.inTag around { name := name }) := by
        rw [← hread]
        rfl
      have hcons : attrText attr = ' ' :: (attrText attr).tail := rfl
      rw [List.flatMap_cons, hcons, List.cons_append, List.cons_append, follow_cons hblank, List.append_assoc,
        follow_append (follow_attribute hattr), follow_append (follow_attributes hattrs), follow_cons rfl, follow]
      rfl

theorem follow_endTag (hname : IsName name) : follow (.content around) (endTag name) = close name around := by
  have hbracket : step (.content around) '<' = some (.bracket around) := rfl
  have hslash : step (.bracket around) '/' = some (.endName around []) := rfl
  have hend : step (.endName around ([] ++ name.toList)) '>' = close name around := by
    simp only [step, List.nil_append, String.ofList_toList, if_true]
  rw [endTag, List.cons_append, List.cons_append, follow_cons hbracket, follow_cons hslash,
    follow_append (follow_endName hname.2 []), follow, hend]
  cases close name around <;> rfl

-- A line break with an indentation adds blanks to the text around the elements.
theorem follow_newline (depth : Nat) : follow (.content (frame :: around)) ('\n' :: indentation depth) =
    some (.content ({ frame with text := frame.text ++ '\n' :: indentation depth } :: around)) := by
  have hread := @follow_gather (fun seen => .content ({ frame with text := frame.text ++ seen } :: around))
    ('\n' :: indentation depth) (fun c hmem seen => ?_) []
  · rwa [List.append_nil] at hread
  · rw [← List.append_assoc]
    rcases List.mem_cons.mp hmem with rfl | hspace
    · rfl
    · obtain rfl := List.eq_of_mem_replicate hspace
      rfl

theorem all_isWhite_newline (depth : Nat) : ('\n' :: indentation depth).all isWhite = true := by
  simp [indentation, isWhite]

-- Every name can be written, and an element with elements in it has at least one.
inductive Proper : Element → Prop where
  | leaf {name : String} {attrs : List (String × String)} (text : String) (hname : IsName name)
      (hattrs : ∀ attr ∈ attrs, IsName attr.1) : Proper (.leaf name attrs text)
  | node {name : String} {attrs : List (String × String)} {children : List Element} (hname : IsName name)
      (hattrs : ∀ attr ∈ attrs, IsName attr.1) (hne : children ≠ [])
      (hchildren : ∀ child ∈ children, Proper child) : Proper (.node name attrs children)

theorem proper_leaf_iff {name text : String} :
    Proper (.leaf name attrs text) ↔ IsName name ∧ ∀ attr ∈ attrs, IsName attr.1 := by
  constructor
  · intro hproper
    cases hproper with
    | leaf _ hname hattrs => exact ⟨hname, hattrs⟩
  · intro hnames
    exact .leaf text hnames.1 hnames.2

theorem proper_node_iff {children : List Element} :
    Proper (.node name attrs children) ↔
      IsName name ∧ (∀ attr ∈ attrs, IsName attr.1) ∧ children ≠ [] ∧ ∀ child ∈ children, Proper child := by
  constructor
  · intro hproper
    cases hproper with
    | node hname hattrs hne hchildren => exact ⟨hname, hattrs, hne, hchildren⟩
  · intro hparts
    exact .node hparts.1 hparts.2.1 hparts.2.2.1 hparts.2.2.2

-- The elements inside an element are read one after the other, with blanks before each.
theorem follow_renderAll {children : List Element} {depth : Nat}
    (hchildren : ∀ child ∈ children, ∀ around, follow (.content around) (render depth child) =
      some (attach (child.mapTexts legalText) around)) :
    ∃ blanks, blanks.all isWhite = true ∧
      follow (.content (frame :: around)) (renderAll depth children) = some (.content
        ({ frame with
            children := frame.children ++ children.map (Element.mapTexts legalText)
            text := frame.text ++ blanks } :: around)) := by
  induction children generalizing frame with
  | nil =>
    refine ⟨[], rfl, ?_⟩
    rw [renderAll, follow, List.map_nil, List.append_nil, List.append_nil]
  | cons child rest ih =>
    obtain ⟨hchild, hrest⟩ := List.forall_mem_cons.mp hchildren
    let opened : Frame := { frame with text := frame.text ++ '\n' :: indentation depth }
    let grown : Frame := { opened with children := opened.children ++ [child.mapTexts legalText] }
    have hread : follow (.content (opened :: around)) (render depth child) = some (.content (grown :: around)) :=
      hchild (opened :: around)
    obtain ⟨blanks, hblanks, hfollow⟩ := @ih grown hrest
    refine ⟨('\n' :: indentation depth) ++ blanks, ?_, ?_⟩
    · rw [List.all_append, all_isWhite_newline, hblanks]
      rfl
    · rw [renderAll, List.append_assoc, follow_append (follow_newline depth), follow_append hread, hfollow]
      simp only [grown, opened, List.append_assoc, List.map_cons, List.singleton_append]

theorem follow_render {element : Element} (hproper : Proper element) (depth : Nat) (around : List Frame) :
    follow (.content around) (render depth element) = some (attach (element.mapTexts legalText) around) := by
  induction element using Element.induct generalizing depth around with
  | hleaf name attrs text =>
    cases hproper with
    | leaf _ hname hattrs =>
      rw [render, List.append_assoc, follow_append (follow_startTag hname hattrs), escape,
        follow_append (follow_text_escape _), follow_endTag hname, close, if_pos rfl, Frame.element]
      simp only [List.isEmpty_nil, if_true, Option.map_some, Element.mapTexts_leaf, List.nil_append, legalText]
  | hnode name attrs children ih =>
    cases hproper with
    | node hname hattrs hne hchildren =>
      let opened : Frame := { name := name, attrs := attrs.map fun attr => (attr.1, legalText attr.2) }
      have hread : ∀ child ∈ children, ∀ around, follow (.content around) (render (depth + 1) child) =
          some (attach (child.mapTexts legalText) around) :=
        fun child hchild around => ih child hchild (hchildren child hchild) (depth + 1) around
      obtain ⟨blanks, hblanks, hfollow⟩ := @follow_renderAll around opened children (depth + 1) hread
      have hopened : follow (.content around) (startTag name attrs) = some (.content (opened :: around)) :=
        follow_startTag hname hattrs
      rw [render, List.append_assoc, List.append_assoc, follow_append hopened, follow_append hfollow,
        follow_append (follow_newline depth), follow_endTag hname, close, if_pos rfl, Frame.element]
      have hmap : (opened.children ++ children.map (Element.mapTexts legalText)).isEmpty = false := by
        simpa [opened] using hne
      have hwhite : (opened.text ++ blanks ++ '\n' :: indentation depth).all isWhite = true := by
        rw [List.all_append, List.all_append, hblanks, all_isWhite_newline]
        rfl
      simp only [hmap, hwhite, Bool.false_eq_true, if_false, if_true, Option.map_some, Element.mapTexts_node]
      rfl

theorem follow_header : follow (.content []) header = some (.content []) := rfl

-- A rendered document is read back as it was, but for the characters no document may hold.
theorem read_render {element : Element} (hproper : Proper element) :
    read (header ++ render 0 element) = some (element.mapTexts legalText) := by
  rw [read, follow_append follow_header, follow_render hproper 0 []]
  rfl

end RoundTrip

end Caplv.Xml
