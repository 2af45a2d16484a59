import Mathlib.Data.List.Infix

namespace Caplv.Text

abbrev Bytes := List UInt8

-- strings.HasPrefix and the slice s[len(head):], on the characters of the string.
def hasPrefix (s head : String) : Bool := head.toList.isPrefixOf s.toList

def afterPrefix (s head : String) : String := String.ofList (s.toList.drop head.toList.length)

theorem hasPrefix_iff (s head : String) : hasPrefix s head = true ↔ ∃ rest, s = head ++ rest := by
  rw [hasPrefix, List.isPrefixOf_iff_prefix]
  constructor
  · rintro ⟨tail, htail⟩
    exact ⟨String.ofList tail, String.toList_inj.mp (by simpa using htail.symm)⟩
  · rintro ⟨rest, rfl⟩
    exact ⟨rest.toList, by simp⟩

theorem hasPrefix_append (head rest : String) : hasPrefix (head ++ rest) head = true :=
  (hasPrefix_iff _ _).mpr ⟨rest, rfl⟩

-- strings.Contains, on the characters of the string.
def containsChars : List Char → List Char → Bool
  | [], part => part.isEmpty
  | c :: rest, part => part.isPrefixOf (c :: rest) || containsChars rest part

def contains (s part : String) : Bool := containsChars s.toList part.toList

-- unicode.ToLower on the characters whose lower case is an ASCII letter: A to Z,
-- the dotted capital I (U+0130) and the Kelvin sign (U+212A).
def lowerChar (c : Char) : Char :=
  if 'A' ≤ c ∧ c ≤ 'Z' then Char.ofNat (c.toNat + 32)
  else if c.toNat = 0x130 then 'i'
  else if c.toNat = 0x212A then 'k'
  else c

def toLower (s : String) : String := String.ofList (s.toList.map lowerChar)

-- strings.EqualFold, on the characters that fold to an ASCII letter: A to Z, the long s
-- (U+017F) and the Kelvin sign.
def foldChar (c : Char) : Char :=
  if 'A' ≤ c ∧ c ≤ 'Z' then Char.ofNat (c.toNat + 32)
  else if c.toNat = 0x17F then 's'
  else if c.toNat = 0x212A then 'k'
  else c

def equalFold (s t : String) : Bool := s.toList.map foldChar == t.toList.map foldChar

-- The verb %q, on printable text.
def quote (s : String) : String :=
  "\"" ++ String.ofList (s.toList.flatMap fun c => if c = '"' ∨ c = '\\' then ['\\', c] else [c]) ++ "\""

-- strings.TrimRight with a cutset of one character.
def trimRight (s : String) (cut : Char) : String :=
  String.ofList (s.toList.reverse.dropWhile (· = cut)).reverse

-- unicode.IsSpace and strings.TrimSpace.
def isSpace (c : Char) : Bool :=
  let n := c.toNat
  (0x9 ≤ n && n ≤ 0xd) || n == 0x20 || n == 0x85 || n == 0xa0 || n == 0x1680 ||
    (0x2000 ≤ n && n ≤ 0x200a) || n == 0x2028 || n == 0x2029 || n == 0x202f || n == 0x205f || n == 0x3000

def trimSpace (s : String) : String :=
  String.ofList ((s.toList.dropWhile isSpace).reverse.dropWhile isSpace).reverse

theorem trimSpace_ofList (chars : List Char) : trimSpace (String.ofList chars) =
    String.ofList ((chars.dropWhile isSpace).reverse.dropWhile isSpace).reverse := by
  rw [trimSpace, String.toList_ofList]

-- shellQuote: single quotes around the argument, with those inside it escaped.
def shellQuote (s : String) : String :=
  if s = "" then "''"
  else "'" ++ String.ofList (s.toList.flatMap fun c => if c = '\'' then ['\'', '\\', '\'', '\''] else [c]) ++ "'"

-- The part of the string before the first occurrence of a character that is not the
-- first of the string, or the whole string: s[:i] where i = strings.Index(s, c) > 0.
def beforeIndex (s : String) (c : Char) : String :=
  if s.toList.head? = some c then s else String.ofList (s.toList.takeWhile (· ≠ c))

def unlines (lines : List String) : String := lines.foldr (fun line rest => line ++ "\n" ++ rest) ""

theorem unlines_append (first second : List String) :
    unlines (first ++ second) = unlines first ++ unlines second := by
  induction first with
  | nil => simp [unlines]
  | cons line rest ih =>
    have hcons (lines : List String) : unlines (line :: lines) = line ++ "\n" ++ unlines lines := rfl
    rw [List.cons_append, hcons, hcons, ih]
    exact String.append_assoc.symm

theorem splitOn_unlines {lines : List String} (h : ∀ line ∈ lines, '\n' ∉ line.toList) :
    (unlines lines).toList.splitOn '\n' = lines.map String.toList ++ [[]] := by
  induction lines with
  | nil => exact List.splitOn_nil '\n'
  | cons line rest ih =>
    have hchars : (unlines (line :: rest)).toList = line.toList ++ '\n' :: (unlines rest).toList := by
      simp [unlines]
    have hline : line.toList.splitOnP (· == '\n') = [line.toList] := by
      apply List.splitOnP_eq_singleton
      intro c hc
      by_contra hnewline
      have hnewline : c = '\n' := by simpa using hnewline
      exact h line List.mem_cons_self (hnewline ▸ hc)
    have hrest := ih fun other hother => h other (List.mem_cons_of_mem line hother)
    have hsplit := List.splitOnP_append_cons (p := (· == '\n')) line.toList (unlines rest).toList
      (beq_self_eq_true '\n')
    rw [hline] at hsplit
    rw [hchars]
    exact hsplit.trans (congrArg (line.toList :: ·) hrest)

theorem unlines_inj {lines lines' : List String} (h : ∀ line ∈ lines, '\n' ∉ line.toList)
    (h' : ∀ line ∈ lines', '\n' ∉ line.toList) (heq : unlines lines = unlines lines') :
    lines = lines' := by
  have hsplit := splitOn_unlines h
  rw [heq, splitOn_unlines h'] at hsplit
  have hmap := List.append_cancel_right hsplit
  have hinj : Function.Injective String.toList := fun _ _ h => String.toList_inj.mp h
  exact (List.map_injective_iff.mpr hinj hmap).symm

-- A Go map with string keys, as an association list.
abbrev StringMap := List (String × String)

def StringMap.get? (m : StringMap) (key : String) : Option String := m.lookup key

-- m[key], which is the empty string for a missing key.
def StringMap.index (m : StringMap) (key : String) : String := (m.get? key).getD ""

def StringMap.delete (m : StringMap) (key : String) : StringMap := m.filter fun entry => entry.1 != key

def StringMap.set (m : StringMap) (key value : String) : StringMap := (key, value) :: m.delete key

-- maps.Copy(dst, src).
def StringMap.copy (dst src : StringMap) : StringMap :=
  src.foldr (fun entry acc => acc.set entry.1 entry.2) dst

end Caplv.Text
