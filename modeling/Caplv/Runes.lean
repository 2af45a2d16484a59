import Caplv.Text
import Mathlib.Algebra.Group.Int.Defs
import Mathlib.Algebra.Group.Nat.Defs
import Mathlib.Data.List.DropRight
import Mathlib.Data.List.Basic

namespace Caplv.Text

-- A Go string holds any bytes: here it is a list of characters and of the bytes that are part
-- of none.
inductive Rune where
  | char (c : Char)
  | byte (b : UInt8)
deriving DecidableEq, Repr

abbrev GoString := List Rune

namespace Rune

def isSpace : Rune → Bool
  | .char c => Text.isSpace c
  | .byte _ => false

def newline : Rune := .char '\n'

def colon : Rune := .char ':'

theorem isSpace_colon : isSpace colon = false := by decide

end Rune

namespace GoString

def ofString (s : String) : GoString := s.toList.map .char

-- The bytes as utf8.DecodeRune cuts them, at most four to a character; the first `skip` belong to
-- the one before.
def decodeFrom (skip : Nat) : Bytes → GoString
  | [] => []
  | b :: rest =>
    match skip with
    | skip + 1 => decodeFrom skip rest
    | 0 =>
      match ((b :: rest).take 4).toByteArray.utf8DecodeChar? 0 with
      | some c => .char c :: decodeFrom (c.utf8Size - 1) rest
      | none => .byte b :: decodeFrom 0 rest

def decode (bytes : Bytes) : GoString := decodeFrom 0 bytes

-- strings.SplitSeq(s, "\n").
def lines (s : GoString) : List GoString := s.splitOn .newline

-- strings.SplitN(s, sep, 2) for a separator of one character.
def splitN2 {α : Type} [DecidableEq α] (s : List α) (sep : α) : List (List α) :=
  match s.dropWhile (· ≠ sep) with
  | [] => [s]
  | _ :: rest => [s.takeWhile (· ≠ sep), rest]

-- strings.TrimSpace and strings.Fields.
def trim (s : GoString) : GoString := (s.dropWhile Rune.isSpace).rdropWhile Rune.isSpace

def fields (s : GoString) : List GoString := (s.splitOnP Rune.isSpace).filter (· ≠ [])

def encode (s : List Char) : Bytes := s.flatMap String.utf8EncodeChar

section Decoding

theorem decodeFrom_append (skipped rest : Bytes) :
    decodeFrom skipped.length (skipped ++ rest) = decode rest := by
  induction skipped with
  | nil => rfl
  | cons b skipped ih => exact ih

theorem decode_char_append (c : Char) (rest : Bytes) :
    decode (String.utf8EncodeChar c ++ rest) = .char c :: decode rest := by
  have hlength := String.length_utf8EncodeChar c
  have hpos := c.utf8Size_pos
  have hle := c.utf8Size_le_four
  have hfirst : ((String.utf8EncodeChar c ++ rest).take 4).toByteArray.utf8DecodeChar? 0 = some c := by
    rw [List.take_append, List.take_of_length_le (by omega), List.toByteArray_append]
    exact ByteArray.utf8DecodeChar?_utf8EncodeChar_append
  have htail : (String.utf8EncodeChar c).tail.length = c.utf8Size - 1 := by rw [List.length_tail, hlength]
  obtain ⟨b, tail, hbytes⟩ := List.exists_cons_of_ne_nil (List.ne_nil_of_length_pos (hlength ▸ hpos))
  rw [hbytes, List.cons_append] at hfirst
  rw [hbytes, List.tail_cons] at htail
  rw [hbytes, List.cons_append, decode, decodeFrom, hfirst]
  exact congrArg (.char c :: ·) (htail ▸ decodeFrom_append tail rest)

theorem decode_encode (s : List Char) : decode (encode s) = s.map .char := by
  induction s with
  | nil => rfl
  | cons c s ih =>
    rw [encode, List.flatMap_cons, decode_char_append, ← encode, ih]
    rfl

end Decoding

section Splitting

section SplitN

variable {α : Type} [DecidableEq α] {s key value : List α} {sep : α}

theorem splitN2_of_not_mem (h : sep ∉ s) : splitN2 s sep = [s] := by
  have hall : s.dropWhile (· ≠ sep) = [] := by
    rw [List.dropWhile_eq_nil_iff]
    intro r hr
    exact decide_eq_true fun heq => h (heq ▸ hr)
  rw [splitN2, hall]

theorem splitN2_append (h : sep ∉ key) : splitN2 (key ++ sep :: value) sep = [key, value] := by
  have hkey : ∀ r ∈ key, decide (r ≠ sep) = true := fun r hr => decide_eq_true fun heq => h (heq ▸ hr)
  have hdrop : (key ++ sep :: value).dropWhile (· ≠ sep) = sep :: value := by
    rw [List.dropWhile_append_of_pos hkey, List.dropWhile_cons_of_neg (by simp)]
  have htake : (key ++ sep :: value).takeWhile (· ≠ sep) = key := by
    rw [List.takeWhile_append_of_pos hkey, List.takeWhile_cons_of_neg (by simp), List.append_nil]
  rw [splitN2, hdrop, htake]

end SplitN

theorem lines_cons (r : Rune) (s : GoString) :
    lines (r :: s) = if r = .newline then [] :: lines s else (lines s).modifyHead (r :: ·) := by
  rw [lines, List.splitOn, List.splitOnP_cons_eq_if_modifyHead]
  simp only [beq_iff_eq]
  rfl

theorem lines_ne_nil (s : GoString) : lines s ≠ [] := List.splitOnP_ne_nil _ s

theorem lines_concat {r : Rune} (hr : r ≠ .newline) (s : GoString) :
    ∃ before last, lines s = before ++ [last] ∧ lines (s ++ [r]) = before ++ [last ++ [r]] := by
  induction s with
  | nil =>
    refine ⟨[], [], rfl, ?_⟩
    rw [List.nil_append, lines_cons, if_neg hr]
    rfl
  | cons first rest ih =>
    obtain ⟨before, last, hrest, hconcat⟩ := ih
    rw [List.cons_append, lines_cons, lines_cons, hrest, hconcat]
    split
    · exact ⟨[] :: before, last, rfl, rfl⟩
    · cases before with
      | nil => exact ⟨[], first :: last, rfl, rfl⟩
      | cons line before => exact ⟨(first :: line) :: before, last, rfl, rfl⟩

theorem lines_map_char (s : List Char) : lines (s.map .char) = (s.splitOn '\n').map (·.map .char) := by
  induction s with
  | nil => rfl
  | cons c s ih =>
    have hsplit : (c :: s).splitOn '\n' =
        if c == '\n' then [] :: s.splitOn '\n' else (s.splitOn '\n').modifyHead (c :: ·) :=
      List.splitOnP_cons_eq_if_modifyHead c s
    have hsame : Rune.char c = .newline ↔ (c == '\n') = true := by simp [Rune.newline]
    rw [List.map_cons, lines_cons, ih, hsplit, if_congr hsame rfl rfl]
    split
    · rfl
    · obtain ⟨line, rest, hlines⟩ := List.exists_cons_of_ne_nil (List.splitOnP_ne_nil (· == '\n') s)
      have hlines : s.splitOn '\n' = line :: rest := hlines
      rw [hlines]
      rfl

theorem lines_concat_newline (s : GoString) : lines (s ++ [.newline]) = lines s ++ [[]] := by
  have happend := List.splitOnP_append_cons (p := (· == Rune.newline)) s [] (beq_self_eq_true _)
  rw [List.splitOnP_nil] at happend
  exact happend

end Splitting

section Fields

variable {s : GoString}

theorem fields_nil : fields [] = [] := rfl

theorem fields_append_space {r : Rune} (hr : r.isSpace = true) (s t : GoString) :
    fields (s ++ r :: t) = fields s ++ fields t := by
  rw [fields, List.splitOnP_append_cons s t hr, List.filter_append]
  rfl

theorem fields_spaces_append {gap : GoString} (hgap : ∀ r ∈ gap, r.isSpace = true) (s : GoString) :
    fields (gap ++ s) = fields s := by
  induction gap with
  | nil => rfl
  | cons r rest ih =>
    have hr := fields_append_space (hgap r List.mem_cons_self) [] (rest ++ s)
    rw [fields_nil, List.nil_append, List.nil_append] at hr
    rw [List.cons_append, hr]
    exact ih fun other hother => hgap other (List.mem_cons_of_mem r hother)

theorem fields_append_spaces {gap : GoString} (hgap : ∀ r ∈ gap, r.isSpace = true) (s : GoString) :
    fields (s ++ gap) = fields s := by
  cases gap with
  | nil => rw [List.append_nil]
  | cons r rest =>
    have hrest := fields_spaces_append (fun other hother => hgap other (List.mem_cons_of_mem r hother)) []
    rw [List.append_nil, fields_nil] at hrest
    rw [fields_append_space (hgap r List.mem_cons_self), hrest, List.append_nil]

theorem fields_trim (s : GoString) : fields (trim s) = fields s := by
  have hleft : fields (s.dropWhile Rune.isSpace) = fields s := by
    have hgap : ∀ r ∈ s.takeWhile Rune.isSpace, r.isSpace = true := fun r hr => List.mem_takeWhile_imp hr
    rw [← fields_spaces_append hgap, List.takeWhile_append_dropWhile]
  have hright (t : GoString) : fields (t.rdropWhile Rune.isSpace) = fields t := by
    have hgap : ∀ r ∈ t.rtakeWhile Rune.isSpace, r.isSpace = true := fun r hr => List.mem_rtakeWhile_imp hr
    have hsplit : t.rdropWhile Rune.isSpace ++ t.rtakeWhile Rune.isSpace = t := by
      rw [List.rdropWhile, List.rtakeWhile, ← List.reverse_append, List.takeWhile_append_dropWhile,
        List.reverse_reverse]
    rw [← fields_append_spaces hgap, hsplit]
  rw [trim, hright, hleft]

theorem fields_word {word : GoString} (hne : word ≠ []) (hword : ∀ r ∈ word, r.isSpace = false) :
    fields word = [word] := by
  rw [fields, List.splitOnP_eq_singleton]
  · simp [hne]
  · intro r hr
    simp [hword r hr]

theorem fields_eq_nil_iff (s : GoString) : fields s = [] ↔ ∀ r ∈ s, r.isSpace = true := by
  constructor
  · intro hnil
    induction s with
    | nil => exact nofun
    | cons r rest ih =>
      by_cases hr : r.isSpace = true
      · have hrest : fields rest = [] := by
          rw [← hnil, ← List.nil_append (r :: rest), fields_append_space hr, fields_nil, List.nil_append]
        intro other hother
        rcases List.mem_cons.mp hother with rfl | hmem
        · exact hr
        · exact ih hrest other hmem
      · exfalso
        obtain ⟨word, words, hwords⟩ := List.exists_cons_of_ne_nil (List.splitOnP_ne_nil Rune.isSpace rest)
        rw [fields, List.splitOnP_cons_eq_if_modifyHead, if_neg hr, hwords] at hnil
        exact absurd hnil (by simp)
  · intro hblank
    exact fields_append_spaces hblank []

end Fields

section Trimming

theorem trim_cons_space {r : Rune} (hr : r.isSpace = true) (s : GoString) : trim (r :: s) = trim s := by
  rw [trim, List.dropWhile_cons_of_pos hr, ← trim]

theorem trim_concat_space {r : Rune} (hr : r.isSpace = true) (s : GoString) : trim (s ++ [r]) = trim s := by
  rw [trim, trim]
  by_cases hblank : ∀ other ∈ s, other.isSpace = true
  · have hboth : ∀ other ∈ s ++ [r], other.isSpace = true := by
      simp only [List.mem_append, List.mem_singleton]
      rintro other (hother | rfl)
      · exact hblank other hother
      · exact hr
    rw [List.dropWhile_eq_nil_iff.mpr hblank, List.dropWhile_eq_nil_iff.mpr hboth]
  · have hdrop : (s ++ [r]).dropWhile Rune.isSpace = s.dropWhile Rune.isSpace ++ [r] := by
      rw [List.dropWhile_append, if_neg]
      rwa [List.isEmpty_iff, List.dropWhile_eq_nil_iff]
    rw [hdrop, List.rdropWhile_concat_pos _ _ _ hr]

theorem trim_padded {lead word gap : GoString} (hlead : ∀ r ∈ lead, r.isSpace = true)
    (hgap : ∀ r ∈ gap, r.isSpace = true) : trim (lead ++ word ++ gap) = trim word := by
  induction lead with
  | nil =>
    rw [List.nil_append]
    induction gap using List.reverseRecOn with
    | nil => rw [List.append_nil]
    | append_singleton gap r ih =>
      rw [← List.append_assoc, trim_concat_space (hgap r (by simp))]
      exact ih fun other hother => hgap other (List.mem_append_left _ hother)
  | cons r rest ih =>
    rw [List.cons_append, List.cons_append, trim_cons_space (hlead r List.mem_cons_self)]
    exact ih fun other hother => hlead other (List.mem_cons_of_mem r hother)

end Trimming

-- The errors of strconv: no number, or one that the type cannot hold.
inductive NumError where
  | malformed
  | outOfRange
deriving DecidableEq, Repr

-- The loop of strconv.ParseUint in base 10. It stops at the first digit that takes the number
-- out of the range, and then gives the largest one.
def parseDigits (maxVal : Nat) : Nat → GoString → Nat × Option NumError
  | n, [] => (n, none)
  | n, .char c :: rest =>
    if c.isDigit then
      let next := n * 10 + (c.toNat - '0'.toNat)
      if maxVal < next then (maxVal, some .outOfRange) else parseDigits maxVal next rest
    else (0, some .malformed)
  | _, .byte _ :: _ => (0, some .malformed)

def parseUint (s : GoString) (bitSize : Nat) : Nat × Option NumError :=
  if s = [] then (0, some .malformed) else parseDigits (2 ^ bitSize - 1) 0 s

def signed (negative : Bool) (bitSize : Nat) (un : Nat × Option NumError) : Int × Option NumError :=
  let cutoff := 2 ^ (bitSize - 1)
  if un.2 = some .malformed then (0, some .malformed)
  else if negative = false ∧ cutoff ≤ un.1 then (cutoff - 1, some .outOfRange)
  else if negative = true ∧ cutoff < un.1 then (-cutoff, some .outOfRange)
  else (if negative then -un.1 else un.1, none)

-- strconv.ParseInt(s, 10, bitSize).
def parseInt (s : GoString) (bitSize : Nat) : Int × Option NumError :=
  match s with
  | .char '+' :: digits => signed false bitSize (parseUint digits bitSize)
  | .char '-' :: digits => signed true bitSize (parseUint digits bitSize)
  | digits => signed false bitSize (parseUint digits bitSize)

section Numbers

def decimal (n : Nat) : GoString := (Nat.toDigits 10 n).map .char

theorem isSpace_of_isDigit {c : Char} (h : c.isDigit = true) : Text.isSpace c = false := by
  have hdigit : 48 ≤ c.toNat ∧ c.toNat ≤ 57 := Char.isDigit_iff_toNat.mp h
  simp only [Text.isSpace, Bool.or_eq_false_iff, Bool.and_eq_false_iff, decide_eq_false_iff_not, beq_eq_false_iff_ne]
  omega

theorem decimal_ne_nil (n : Nat) : decimal n ≠ [] := by
  rw [decimal, ne_eq, List.map_eq_nil_iff]
  exact Nat.toDigits_ne_nil

theorem isDigit_of_mem_toDigits {n : Nat} {c : Char} (hc : c ∈ Nat.toDigits 10 n) : c.isDigit = true :=
  Nat.isDigit_of_mem_toDigits (by omega) (by omega) hc

theorem isSpace_of_mem_decimal {n : Nat} {r : Rune} (hr : r ∈ decimal n) : r.isSpace = false := by
  obtain ⟨c, hc, rfl⟩ := List.mem_map.mp hr
  exact isSpace_of_isDigit (isDigit_of_mem_toDigits hc)

theorem le_ofDigitChars (digits : List Char) (n : Nat) : n ≤ Nat.ofDigitChars 10 digits n := by
  rw [Nat.ofDigitChars_eq_ofDigitChars_zero]
  have hpow : 1 ≤ 10 ^ digits.length := Nat.one_le_pow _ _ (by omega)
  calc n = 1 * n := (Nat.one_mul n).symm
    _ ≤ 10 ^ digits.length * n := Nat.mul_le_mul_right n hpow
    _ ≤ _ := Nat.le_add_right _ _

theorem parseDigits_of_le {maxVal : Nat} {digits : List Char} (hdigits : ∀ c ∈ digits, c.isDigit = true)
    {n : Nat} (hle : Nat.ofDigitChars 10 digits n ≤ maxVal) :
    parseDigits maxVal n (digits.map .char) = (Nat.ofDigitChars 10 digits n, none) := by
  induction digits generalizing n with
  | nil => rfl
  | cons c rest ih =>
    rw [Nat.ofDigitChars_cons, Nat.mul_comm] at hle
    have hnext := (le_ofDigitChars rest _).trans hle
    rw [List.map_cons, parseDigits, if_pos (hdigits c List.mem_cons_self), if_neg (by omega),
      Nat.ofDigitChars_cons, Nat.mul_comm 10 n]
    exact ih (fun other hother => hdigits other (List.mem_cons_of_mem c hother)) hle

theorem parseInt_unsigned {s : GoString} {bitSize : Nat} (hplus : s.head? ≠ some (.char '+'))
    (hminus : s.head? ≠ some (.char '-')) :
    parseInt s bitSize = signed false bitSize (parseUint s bitSize) := by
  unfold parseInt
  split
  · exact absurd rfl hplus
  · exact absurd rfl hminus
  · rfl

theorem parseInt_decimal {n bitSize : Nat} (hn : n < 2 ^ (bitSize - 1)) :
    parseInt (decimal n) bitSize = ((n : Int), none) := by
  have hdigit : ∀ c ∈ Nat.toDigits 10 n, c.isDigit = true := fun c hc => isDigit_of_mem_toDigits hc
  have hsign (c : Char) (hc : c.isDigit = false) : (decimal n).head? ≠ some (.char c) := by
    intro hhead
    obtain ⟨first, hfirst, heq⟩ := List.mem_map.mp (List.mem_of_mem_head? hhead)
    cases heq
    rw [hdigit c hfirst] at hc
    cases hc
  have hmax : n ≤ 2 ^ bitSize - 1 := by
    have hpow : 2 ^ (bitSize - 1) ≤ 2 ^ bitSize := Nat.pow_le_pow_right (by omega) (Nat.sub_le _ _)
    omega
  have hparsed : parseUint (decimal n) bitSize = (n, none) := by
    rw [parseUint, if_neg (decimal_ne_nil n), decimal, parseDigits_of_le hdigit]
    · rw [Nat.ofDigitChars_ten_toDigits]
    · rwa [Nat.ofDigitChars_ten_toDigits]
  rw [parseInt_unsigned (hsign '+' (by decide)) (hsign '-' (by decide)), hparsed, signed,
    if_neg (by simp), if_neg (by omega), if_neg (by simp)]
  rfl

end Numbers

end GoString

end Caplv.Text
