import Caplv.Runes

namespace Caplv.PathEscape

open Text GoString

-- The characters url.PathEscape leaves alone.
def unescaped (c : Char) : Bool := c.isAlphanum || c ∈ "-_.~$&+:=@".toList

def hexDigit (n : Nat) : Char := "0123456789ABCDEF".toList.getD n '0'

def escapeByte (byte : UInt8) : List Char := ['%', hexDigit (byte.toNat / 16), hexDigit (byte.toNat % 16)]

def escapeChar (c : Char) : List Char :=
  if unescaped c then [c] else (String.utf8EncodeChar c).flatMap escapeByte

def pathEscape (s : String) : String := String.ofList (s.toList.flatMap escapeChar)

def hexValue (c : Char) : Option Nat :=
  if '0' ≤ c ∧ c ≤ '9' then some (c.toNat - '0'.toNat)
  else if 'A' ≤ c ∧ c ≤ 'F' then some (c.toNat - 'A'.toNat + 10)
  else if 'a' ≤ c ∧ c ≤ 'f' then some (c.toNat - 'a'.toNat + 10)
  else none

-- What a reader of a URL makes of its escapes.
def percentDecode : List Char → Option Bytes
  | [] => some []
  | c :: rest =>
    if c = '%' then
      match rest with
      | high :: low :: rest => do
          let high ← hexValue high
          let low ← hexValue low
          let bytes ← percentDecode rest
          some (UInt8.ofNat (16 * high + low) :: bytes)
      | _ => none
    else (percentDecode rest).map (String.utf8EncodeChar c ++ ·)

-- What may stand in a URL: the pchar of RFC 3986, with the '%' of an escape.
def UrlChar (c : Char) : Prop := c.isAlphanum = true ∨ c ∈ "-._~!$&'()*+,;=:@%".toList

instance (c : Char) : Decidable (UrlChar c) := inferInstanceAs (Decidable (_ ∨ _))

-- A data: URL without a media type that holds the text.
def IsDataURL (source text : String) : Prop :=
  ∃ payload, source = "data:," ++ payload ∧ (∀ c ∈ payload.toList, UrlChar c) ∧
    percentDecode payload.toList = some (encode text.toList)

theorem hexValue_hexDigit {n : Nat} (h : n < 16) : hexValue (hexDigit n) = some n := by
  have hdigits : ∀ digit : Fin 16, hexValue (hexDigit digit) = some digit.val := by decide
  exact hdigits ⟨n, h⟩

theorem percentDecode_escapeByte (byte : UInt8) (rest : List Char) :
    percentDecode (escapeByte byte ++ rest) = (percentDecode rest).map (byte :: ·) := by
  have hbyte : byte.toNat < 256 := byte.toNat_lt
  have hhigh : hexValue (hexDigit (byte.toNat / 16)) = some (byte.toNat / 16) := hexValue_hexDigit (by omega)
  have hlow : hexValue (hexDigit (byte.toNat % 16)) = some (byte.toNat % 16) := hexValue_hexDigit (by omega)
  have hsum : UInt8.ofNat (16 * (byte.toNat / 16) + byte.toNat % 16) = byte := by
    rw [Nat.div_add_mod, UInt8.ofNat_toNat]
  simp only [escapeByte, List.cons_append, List.nil_append, percentDecode, if_pos, hhigh, hlow, Option.bind_eq_bind,
    Option.bind_some, hsum]
  cases percentDecode rest <;> rfl

theorem percentDecode_escapeBytes (bytes : Bytes) (rest : List Char) :
    percentDecode (bytes.flatMap escapeByte ++ rest) = (percentDecode rest).map (bytes ++ ·) := by
  induction bytes with
  | nil => cases hrest : percentDecode rest <;> simp [hrest]
  | cons byte bytes ih =>
    rw [List.flatMap_cons, List.append_assoc, percentDecode_escapeByte, ih, Option.map_map]
    rfl

theorem percentDecode_cons {c : Char} (h : c ≠ '%') (rest : List Char) :
    percentDecode (c :: rest) = (percentDecode rest).map (String.utf8EncodeChar c ++ ·) := by
  rw [percentDecode.eq_def]
  exact if_neg h

theorem percentDecode_escapeChar (c : Char) (rest : List Char) :
    percentDecode (escapeChar c ++ rest) = (percentDecode rest).map (String.utf8EncodeChar c ++ ·) := by
  rw [escapeChar]
  split
  · rename_i hplain
    refine percentDecode_cons ?_ rest
    rintro rfl
    exact absurd hplain (by decide)
  · exact percentDecode_escapeBytes _ rest

theorem percentDecode_pathEscape (s : String) : percentDecode (pathEscape s).toList = some (encode s.toList) := by
  rw [pathEscape, String.toList_ofList]
  induction s.toList with
  | nil => rfl
  | cons c chars ih =>
    rw [List.flatMap_cons, percentDecode_escapeChar, ih]
    rfl

theorem percentDecode_plain {chars : List Char} (h : '%' ∉ chars) :
    percentDecode chars = some (encode chars) := by
  induction chars with
  | nil => rfl
  | cons c chars ih =>
    obtain ⟨hc, hchars⟩ := not_or.mp (mt List.mem_cons.mpr h)
    rw [percentDecode_cons (Ne.symm hc), ih hchars]
    rfl

theorem hexDigit_urlChar (n : Nat) : UrlChar (hexDigit n) := by
  have hdigits : ('0' :: "0123456789ABCDEF".toList).all (fun c => decide (UrlChar c)) = true := by decide
  refine of_decide_eq_true (List.all_eq_true.mp hdigits _ ?_)
  rw [hexDigit, List.getD_eq_getElem?_getD]
  cases hdigit : "0123456789ABCDEF".toList[n]? with
  | none => exact List.mem_cons_self
  | some c => exact List.mem_cons_of_mem _ (List.mem_of_getElem? hdigit)

theorem urlChar_of_mem_pathEscape {s : String} {c : Char} (h : c ∈ (pathEscape s).toList) : UrlChar c := by
  rw [pathEscape, String.toList_ofList] at h
  obtain ⟨original, -, hc⟩ := List.mem_flatMap.mp h
  rw [escapeChar] at hc
  split at hc
  · rename_i hplain
    obtain rfl := List.mem_singleton.mp hc
    have hspecial : "-_.~$&+:=@".toList.all (fun c => decide (UrlChar c)) = true := by decide
    rcases Bool.or_eq_true_iff.mp hplain with halnum | hmem
    · exact .inl halnum
    · exact of_decide_eq_true (List.all_eq_true.mp hspecial c (of_decide_eq_true hmem))
  · obtain ⟨byte, -, hc⟩ := List.mem_flatMap.mp hc
    simp only [escapeByte, List.mem_cons, List.not_mem_nil, or_false] at hc
    rcases hc with rfl | rfl | rfl
    · decide
    · exact hexDigit_urlChar _
    · exact hexDigit_urlChar _

theorem isDataURL_pathEscape (text : String) : IsDataURL ("data:," ++ pathEscape text) text :=
  ⟨_, rfl, fun _ hc => urlChar_of_mem_pathEscape hc, percentDecode_pathEscape text⟩

theorem isDataURL_plain {text : String} (h : ∀ c ∈ text.toList, UrlChar c ∧ c ≠ '%') :
    IsDataURL ("data:," ++ text) text :=
  ⟨_, rfl, fun c hc => (h c hc).1, percentDecode_plain fun hc => (h _ hc).2 rfl⟩

end Caplv.PathEscape
