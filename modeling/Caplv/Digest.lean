import Caplv.Path

namespace Caplv

open Text

def hexDigits : List Char := "0123456789abcdef".toList

-- What has the form of a digest.
structure DigestName (text : String) : Prop where
  length : text.toList.length = 64
  digits : ∀ c ∈ text.toList, c ∈ hexDigits

theorem DigestName.isName {text : String} (h : DigestName text) : Path.IsName text := by
  have hother (other : String) (hlength : other.toList.length ≠ 64) : text ≠ other := by
    rintro rfl
    exact hlength h.length
  refine ⟨hother "" (by decide), hother "." (by decide), hother ".." (by decide), fun hslash => ?_⟩
  exact absurd (h.digits _ hslash) (by decide)

-- hex.EncodeToString of a SHA-256 sum. Only its form is known.
structure Sha256 where
  hex : Bytes → String
  length_hex : ∀ data, (hex data).toList.length = 64
  hex_digits : ∀ data, ∀ c ∈ (hex data).toList, c ∈ hexDigits

namespace Sha256

variable (sha : Sha256) (data : Bytes) {c : Char} {text : String}

theorem digestName_hex : DigestName (sha.hex data) := ⟨sha.length_hex data, sha.hex_digits data⟩

theorem isName_hex : Path.IsName (sha.hex data) := (sha.digestName_hex data).isName

theorem hex_hidden (head : String) (hhead : head.toList.head? = some '.') :
    hasPrefix (sha.hex data) head = false := by
  by_contra htrue
  obtain ⟨rest, hrest⟩ := (hasPrefix_iff _ _).mp (Bool.not_eq_false _ ▸ htrue)
  have hdot : '.' ∈ (sha.hex data).toList := by
    rw [hrest, String.toList_append]
    exact List.mem_append_left _ (List.mem_of_mem_head? hhead)
  exact absurd (sha.hex_digits data _ hdot) (by decide)

theorem hexDigits_plain : hexDigits.all (fun c => lowerChar c == c && foldChar c == c &&
    c.toNat != 0x17F && c.toNat != 0x212A) = true := by
  decide

theorem plain_of_mem (h : c ∈ hexDigits) :
    lowerChar c = c ∧ foldChar c = c ∧ c.toNat ≠ 0x17F ∧ c.toNat ≠ 0x212A := by
  have hplain := List.all_eq_true.mp hexDigits_plain c h
  simpa [and_assoc] using hplain

theorem lowerChar_of_mem (h : c ∈ hexDigits) : lowerChar c = c := (plain_of_mem h).1

theorem foldChar_of_mem (h : c ∈ hexDigits) : foldChar c = c := (plain_of_mem h).2.1

theorem foldChar_of_lower (h : lowerChar c ∈ hexDigits) : foldChar c = lowerChar c := by
  have hlow (c : Char) (hc : c ∈ hexDigits) : c.toNat ≠ 0x17F ∧ c.toNat ≠ 0x212A := (plain_of_mem hc).2.2
  unfold lowerChar at h ⊢
  unfold foldChar
  split at h
  · next hupper => simp [hupper]
  · next hupper =>
      split at h
      · exact absurd h (by decide)
      · next hdotted =>
          split at h
          · exact absurd h (by decide)
          · next hkelvin => simp [hupper, hdotted, hkelvin, hlow c h]

theorem map_foldChar_hex : (sha.hex data).toList.map foldChar = (sha.hex data).toList := by
  conv_rhs => rw [← List.map_id (sha.hex data).toList]
  exact List.map_congr_left fun c hc => foldChar_of_mem (sha.hex_digits data c hc)

theorem equalFold_of_toLower (h : toLower text = sha.hex data) : equalFold (sha.hex data) text = true := by
  have hlower : text.toList.map lowerChar = (sha.hex data).toList := by
    rw [← h, toLower, String.toList_ofList]
  have hfold : text.toList.map foldChar = text.toList.map lowerChar := by
    refine List.map_congr_left fun c hc => foldChar_of_lower (sha.hex_digits data _ ?_)
    rw [← hlower]
    exact List.mem_map_of_mem hc
  rw [equalFold, map_foldChar_hex, hfold, hlower]
  exact beq_self_eq_true _

theorem foldChar_mem_of_equalFold (h : equalFold (sha.hex data) text = true) (hc : c ∈ text.toList) :
    foldChar c ∈ hexDigits := by
  rw [equalFold, map_foldChar_hex, beq_iff_eq] at h
  apply sha.hex_digits data
  rw [h]
  exact List.mem_map_of_mem hc

theorem length_of_equalFold (h : equalFold (sha.hex data) text = true) : text.toList.length = 64 := by
  rw [equalFold, map_foldChar_hex, beq_iff_eq] at h
  rw [← sha.length_hex data, h, List.length_map]

theorem toLower_hex : toLower (sha.hex data) = sha.hex data := by
  have hmap : (sha.hex data).toList.map lowerChar = (sha.hex data).toList := by
    conv_rhs => rw [← List.map_id (sha.hex data).toList]
    exact List.map_congr_left fun c hc => lowerChar_of_mem (sha.hex_digits data c hc)
  rw [toLower, hmap, String.ofList_toList]

end Sha256

def sampleDigit (n : Nat) : Char := hexDigits.get ⟨n % 16, Nat.mod_lt n (by decide)⟩

def sampleSha : Sha256 where
  hex data := String.ofList (List.replicate 63 '0' ++ [sampleDigit data.length])
  length_hex data := by simp
  hex_digits data c hc := by
    rw [String.toList_ofList] at hc
    rcases List.mem_append.mp hc with hzero | hlast
    · rw [List.eq_of_mem_replicate hzero]
      decide
    · rw [List.mem_singleton.mp hlast]
      exact List.get_mem _ _

end Caplv
