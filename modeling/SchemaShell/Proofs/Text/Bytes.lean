import Mathlib.Data.List.Basic
import Mathlib.Tactic.SplitIfs
import SchemaShell.Text.Bytes

/-!
# Texts and their bytes

A row of bytes is the encoding of one text at most. A character of ASCII has one byte, which ends no other
character, so it can be put behind a row of bytes or taken away there without making a text of the row or
keeping it from being one.
-/

namespace SchemaShell.Text

variable {text : String} {row : List UInt8} {c d : Char}

/-! ## Decoding -/

theorem ofBytes?_eq_some_iff : ofBytes? row = some text ↔ bytes text = row := by
  constructor
  · intro h
    unfold ofBytes? String.fromUTF8? at h
    split at h
    · cases h
      rfl
    · cases h
  · rintro rfl
    exact ofBytes?_bytes text

theorem ofBytes?_eq_none_iff : ofBytes? row = none ↔ ∀ text, bytes text ≠ row := by
  rw [Option.eq_none_iff_forall_ne_some]
  exact forall_congr' fun text => not_congr ofBytes?_eq_some_iff

theorem bytes_eq_nil_iff : bytes text = [] ↔ text = "" := by
  constructor
  · intro h
    have hdecoded := ofBytes?_bytes text
    rw [h] at hdecoded
    exact (Option.some.inj hdecoded).symm
  · rintro rfl
    exact bytes_empty

/-! ## One character -/

theorem bytes_singleton (c : Char) : bytes (String.singleton c) = String.utf8EncodeChar c := by
  simp [bytes, List.utf8Encode]

theorem utf8EncodeChar_of_lt (h : c.toNat < 128) : String.utf8EncodeChar c = [UInt8.ofNat c.toNat] := by
  rw [String.utf8EncodeChar.eq_1]
  exact if_pos (by change c.toNat ≤ 127; omega)

theorem exists_getLast?_utf8EncodeChar (h : 128 ≤ c.toNat) :
    ∃ byte, (String.utf8EncodeChar c).getLast? = some byte ∧ 128 ≤ byte.toNat := by
  have hlast : 128 ≤ (UInt8.ofNat (c.val.toNat % 64 + 128)).toNat := by
    rw [UInt8.toNat_ofNat']
    omega
  rw [String.utf8EncodeChar.eq_1, if_neg (by change ¬ c.toNat ≤ 127; omega)]
  refine ⟨_, ?_, hlast⟩
  split_ifs <;> rfl

theorem eq_of_getLast?_utf8EncodeChar (hc : c.toNat < 128)
    (h : (String.utf8EncodeChar d).getLast? = (String.utf8EncodeChar c).getLast?) : d = c := by
  rw [utf8EncodeChar_of_lt hc, List.getLast?_singleton] at h
  by_cases hd : d.toNat < 128
  · rw [utf8EncodeChar_of_lt hd, List.getLast?_singleton] at h
    have hcode := congrArg UInt8.toNat (Option.some.inj h)
    rw [UInt8.toNat_ofNat', UInt8.toNat_ofNat'] at hcode
    exact Char.toNat_inj.mp (by omega)
  · obtain ⟨byte, hbyte, hlarge⟩ := exists_getLast?_utf8EncodeChar (Nat.le_of_not_lt hd)
    rw [hbyte] at h
    obtain rfl := Option.some.inj h
    rw [UInt8.toNat_ofNat'] at hlarge
    omega

/-! ## The last character -/

theorem exists_of_bytes_eq_append (hc : c.toNat < 128)
    (h : bytes text = row ++ bytes (String.singleton c)) :
    ∃ front, bytes front = row ∧ text = front ++ String.singleton c := by
  rcases List.eq_nil_or_concat text.toList with hnil | ⟨chars, d, hchars⟩
  · obtain rfl := String.toList_eq_nil_iff.mp hnil
    simp [bytes_singleton, String.utf8EncodeChar_ne_nil] at h
  · have htext : text = String.ofList chars ++ String.singleton d := by
      rw [← String.toList_inj]
      simpa using hchars
    rw [htext, bytes_append, bytes_singleton, bytes_singleton] at h
    have hlast := congrArg List.getLast? h
    rw [List.getLast?_append_of_ne_nil _ String.utf8EncodeChar_ne_nil,
      List.getLast?_append_of_ne_nil _ String.utf8EncodeChar_ne_nil] at hlast
    obtain rfl := eq_of_getLast?_utf8EncodeChar hc hlast
    exact ⟨String.ofList chars, List.append_cancel_right h, htext⟩

theorem ofBytes?_append_singleton (hc : c.toNat < 128) (row : List UInt8) :
    ofBytes? (row ++ bytes (String.singleton c)) =
      (ofBytes? row).map fun text => text ++ String.singleton c := by
  cases h : ofBytes? row with
  | some text =>
    rw [ofBytes?_eq_some_iff] at h
    rw [← h, ← bytes_append]
    exact ofBytes?_bytes _
  | none =>
    rw [ofBytes?_eq_none_iff] at h
    refine ofBytes?_eq_none_iff.mpr fun text htext => ?_
    obtain ⟨front, hfront, -⟩ := exists_of_bytes_eq_append hc htext
    exact h front hfront

end SchemaShell.Text
