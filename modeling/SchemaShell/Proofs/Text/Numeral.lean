import Mathlib.Data.List.Induction
import SchemaShell.Text.Numeral

/-!
# The value of a numeral

A number that fits in the word at the end has fitted in it all the time, so building it up digit by
digit is refused just for numerals whose value is 2^64 or more.
-/

namespace SchemaShell.Text

/-- A plus sign, which may be left out, and digits that come to the number. -/
inductive Numeral : List Char → Nat → Prop where
  | plain {digits : List Char} (some : digits ≠ []) (all : ∀ c ∈ digits, c.isDigit = true) :
    Numeral digits (decimalValue digits)
  | signed {digits : List Char} (some : digits ≠ []) (all : ∀ c ∈ digits, c.isDigit = true) :
    Numeral ('+' :: digits) (decimalValue digits)

variable {text digits : List Char}

/-! ## Digit by digit -/

/-- The digits make a number that fits in the word. -/
def FitsWord (digits : List Char) : Prop :=
  digits.all Char.isDigit = true ∧ decimalValue digits < UInt64.size

theorem fitsWord_concat (digits : List Char) (c : Char) :
    FitsWord (digits ++ [c]) ↔
      FitsWord digits ∧ c.isDigit = true ∧ 10 * decimalValue digits + digitValue c < UInt64.size := by
  unfold FitsWord
  rw [decimalValue_concat, List.all_append]
  simp only [List.all_cons, List.all_nil, Bool.and_true, Bool.and_eq_true]
  constructor
  · rintro ⟨⟨hdigits, hc⟩, hlt⟩
    -- The number without its last digit is smaller.
    exact ⟨⟨hdigits, by omega⟩, hc, hlt⟩
  · rintro ⟨⟨hdigits, -⟩, hc, hlt⟩
    exact ⟨⟨hdigits, hc⟩, hlt⟩

theorem pushDigit?_ofNat {n : Nat} (hn : n < UInt64.size) (c : Char) :
    pushDigit? (UInt64.ofNat n) c =
      if c.isDigit = true ∧ 10 * n + digitValue c < UInt64.size then
        some (UInt64.ofNat (10 * n + digitValue c))
      else none := by
  unfold pushDigit?
  rw [UInt64.toNat_ofNat_of_lt' hn, UInt64.ofNat_add, UInt64.ofNat_mul]
  rfl

theorem readDigits?_eq_some_iff {n : UInt64} :
    readDigits? digits = some n ↔ FitsWord digits ∧ n = UInt64.ofNat (decimalValue digits) := by
  induction digits using List.reverseRecOn generalizing n with
  | nil => simp [FitsWord, eq_comm, UInt64.size]
  | append_singleton digits c ih =>
    rw [readDigits?_concat, Option.bind_eq_some_iff, fitsWord_concat, decimalValue_concat]
    constructor
    · rintro ⟨value, hvalue, hpush⟩
      obtain ⟨hfits, rfl⟩ := ih.mp hvalue
      rw [pushDigit?_ofNat hfits.2] at hpush
      split at hpush
      · next hc => exact ⟨⟨hfits, hc⟩, (Option.some.inj hpush).symm⟩
      · cases hpush
    · rintro ⟨⟨hfits, hc⟩, rfl⟩
      refine ⟨_, ih.mpr ⟨hfits, rfl⟩, ?_⟩
      rw [pushDigit?_ofNat hfits.2, if_pos hc]

/-! ## Whole numerals -/

theorem withoutPlus_cons (c : Char) (text : List Char) :
    withoutPlus (c :: text) = if c == '+' then text else c :: text := by
  by_cases hc : c = '+'
  · subst hc
    rfl
  · simp [withoutPlus, hc]

theorem withoutPlus_of_digits (h : ∀ c ∈ digits, c.isDigit = true) : withoutPlus digits = digits := by
  cases digits with
  | nil => rfl
  | cons c digits =>
    have hc : c ≠ '+' := by
      rintro rfl
      exact absurd (h '+' List.mem_cons_self) (by decide)
    simp [withoutPlus_cons, hc]

theorem numeral?_eq_some_iff {n : UInt64} :
    numeral? text = some n ↔
      withoutPlus text ≠ [] ∧ FitsWord (withoutPlus text) ∧ n = UInt64.ofNat (decimalValue (withoutPlus text)) := by
  unfold numeral?
  dsimp only
  split
  · next hnone => simp [hnone]
  · next hsome => simp [hsome, readDigits?_eq_some_iff]

theorem numeral?_eq_none (h : ¬ (withoutPlus text).all Char.isDigit = true) : numeral? text = none := by
  rw [Option.eq_none_iff_forall_ne_some]
  intro n hn
  exact h (numeral?_eq_some_iff.mp hn).2.1.1

theorem numeral_iff {n : Nat} :
    Numeral text n ↔
      withoutPlus text ≠ [] ∧ (withoutPlus text).all Char.isDigit = true ∧ n = decimalValue (withoutPlus text) := by
  constructor
  · rintro (⟨hsome, hall⟩ | ⟨hsome, hall⟩)
    · rw [withoutPlus_of_digits hall]
      exact ⟨hsome, List.all_eq_true.mpr hall, rfl⟩
    · exact ⟨hsome, List.all_eq_true.mpr hall, rfl⟩
  · rintro ⟨hsome, hall, rfl⟩
    rw [List.all_eq_true] at hall
    cases text with
    | nil => exact .plain hsome hall
    | cons c text =>
      rw [withoutPlus_cons] at *
      split at hsome
      · next hc =>
        obtain rfl := beq_iff_eq.mp hc
        exact .signed hsome hall
      · next hc =>
        rw [if_neg hc] at *
        exact .plain hsome hall

theorem numeral?_eq_some_iff_numeral {n : UInt64} : numeral? text = some n ↔ Numeral text n.toNat := by
  rw [numeral?_eq_some_iff, numeral_iff]
  unfold FitsWord
  constructor
  · rintro ⟨hsome, ⟨hall, hlt⟩, rfl⟩
    exact ⟨hsome, hall, UInt64.toNat_ofNat_of_lt hlt⟩
  · rintro ⟨hsome, hall, hn⟩
    rw [← hn]
    exact ⟨hsome, ⟨hall, n.toNat_lt_size⟩, UInt64.ofNat_toNat.symm⟩

theorem exists_numeral?_iff : (∃ n, numeral? text = some n) ↔ ∃ n < UInt64.size, Numeral text n := by
  simp only [numeral?_eq_some_iff_numeral]
  constructor
  · rintro ⟨n, hn⟩
    exact ⟨n.toNat, n.toNat_lt_size, hn⟩
  · rintro ⟨n, hlt, hn⟩
    exact ⟨UInt64.ofNat n, by rwa [UInt64.toNat_ofNat_of_lt' hlt]⟩

end SchemaShell.Text
