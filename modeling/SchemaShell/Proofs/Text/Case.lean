import SchemaShell.Proofs.Text.Classes
import SchemaShell.Proofs.Text.Numeral
import SchemaShell.Text.Case

/-!
# Texts that differ in letter case only

`Recased` relates two texts that are the same once all ASCII letters in them are capitals. Nothing
outside ASCII is folded: such a character has only itself to be exchanged for.
-/

namespace SchemaShell.Text

/-- The same text up to the case of ASCII letters. -/
def Recased (text other : List Char) : Prop :=
  text.map Char.toUpper = other.map Char.toUpper

instance (text other : List Char) : Decidable (Recased text other) :=
  inferInstanceAs (Decidable (text.map Char.toUpper = other.map Char.toUpper))

/-- The capital of a letter is in the class when the letter is. -/
def CaseFree (p : Char → Bool) : Prop :=
  ∀ c : Char, p c.toUpper = p c

theorem CaseFree.eq {p : Char → Bool} (hp : CaseFree p) {c d : Char} (h : c.toUpper = d.toUpper) :
    p c = p d := by
  rw [← hp c, h, hp d]

theorem CaseFree.comp_toUpper {p : Char → Bool} (hp : CaseFree p) : p ∘ Char.toUpper = p :=
  funext hp

/-! ## Classes of characters -/

theorem caseFree_of_letters {p : Char → Bool} {b : Bool} (h : ∀ c : Char, c.isAlpha = true → p c = b) :
    CaseFree p := by
  intro c
  rcases toUpper_cases c with hsame | ⟨hc, hupper⟩
  · rw [hsame]
  · rw [h _ hc, h _ hupper]

theorem caseFree_isAlpha : CaseFree Char.isAlpha :=
  caseFree_of_letters fun _ hc => hc

theorem caseFree_isDigit : CaseFree Char.isDigit := by
  apply caseFree_of_letters (b := false)
  intro c hc
  rw [isAlpha_iff] at hc
  rw [← Bool.not_eq_true, isDigit_iff]
  omega

theorem caseFree_isAlphanum : CaseFree Char.isAlphanum :=
  caseFree_of_letters fun _ hc => isAlphanum_of_isAlpha hc

theorem caseFree_isBlank : CaseFree isBlank :=
  caseFree_of_letters fun _ hc => isBlank_of_isAlphanum (isAlphanum_of_isAlpha hc)

theorem caseFree_isWhiteSpace : CaseFree isWhiteSpace :=
  caseFree_of_letters fun _ hc => isWhiteSpace_of_isAlphanum (isAlphanum_of_isAlpha hc)

theorem caseFree_eq {d : Char} (hd : d.isAlpha = false) : CaseFree (· == d) := by
  apply caseFree_of_letters (b := false)
  rintro c hc
  rw [beq_eq_false_iff_ne]
  rintro rfl
  rw [hc] at hd
  cases hd

theorem CaseFree.or {p q : Char → Bool} (hp : CaseFree p) (hq : CaseFree q) :
    CaseFree fun c => p c || q c := by
  intro c
  simp only [hp c, hq c]

/-! ## Texts -/

namespace Recased

variable {text other front more : List Char} {p : Char → Bool}

theorem refl (text : List Char) : Recased text text := rfl

theorem nil : Recased [] [] := rfl

theorem cons {c d : Char} (hd : c.toUpper = d.toUpper) (h : Recased text other) :
    Recased (c :: text) (d :: other) := by
  unfold Recased at *
  rw [List.map_cons, List.map_cons, hd, h]

theorem append (h : Recased text other) (hm : Recased front more) :
    Recased (text ++ front) (other ++ more) := by
  unfold Recased at *
  rw [List.map_append, List.map_append, h, hm]

theorem eq_nil_iff (h : Recased text other) : text = [] ↔ other = [] := by
  rw [← List.map_eq_nil_iff (f := Char.toUpper), h, List.map_eq_nil_iff]

theorem length_eq (h : Recased text other) : text.length = other.length := by
  have hlength := congrArg List.length h
  rwa [List.length_map, List.length_map] at hlength

theorem take (h : Recased text other) (n : Nat) : Recased (text.take n) (other.take n) := by
  unfold Recased at *
  rw [List.map_take, List.map_take, h]

theorem drop (h : Recased text other) (n : Nat) : Recased (text.drop n) (other.drop n) := by
  unfold Recased at *
  rw [List.map_drop, List.map_drop, h]

theorem reverse (h : Recased text other) : Recased text.reverse other.reverse := by
  unfold Recased at *
  rw [List.map_reverse, List.map_reverse, h]

theorem dropLast (h : Recased text other) : Recased text.dropLast other.dropLast := by
  unfold Recased at *
  rw [List.map_dropLast, List.map_dropLast, h]

theorem exists_of_cons {c : Char} (h : Recased (c :: text) other) :
    ∃ d back, other = d :: back ∧ c.toUpper = d.toUpper ∧ Recased text back := by
  obtain ⟨d, back, hother, hd, hback⟩ := List.map_eq_cons_iff.mp (Eq.symm h)
  exact ⟨d, back, hother, hd.symm, hback.symm⟩

theorem head?_eq_some_iff {d : Char} (hd : d.isAlpha = false) (h : Recased text other) :
    text.head? = some d ↔ other.head? = some d := by
  cases text with
  | nil => rw [h.eq_nil_iff.mp rfl]
  | cons c text =>
    obtain ⟨e, back, rfl, he, -⟩ := h.exists_of_cons
    have hmark : (c == d) = (e == d) := (caseFree_eq hd).eq he
    rw [List.head?_cons, List.head?_cons, Option.some_inj, Option.some_inj, ← beq_iff_eq, hmark, beq_iff_eq]

theorem getLast?_eq_some_iff {d : Char} (hd : d.isAlpha = false) (h : Recased text other) :
    text.getLast? = some d ↔ other.getLast? = some d := by
  rw [← List.head?_reverse, ← List.head?_reverse]
  exact h.reverse.head?_eq_some_iff hd

theorem all_eq (hp : CaseFree p) (h : Recased text other) : text.all p = other.all p := by
  have hall := congrArg (List.all · p) h
  simpa only [List.all_map, hp.comp_toUpper] using hall

theorem any_eq (hp : CaseFree p) (h : Recased text other) : text.any p = other.any p := by
  have hany := congrArg (List.any · p) h
  simpa only [List.any_map, hp.comp_toUpper] using hany

theorem takeWhile (hp : CaseFree p) (h : Recased text other) :
    Recased (text.takeWhile p) (other.takeWhile p) := by
  have hfront := congrArg (List.takeWhile p) h
  rwa [List.takeWhile_map, List.takeWhile_map, hp.comp_toUpper] at hfront

theorem dropWhile (hp : CaseFree p) (h : Recased text other) :
    Recased (text.dropWhile p) (other.dropWhile p) := by
  have hback := congrArg (List.dropWhile p) h
  rwa [List.dropWhile_map, List.dropWhile_map, hp.comp_toUpper] at hback

theorem trimStart (h : Recased text other) : Recased (trimStart text) (trimStart other) :=
  h.dropWhile caseFree_isWhiteSpace

theorem trimEnd (h : Recased text other) : Recased (trimEnd text) (trimEnd other) :=
  (h.reverse.dropWhile caseFree_isWhiteSpace).reverse

theorem trim (h : Recased text other) : Recased (trim text) (trim other) :=
  h.trimStart.trimEnd

end Recased

/-! ## Words and numerals -/

theorem toNat_toUpper (c : Char) :
    c.toUpper.toNat = if 97 ≤ c.toNat ∧ c.toNat ≤ 122 then c.toNat - 32 else c.toNat := by
  unfold Char.toUpper
  have hlow : ('a'.val ≤ c.val ∧ c.val ≤ 'z'.val) ↔ (97 ≤ c.toNat ∧ c.toNat ≤ 122) := Iff.rfl
  by_cases h : 97 ≤ c.toNat ∧ c.toNat ≤ 122
  · rw [dif_pos (hlow.mpr h), if_pos h]
    change (c.val + ('A'.val - 'a'.val)).toNat = c.val.toNat - 32
    rw [UInt32.toNat_add, show ('A'.val - 'a'.val).toNat = 4294967264 from rfl]
    have hcode : 97 ≤ c.val.toNat ∧ c.val.toNat ≤ 122 := h
    omega
  · rw [dif_neg (mt hlow.mp h), if_neg h]

theorem toNat_toLower (c : Char) :
    c.toLower.toNat = if 65 ≤ c.toNat ∧ c.toNat ≤ 90 then c.toNat + 32 else c.toNat := by
  unfold Char.toLower
  have hhigh : (c.val ≥ 'A'.val ∧ c.val ≤ 'Z'.val) ↔ (65 ≤ c.toNat ∧ c.toNat ≤ 90) := Iff.rfl
  by_cases h : 65 ≤ c.toNat ∧ c.toNat ≤ 90
  · rw [dif_pos (hhigh.mpr h), if_pos h]
    change (c.val + ('a'.val - 'A'.val)).toNat = c.val.toNat + 32
    rw [UInt32.toNat_add, show ('a'.val - 'A'.val).toNat = 32 from rfl]
    have hcode : 65 ≤ c.val.toNat ∧ c.val.toNat ≤ 90 := h
    omega
  · rw [dif_neg (mt hhigh.mp h), if_neg h]

theorem toLower_toUpper (c : Char) : c.toUpper.toLower = c.toLower := by
  rw [← Char.toNat_inj, toNat_toLower, toNat_toLower, toNat_toUpper]
  by_cases hsmall : 97 ≤ c.toNat ∧ c.toNat ≤ 122
  · rw [if_pos hsmall, if_pos (by omega), if_neg (by omega)]
    omega
  · rw [if_neg hsmall]

theorem lowerChar_toUpper (c : Char) : lowerChar c.toUpper = lowerChar c := by
  -- The two characters outside ASCII that are lowered into it are no small letters.
  have hkelvin : c.toUpper = '\u212A' ↔ c = '\u212A' := by
    rw [← Char.toNat_inj, ← Char.toNat_inj, toNat_toUpper, show '\u212A'.toNat = 8490 from rfl]
    split <;> omega
  have hdotted : c.toUpper = '\u0130' ↔ c = '\u0130' := by
    rw [← Char.toNat_inj, ← Char.toNat_inj, toNat_toUpper, show '\u0130'.toNat = 304 from rfl]
    split <;> omega
  simp only [lowerChar, toLower_toUpper, hkelvin, hdotted]

namespace Recased

variable {text other : List Char}

theorem lower_eq (h : Recased text other) : lower text = lower other := by
  have hcapitals : ∀ t : List Char, lower (t.map Char.toUpper) = lower t := by
    intro t
    rw [lower, lower, List.flatMap_map]
    simp only [lowerChar_toUpper]
  rw [← hcapitals text, h, hcapitals other]

theorem eq_of_digits (htext : text.all Char.isDigit = true) (h : Recased text other) : text = other := by
  have hother : other.all Char.isDigit = true := by rwa [← h.all_eq caseFree_isDigit]
  have hcapitals : ∀ t : List Char, t.all Char.isDigit = true → t.map Char.toUpper = t := by
    intro t ht
    refine (List.map_congr_left fun c hc => ?_).trans (List.map_id t)
    have hdigit := (isDigit_iff c).mp (List.all_eq_true.mp ht c hc)
    rcases toUpper_cases c with hsame | ⟨halpha, -⟩
    · exact hsame
    · rw [isAlpha_iff] at halpha
      omega
  rw [← hcapitals text htext, h, hcapitals other hother]

theorem withoutPlus (h : Recased text other) : Recased (withoutPlus text) (Text.withoutPlus other) := by
  cases text with
  | nil =>
    rw [h.eq_nil_iff.mp rfl]
    exact refl _
  | cons c text =>
    obtain ⟨d, back, rfl, hd, hback⟩ := h.exists_of_cons
    have hplus : (c == '+') = (d == '+') := (caseFree_eq rfl).eq hd
    rw [withoutPlus_cons, withoutPlus_cons, hplus]
    split
    · exact hback
    · exact h

theorem numeral?_eq (h : Recased text other) : numeral? text = numeral? other := by
  have hdigits := h.withoutPlus
  by_cases hdigit : (Text.withoutPlus text).all Char.isDigit = true
  · unfold numeral?
    rw [hdigits.eq_of_digits hdigit]
  · rw [numeral?_eq_none hdigit, numeral?_eq_none]
    rwa [← hdigits.all_eq caseFree_isDigit]

end Recased

end SchemaShell.Text
