import Mathlib
import Tagwire.Text.Decimal

namespace Tagwire.Decimal

lemma digits_ne_nil (n : Nat) : digits n ≠ [] :=
  Nat.toDigits_ne_nil

lemma isDigit_of_mem_digits {n : Nat} {c : Char} (h : c ∈ digits n) : c.isDigit = true :=
  Nat.isDigit_of_mem_toDigits (by decide) (by decide) h

lemma notMem_digits {c : Char} (hc : c.isDigit = false) (n : Nat) : c ∉ digits n := by
  intro h
  rw [isDigit_of_mem_digits h] at hc
  cases hc

lemma digit_value_lt {c : Char} (h : c.isDigit = true) : c.toNat - '0'.toNat < 10 := by
  have hc : c.toNat ≤ '9'.toNat := by
    simp only [Char.isDigit, Bool.and_eq_true, decide_eq_true_eq] at h
    exact h.2
  have h9 : '9'.toNat = '0'.toNat + 9 := rfl
  omega

lemma value_lt {ds : List Char} (h : ∀ c ∈ ds, c.isDigit = true) : value ds < 10 ^ ds.length := by
  suffices key : ∀ init, Nat.ofDigitChars 10 ds init < 10 ^ ds.length * (init + 1) by
    simpa [value] using key 0
  induction ds with
  | nil => simp
  | cons c ds ih =>
    intro init
    rw [Nat.ofDigitChars_cons, List.length_cons, Nat.pow_succ]
    have hc := digit_value_lt (h c List.mem_cons_self)
    calc Nat.ofDigitChars 10 ds (10 * init + (c.toNat - '0'.toNat))
        < 10 ^ ds.length * (10 * init + (c.toNat - '0'.toNat) + 1) :=
          ih (fun d hd => h d (List.mem_cons_of_mem _ hd)) _
      _ ≤ 10 ^ ds.length * (10 * (init + 1)) := Nat.mul_le_mul_left _ (by omega)
      _ = 10 ^ ds.length * 10 * (init + 1) := by rw [Nat.mul_assoc]

lemma digits_value_length_le {ds : List Char} (hne : ds ≠ [])
    (h : ∀ c ∈ ds, c.isDigit = true) : (digits (value ds)).length ≤ ds.length :=
  (Nat.length_toDigits_le_iff (by decide) (List.length_pos_iff.2 hne)).2 (value_lt h)

def Numeral (cs : List Char) (n : Nat) : Prop :=
  ∃ ds, (cs = ds ∨ cs = '+' :: ds) ∧ ds ≠ [] ∧ (∀ c ∈ ds, c.isDigit = true) ∧ value ds = n

lemma numeral_digits (n : Nat) : Numeral (digits n) n :=
  ⟨digits n, .inl rfl, digits_ne_nil n, fun _ => isDigit_of_mem_digits, value_digits n⟩

lemma unsigned?_eq_some_iff {limit n : Nat} {cs : List Char} :
    unsigned? limit cs = some n ↔
      cs ≠ [] ∧ (∀ c ∈ cs, c.isDigit = true) ∧ value cs = n ∧ n < limit := by
  rw [unsigned?, Option.ite_none_right_eq_some, Option.some_inj, List.all_eq_true]
  constructor
  · rintro ⟨⟨hne, hdigits, hlt⟩, rfl⟩
    exact ⟨hne, hdigits, rfl, hlt⟩
  · rintro ⟨hne, hdigits, rfl, hlt⟩
    exact ⟨⟨hne, hdigits, hlt⟩, rfl⟩

lemma read?_eq_some_iff {limit n : Nat} {cs : List Char} :
    read? limit cs = some n ↔ Numeral cs n ∧ n < limit := by
  unfold read?
  split
  · next ds =>
    rw [unsigned?_eq_some_iff]
    constructor
    · rintro ⟨hne, hdigits, hvalue, hlt⟩
      exact ⟨⟨ds, .inr rfl, hne, hdigits, hvalue⟩, hlt⟩
    · rintro ⟨⟨es, rfl | hes, hne, hdigits, hvalue⟩, hlt⟩
      · exact absurd (hdigits '+' List.mem_cons_self) (by decide)
      · obtain rfl := (List.cons_eq_cons.1 hes).2
        exact ⟨hne, hdigits, hvalue, hlt⟩
  · next hplus =>
    rw [unsigned?_eq_some_iff]
    constructor
    · rintro ⟨hne, hdigits, hvalue, hlt⟩
      exact ⟨⟨cs, .inl rfl, hne, hdigits, hvalue⟩, hlt⟩
    · rintro ⟨⟨es, rfl | hes, hne, hdigits, hvalue⟩, hlt⟩
      · exact ⟨hne, hdigits, hvalue, hlt⟩
      · exact absurd hes (hplus es)

lemma word16?_eq_some_iff {cs : List Char} {w : UInt16} :
    word16? cs = some w ↔ Numeral cs w.toNat := by
  rw [word16?, Option.map_eq_some_iff]
  constructor
  · rintro ⟨n, hn, rfl⟩
    obtain ⟨hnumeral, hlt⟩ := read?_eq_some_iff.1 hn
    rwa [UInt16.toNat_ofNat_of_lt' hlt]
  · exact fun h => ⟨w.toNat, read?_eq_some_iff.2 ⟨h, w.toNat_lt⟩, UInt16.ofNat_toNat⟩

lemma read?_digits {limit n : Nat} (h : n < limit) : read? limit (digits n) = some n :=
  read?_eq_some_iff.2 ⟨numeral_digits n, h⟩

lemma word64?_digits (n : UInt64) : word64? (digits n.toNat) = some n := by
  rw [word64?, read?_digits n.toNat_lt, Option.map_some, UInt64.ofNat_toNat]

end Tagwire.Decimal
