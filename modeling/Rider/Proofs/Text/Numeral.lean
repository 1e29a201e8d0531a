import Mathlib.Data.Nat.Basic
import Rider.Proofs.Text.Trim
import Rider.Text.Numeral

set_option autoImplicit false

namespace Rider.Text

theorem digits_length_mono {m n : Nat} (h : m ≤ n) : (digits m).length ≤ (digits n).length := by
  have hpos : 0 < (digits n).length := Nat.length_toDigits_pos
  have hn : n < 10 ^ (digits n).length :=
    (Nat.length_toDigits_le_iff (by decide) hpos).1 (Nat.le_refl _)
  exact (Nat.length_toDigits_le_iff (by decide) hpos).2 (h.trans_lt hn)

theorem padStart_length {width : Nat} {s : List Char} (h : s.length ≤ width) :
    (padStart width s).length = width := by
  rw [padStart, List.length_append, List.length_replicate]
  omega

/-- Decimal digits, with zeros or a plus sign in front allowed. -/
def Numeral (s : List Char) (n : Nat) : Prop :=
  ∃ sign ds, (sign = [] ∨ sign = ['+']) ∧ s = sign ++ ds ∧ ds ≠ [] ∧
    (∀ c ∈ ds, c.isDigit = true) ∧ n = Nat.ofDigitChars 10 ds 0

theorem isDigit_iff {c : Char} : c.isDigit = true ↔ '0' ≤ c ∧ c ≤ '9' := by
  simp only [Char.isDigit, Bool.and_eq_true, decide_eq_true_eq]
  rfl

theorem digitValue?_ten (c : Char) :
    digitValue? 10 c = if c.isDigit then some (c.toNat - 48) else none := by
  unfold digitValue?
  by_cases hc : '0' ≤ c ∧ c ≤ '9'
  · have hle : c.toNat ≤ 57 := hc.2
    rw [if_pos (isDigit_iff.2 hc), if_pos hc, Option.filter_some, if_pos (decide_eq_true (by omega))]
  · rw [if_neg (mt isDigit_iff.1 hc), if_neg hc]
    -- A letter is a digit of some base, but its value is ten or more.
    split_ifs with haf hAF
    · have hle : 97 ≤ c.toNat := haf.1
      rw [Option.filter_some, if_neg (by simpa using (by omega : 10 ≤ c.toNat - 87))]
    · have hle : 65 ≤ c.toNat := hAF.1
      rw [Option.filter_some, if_neg (by simpa using (by omega : 10 ≤ c.toNat - 55))]
    · rfl

theorem digitsValue?_ten_eq_some_iff {s : List Char} {acc n : Nat} :
    digitsValue? 10 acc s = some n ↔
      (∀ c ∈ s, c.isDigit = true) ∧ n = Nat.ofDigitChars 10 s acc := by
  induction s generalizing acc with
  | nil =>
    rw [digitsValue?, Option.some.injEq, Nat.ofDigitChars_nil]
    exact ⟨fun h => ⟨List.forall_mem_nil _, h.symm⟩, fun h => h.2.symm⟩
  | cons c s ih =>
    rw [digitsValue?, digitValue?_ten, Nat.ofDigitChars_cons, List.forall_mem_cons]
    by_cases hc : c.isDigit = true
    · rw [if_pos hc, Nat.mul_comm 10 acc]
      exact ih.trans (by rw [and_iff_right hc]; rfl)
    · rw [if_neg hc]
      simp [hc]

theorem number?_ten_eq_some_iff {s : List Char} {n : Nat} : number? 10 s = some n ↔ Numeral s n := by
  constructor
  · intro h
    unfold number? at h
    split at h
    · rename_i c ds
      obtain ⟨hds, hn⟩ := digitsValue?_ten_eq_some_iff.1 h
      exact ⟨['+'], c :: ds, .inr rfl, rfl, List.cons_ne_nil c ds, hds, hn⟩
    · rename_i c ds _
      obtain ⟨hds, hn⟩ := digitsValue?_ten_eq_some_iff.1 h
      exact ⟨[], c :: ds, .inl rfl, rfl, List.cons_ne_nil c ds, hds, hn⟩
    · contradiction
  · rintro ⟨sign, ds, hsign, rfl, hne, hds, hn⟩
    obtain ⟨c, ds, rfl⟩ := List.exists_cons_of_ne_nil hne
    have hvalue := digitsValue?_ten_eq_some_iff.2 ⟨hds, hn⟩
    rcases hsign with rfl | rfl
    · have hplus : c ≠ '+' := by
        rintro rfl
        exact absurd (hds '+' List.mem_cons_self) (by decide)
      rw [List.nil_append, number?]
      · exact hvalue
      · intro _ _ hcons
        exact absurd hcons hplus
    · exact hvalue

theorem count?_eq_some_iff {s : List Char} {n : Nat} :
    count? s = some n ↔ Numeral s n ∧ n ≤ maxCount := by
  rw [count?, Option.filter_eq_some_iff, number?_ten_eq_some_iff, decide_eq_true_iff]

theorem isDigit_of_mem_digits {n : Nat} {c : Char} (h : c ∈ digits n) : c.isDigit = true :=
  Nat.isDigit_of_mem_toDigits (by decide) (by decide) h

theorem numeral_digits (n : Nat) : Numeral (digits n) n :=
  ⟨[], digits n, .inl rfl, rfl, Nat.toDigits_ne_nil, fun _ => isDigit_of_mem_digits,
    Nat.ofDigitChars_ten_toDigits.symm⟩

theorem trimmed_digits (n : Nat) : Trimmed (digits n) := by
  refine trimmed_of_solid fun c hc => isBlank_eq_false ?_
  obtain ⟨hlow, hhigh⟩ := isDigit_iff.1 (isDigit_of_mem_digits hc)
  change 48 ≤ c.toNat at hlow
  change c.toNat ≤ 57 at hhigh
  omega

end Rider.Text
