import Mathlib.Algebra.Group.Nat.Defs
import Rider.Json.Basic
import Rider.Proofs.Lists
import Rider.Proofs.Text.Numeral

set_option autoImplicit false

namespace Rider.Json

def IsNumberChar (c : Char) : Prop := c.isDigit = true ∨ c ∈ ['-', '+', '.', 'e']

def StartsWithDigit (s : List Char) : Prop := ∃ c rest, s = c :: rest ∧ c.isDigit = true

theorem signed_inj {b c : Bool} {xs ys : List Char} (hxs : StartsWithDigit xs) (hys : StartsWithDigit ys)
    (h : (if b then ['-'] else []) ++ xs = (if c then ['-'] else []) ++ ys) : b = c ∧ xs = ys := by
  obtain ⟨x, xs, rfl, hx⟩ := hxs
  obtain ⟨y, ys, rfl, hy⟩ := hys
  have hxminus : x ≠ '-' := by
    rintro rfl
    exact absurd hx (by decide)
  have hyminus : y ≠ '-' := by
    rintro rfl
    exact absurd hy (by decide)
  cases b <;> cases c
  · exact ⟨rfl, h⟩
  · exact absurd (List.cons.inj h).1 hxminus
  · exact absurd (List.cons.inj h).1.symm hyminus
  · exact ⟨rfl, (List.cons.inj h).2⟩

theorem startsWithDigit_digits (n : Nat) : StartsWithDigit (Text.digits n) := by
  obtain ⟨c, rest, h⟩ := List.exists_cons_of_ne_nil (Nat.toDigits_ne_nil : Text.digits n ≠ [])
  exact ⟨c, rest, h, Text.isDigit_of_mem_digits (h ▸ List.mem_cons_self)⟩

namespace Decimal

def readExponent : List Char → Int
  | '-' :: ds => -(Nat.ofDigitChars 10 ds 0 : Int)
  | _ :: ds => Nat.ofDigitChars 10 ds 0
  | [] => 0

/-- The number that the digits of a magnitude write without their point, and the power of ten by which
it is scaled. -/
def readMagnitude (s : List Char) : Nat × Int :=
  let mantissa := s.takeWhile (· != 'e')
  let fraction := (mantissa.dropWhile (· != '.')).drop 1
  (Nat.ofDigitChars 10 (mantissa.filter (· != '.')) 0,
    readExponent ((s.dropWhile (· != 'e')).drop 1) - fraction.length)

def AllDigits (ds : List Char) : Prop := ∀ c ∈ ds, c.isDigit = true

theorem allDigits_digits (n : Nat) : AllDigits (Text.digits n) :=
  fun _ hc => Text.isDigit_of_mem_digits hc

theorem allDigits_zeros (n : Nat) : AllDigits (List.replicate n '0') := by
  intro c hc
  rw [List.eq_of_mem_replicate hc]
  rfl

theorem AllDigits.append {ds es : List Char} (hds : AllDigits ds) (hes : AllDigits es) :
    AllDigits (ds ++ es) :=
  List.forall_mem_append.2 ⟨hds, hes⟩

theorem AllDigits.ne {ds : List Char} (h : AllDigits ds) {c : Char} (hc : c.isDigit = false) :
    ∀ d ∈ ds, (d != c) = true := by
  intro d hd
  rw [bne_iff_ne]
  rintro rfl
  exact absurd (h d hd) (by rw [hc]; decide)

variable {whole fraction : List Char}

theorem readMagnitude_append {mantissa tail : List Char} (h : ∀ c ∈ mantissa, (c != 'e') = true)
    (htail : tail = [] ∨ ∃ rest, tail = 'e' :: rest) :
    readMagnitude (mantissa ++ tail) =
      (Nat.ofDigitChars 10 (mantissa.filter (· != '.')) 0,
        readExponent (tail.drop 1) - ((mantissa.dropWhile (· != '.')).drop 1).length) := by
  have hstop : tail.takeWhile (· != 'e') = [] ∧ tail.dropWhile (· != 'e') = tail := by
    rcases htail with rfl | ⟨rest, rfl⟩ <;> simp
  rw [readMagnitude, List.takeWhile_append_of_pos h, List.dropWhile_append_of_pos h, hstop.1, hstop.2,
    List.append_nil]

theorem readMagnitude_pointed {tail : List Char} (hwhole : AllDigits whole) (hfraction : AllDigits fraction)
    (htail : tail = [] ∨ ∃ rest, tail = 'e' :: rest) :
    readMagnitude (whole ++ '.' :: fraction ++ tail) =
      (Nat.ofDigitChars 10 (whole ++ fraction) 0, readExponent (tail.drop 1) - fraction.length) := by
  have hdigits : ∀ c ∈ whole ++ '.' :: fraction, (c != 'e') = true := by
    refine List.forall_mem_append.2 ⟨hwhole.ne (by decide), List.forall_mem_cons.2 ⟨by decide, ?_⟩⟩
    exact hfraction.ne (by decide)
  have hfilter : (whole ++ '.' :: fraction).filter (· != '.') = whole ++ fraction := by
    rw [List.filter_append, List.filter_eq_self.2 (hwhole.ne (by decide)),
      List.filter_cons_of_neg (by decide), List.filter_eq_self.2 (hfraction.ne (by decide))]
  have hpoint : (whole ++ '.' :: fraction).dropWhile (· != '.') = '.' :: fraction := by
    rw [List.dropWhile_append_of_pos (hwhole.ne (by decide)), List.dropWhile_cons_of_neg (by decide)]
  rw [readMagnitude_append hdigits htail, hfilter, hpoint]
  rfl

theorem readMagnitude_point (hwhole : AllDigits whole) (hfraction : AllDigits fraction) :
    readMagnitude (whole ++ '.' :: fraction) =
      (Nat.ofDigitChars 10 (whole ++ fraction) 0, -(fraction.length : Int)) := by
  have hread := readMagnitude_pointed hwhole hfraction (.inl rfl)
  rw [List.append_nil] at hread
  exact hread.trans (Prod.ext rfl (Int.zero_sub _))

theorem readMagnitude_whole {rest : List Char} (hwhole : AllDigits whole) :
    readMagnitude (whole ++ 'e' :: rest) =
      (Nat.ofDigitChars 10 whole 0, readExponent rest) := by
  have hpoint : whole.dropWhile (· != '.') = [] := List.dropWhile_eq_nil_iff.2 (hwhole.ne (by decide))
  rw [readMagnitude_append (hwhole.ne (by decide)) (.inr ⟨rest, rfl⟩),
    List.filter_eq_self.2 (hwhole.ne (by decide)), hpoint]
  simp

theorem readExponent_signed (n : Int) :
    readExponent ((if n < 0 then '-' else '+') :: Text.digits n.natAbs) = n := by
  have hdigits : Nat.ofDigitChars 10 (Text.digits n.natAbs) 0 = n.natAbs := Nat.ofDigitChars_ten_toDigits
  by_cases hn : n < 0
  · rw [if_pos hn, readExponent, hdigits]
    omega
  · rw [if_neg hn]
    change ((Nat.ofDigitChars 10 (Text.digits n.natAbs) 0 : Nat) : Int) = n
    rw [hdigits]
    omega

theorem readMagnitude_scientific {ds : List Char} (hds : AllDigits ds) (hne : ds ≠ []) (x : Int) :
    readMagnitude (scientific ds x) = (Nat.ofDigitChars 10 ds 0, x + 1 - ds.length) := by
  unfold scientific
  match ds, hne with
  | [c], _ =>
    refine (readMagnitude_whole hds).trans (Prod.ext rfl ?_)
    rw [readExponent_signed]
    simp
  | c :: e :: rest, _ =>
    obtain ⟨hc, hrest⟩ := List.forall_mem_cons.1 hds
    have hfirst : AllDigits [c] := List.forall_mem_singleton.2 hc
    have hread := readMagnitude_pointed hfirst hrest
      (.inr ⟨(if x < 0 then '-' else '+') :: Text.digits x.natAbs, rfl⟩)
    refine hread.trans (Prod.ext rfl ?_)
    rw [List.drop_one, List.tail_cons, readExponent_signed]
    simp only [List.length_cons]
    omega

theorem ofDigitChars_zeros (n : Nat) (ds : List Char) :
    Nat.ofDigitChars 10 (List.replicate n '0' ++ ds) 0 = Nat.ofDigitChars 10 ds 0 := by
  rw [Nat.ofDigitChars_append, Nat.ofDigitChars_replicate_zero, Nat.mul_zero]

/-- The digits are read back, with zeros behind them. -/
theorem readMagnitude_magnitude (d : Decimal) :
    ∃ k : Nat, readMagnitude d.magnitude = (d.digits * 10 ^ k, d.exponent - k) := by
  have hds := allDigits_digits d.digits
  have hne : Text.digits d.digits ≠ [] := Nat.toDigits_ne_nil
  have hvalue : Nat.ofDigitChars 10 (Text.digits d.digits) 0 = d.digits := Nat.ofDigitChars_ten_toDigits
  unfold magnitude
  generalize Text.digits d.digits = ds at hds hne hvalue
  simp only
  split_ifs with hintegral hinside hbefore
  · refine ⟨d.exponent.toNat + 1, ?_⟩
    have hwhole := hds.append (allDigits_zeros d.exponent.toNat)
    refine (readMagnitude_point hwhole (allDigits_zeros 1)).trans (Prod.ext ?_ ?_)
    · have hzeros : Nat.ofDigitChars 10 (List.replicate 1 '0') d.digits = 10 * d.digits :=
        Nat.ofDigitChars_replicate_zero
      rw [List.append_assoc, ← List.replicate_add, Nat.ofDigitChars_append, hvalue,
        Nat.ofDigitChars_replicate_zero, Nat.mul_comm]
    · simp only [List.length_replicate]
      omega
  · refine ⟨0, ?_⟩
    have hwhole : AllDigits (ds.take (ds.length + d.exponent).toNat) :=
      fun c hc => hds c (List.mem_of_mem_take hc)
    have hfraction : AllDigits (ds.drop (ds.length + d.exponent).toNat) :=
      fun c hc => hds c (List.mem_of_mem_drop hc)
    have hread := readMagnitude_point hwhole hfraction
    rw [List.take_append_drop, hvalue] at hread
    refine hread.trans (Prod.ext (by simp) ?_)
    simp only [List.length_drop]
    omega
  · refine ⟨0, ?_⟩
    have hfraction := (allDigits_zeros (-(ds.length + d.exponent)).toNat).append hds
    have hread := readMagnitude_point (allDigits_zeros 1) hfraction
    rw [ofDigitChars_zeros, ofDigitChars_zeros, hvalue] at hread
    refine hread.trans (Prod.ext (by simp) ?_)
    simp only [List.length_append, List.length_replicate]
    omega
  · refine ⟨0, ?_⟩
    rw [readMagnitude_scientific hds hne, hvalue]
    refine Prod.ext (by simp) ?_
    simp only
    omega

theorem normal_unique_of_le {m n j k : Nat} {d e : Int} (hjk : j ≤ k) (hm : m % 10 = 0 → m = 0 ∧ d = 0)
    (hn : n % 10 = 0 → n = 0 ∧ e = 0) (hdigits : m * 10 ^ j = n * 10 ^ k) (hscale : d - j = e - k) :
    m = n ∧ d = e := by
  obtain ⟨i, rfl⟩ := Nat.exists_eq_add_of_le hjk
  have hquotient : m = n * 10 ^ i := by
    rw [Nat.add_comm, Nat.pow_add, ← Nat.mul_assoc] at hdigits
    exact Nat.eq_of_mul_eq_mul_right (Nat.pow_pos (by decide)) hdigits
  cases i with
  | zero => exact ⟨by rw [hquotient, Nat.pow_zero, Nat.mul_one], by omega⟩
  | succ i =>
    -- A zero at the end of a normal number makes it zero, and zero is scaled by nothing.
    rw [Nat.pow_succ, ← Nat.mul_assoc] at hquotient
    obtain ⟨rfl, rfl⟩ := hm (by omega)
    have hpart : n * 10 ^ i = 0 := (Nat.mul_eq_zero.1 hquotient.symm).resolve_right (by decide)
    have hpow : 10 ^ i ≠ 0 := Nat.pos_iff_ne_zero.1 (Nat.pow_pos (by decide))
    obtain rfl := (Nat.mul_eq_zero.1 hpart).resolve_right hpow
    obtain ⟨-, rfl⟩ := hn rfl
    omega

theorem ext_of_magnitude {d e : Decimal} (hsign : d.negative = e.negative)
    (h : d.magnitude = e.magnitude) : d = e := by
  obtain ⟨j, hj⟩ := d.readMagnitude_magnitude
  obtain ⟨k, hk⟩ := e.readMagnitude_magnitude
  rw [h, hk] at hj
  obtain ⟨hdigits, hscale⟩ := Prod.mk.inj hj
  obtain ⟨hsame, hexponent⟩ : d.digits = e.digits ∧ d.exponent = e.exponent := by
    rcases Nat.le_total j k with hjk | hkj
    · exact normal_unique_of_le hjk d.normal e.normal hdigits.symm hscale.symm
    · obtain ⟨hs, he⟩ := normal_unique_of_le hkj e.normal d.normal hdigits hscale
      exact ⟨hs.symm, he.symm⟩
  cases d
  cases e
  simp_all

theorem startsWithDigit_magnitude (d : Decimal) : StartsWithDigit d.magnitude := by
  have hds := allDigits_digits d.digits
  have hne : Text.digits d.digits ≠ [] := Nat.toDigits_ne_nil
  unfold magnitude
  generalize Text.digits d.digits = ds at hds hne
  obtain ⟨c, ds, rfl⟩ := List.exists_cons_of_ne_nil hne
  have hc := hds c List.mem_cons_self
  simp only
  split_ifs with _ hinside
  · exact ⟨c, _, rfl, hc⟩
  · obtain ⟨k, hk⟩ : ∃ k, ((c :: ds).length + d.exponent).toNat = k + 1 :=
      Nat.exists_eq_succ_of_ne_zero (by omega)
    rw [hk]
    exact ⟨c, _, rfl, hc⟩
  · exact ⟨'0', _, rfl, rfl⟩
  · cases ds with
    | nil => exact ⟨c, _, rfl, hc⟩
    | cons e ds => exact ⟨c, _, rfl, hc⟩

theorem text_injective {d e : Decimal} (h : d.text = e.text) : d = e := by
  obtain ⟨hsign, hmagnitude⟩ := signed_inj d.startsWithDigit_magnitude e.startsWithDigit_magnitude h
  exact ext_of_magnitude hsign hmagnitude

theorem isNumberChar_pointed {ds : List Char} (h : AllDigits ds) : ∀ c ∈ pointed ds, IsNumberChar c := by
  match ds with
  | [] => exact List.forall_mem_nil _
  | [c] => exact fun d hd => .inl (h d hd)
  | c :: e :: rest =>
    obtain ⟨hc, hrest⟩ := List.forall_mem_cons.1 h
    have hdigits : ∀ d ∈ e :: rest, IsNumberChar d := fun d hd => .inl (hrest d hd)
    exact List.forall_mem_cons.2 ⟨.inl hc, List.forall_mem_cons.2 ⟨.inr (by decide), hdigits⟩⟩

theorem magnitude_chars (d : Decimal) :
    (∀ c ∈ d.magnitude, IsNumberChar c) ∧ ∃ c ∈ d.magnitude, c = '.' ∨ c = 'e' := by
  have hds := allDigits_digits d.digits
  unfold magnitude
  generalize Text.digits d.digits = ds at hds
  have hdigit : IsNumberChar '0' := .inl rfl
  have hpoint : IsNumberChar '.' := .inr (by decide)
  have hdigits : ∀ c ∈ ds, IsNumberChar c := fun c hc => .inl (hds c hc)
  have hzeros (n : Nat) : ∀ c ∈ List.replicate n '0', IsNumberChar c :=
    fun c hc => List.eq_of_mem_replicate hc ▸ hdigit
  simp only
  split_ifs
  · refine ⟨?_, '.', by simp, .inl rfl⟩
    simp only [List.forall_mem_append, List.forall_mem_cons]
    exact ⟨⟨hdigits, hzeros _⟩, hpoint, hdigit, List.forall_mem_nil _⟩
  · refine ⟨?_, '.', by simp, .inl rfl⟩
    simp only [List.forall_mem_append, List.forall_mem_cons]
    exact ⟨fun c hc => hdigits c (List.mem_of_mem_take hc), hpoint,
      fun c hc => hdigits c (List.mem_of_mem_drop hc)⟩
  · refine ⟨?_, '.', by simp, .inl rfl⟩
    simp only [List.forall_mem_append, List.forall_mem_cons]
    exact ⟨⟨hdigit, hpoint, hzeros _⟩, hdigits⟩
  · refine ⟨?_, 'e', by simp [scientific], .inr rfl⟩
    simp only [scientific, List.forall_mem_append, List.forall_mem_cons]
    refine ⟨isNumberChar_pointed hds, .inr (by decide), ?_, fun c hc => .inl (allDigits_digits _ c hc)⟩
    split_ifs <;> exact .inr (by decide)

end Decimal

namespace Number

theorem text_whole (n : Int) :
    (Number.whole n).text = (if decide (n < 0) then ['-'] else []) ++ Text.digits n.natAbs := by
  have hnat (m : Nat) : (toString m).toList = Text.digits m := by
    rw [Nat.toString_eq_ofList_toDigits, String.toList_ofList]
    rfl
  cases n with
  | ofNat m => exact hnat m
  | negSucc m =>
    change (("-" : String) ++ toString (m + 1)).toList = _
    rw [String.toList_append, hnat, if_pos (decide_eq_true (Int.negSucc_lt_zero m)), Int.natAbs_negSucc]
    exact congrArg (· ++ _) (by decide)

theorem text_chars (n : Number) : ∀ c ∈ n.text, IsNumberChar c := by
  have hsign (b : Bool) : ∀ c ∈ if b then ['-'] else [], IsNumberChar c := by
    cases b
    · exact List.forall_mem_nil _
    · exact List.forall_mem_singleton.2 (.inr (by decide))
  cases n with
  | whole n =>
    rw [text_whole]
    exact List.forall_mem_append.2 ⟨hsign _, fun c hc => .inl (Text.isDigit_of_mem_digits hc)⟩
  | double d => exact List.forall_mem_append.2 ⟨hsign _, d.magnitude_chars.1⟩

theorem text_ne_nil (n : Number) : n.text ≠ [] := by
  cases n with
  | whole n =>
    rw [text_whole]
    exact List.append_ne_nil_of_right_ne_nil _ Nat.toDigits_ne_nil
  | double d =>
    obtain ⟨c, rest, h, -⟩ := d.startsWithDigit_magnitude
    exact List.append_ne_nil_of_right_ne_nil _ (h ▸ List.cons_ne_nil c rest)

theorem text_whole_ne (n : Int) (d : Decimal) : (Number.whole n).text ≠ (Number.double d).text := by
  intro h
  obtain ⟨c, hc, hpoint⟩ := d.magnitude_chars.2
  have hmem : c ∈ (Number.whole n).text := h ▸ List.mem_append_right _ hc
  rw [text_whole, List.mem_append] at hmem
  rcases hmem with hmem | hmem
  · split at hmem
    · rcases hpoint with rfl | rfl <;> exact absurd hmem (by decide)
    · exact absurd hmem List.not_mem_nil
  · have hdigit := Text.isDigit_of_mem_digits hmem
    rcases hpoint with rfl | rfl <;> exact absurd hdigit (by decide)

theorem text_injective {m n : Number} (h : m.text = n.text) : m = n := by
  cases m with
  | whole m =>
    cases n with
    | whole n =>
      rw [text_whole, text_whole] at h
      obtain ⟨hsign, hdigits⟩ := signed_inj (startsWithDigit_digits _) (startsWithDigit_digits _) h
      have habs := congrArg (Nat.ofDigitChars 10 · 0) hdigits
      simp only [Text.digits, Nat.ofDigitChars_ten_toDigits] at habs
      have hneg : m < 0 ↔ n < 0 := by simpa using hsign
      exact congrArg Number.whole (by omega)
    | double d => exact absurd h (text_whole_ne m d)
  | double d =>
    cases n with
    | whole n => exact absurd h.symm (text_whole_ne n d)
    | double e => exact congrArg Number.double (Decimal.text_injective h)

end Number

end Rider.Json
