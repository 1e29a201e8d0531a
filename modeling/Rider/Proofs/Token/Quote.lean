import Rider.Token.Scan

set_option autoImplicit false

namespace Rider

def takesNext (s : List Char) : Bool := s.foldl (fun taken c => c == '\\' && !taken) false

/-- At `j` stands a quote that no backslash of the text takes. -/
def FreeQuote (s : List Char) (j : Nat) : Prop := s[j]? = some '\'' ∧ takesNext (s.take j) = false

def FirstFreeQuote (s : List Char) (j : Nat) : Prop := FreeQuote s j ∧ ∀ k < j, ¬ FreeQuote s k

theorem takesNext_cons {c : Char} (h : c ≠ '\\') (s : List Char) :
    takesNext (c :: s) = takesNext s := by
  have hc : (c == '\\' && !false) = false := by simp [h]
  rw [takesNext, List.foldl_cons, hc]
  rfl

theorem takesNext_pair (c : Char) (s : List Char) : takesNext ('\\' :: c :: s) = takesNext s := by
  have hc : (c == '\\' && !('\\' == '\\' && !false)) = false := Bool.and_false _
  rw [takesNext, List.foldl_cons, List.foldl_cons, hc]
  rfl

theorem takesNext_append {s : List Char} (h : '\\' ∉ s) (t : List Char) :
    takesNext (s ++ t) = takesNext t := by
  induction s with
  | nil => rfl
  | cons c s ih =>
    have hc : c ≠ '\\' := Ne.symm (List.ne_of_not_mem_cons h)
    rw [List.cons_append, takesNext_cons hc, ih (List.not_mem_of_not_mem_cons h)]

section
variable {c : Char} {s : List Char} {j : Nat}

theorem freeQuote_cons (h : c ≠ '\\') : FreeQuote (c :: s) (j + 1) ↔ FreeQuote s j := by
  rw [FreeQuote, List.getElem?_cons_succ, List.take_succ_cons, takesNext_cons h, FreeQuote]

theorem freeQuote_pair : FreeQuote ('\\' :: c :: s) (j + 2) ↔ FreeQuote s j := by
  rw [FreeQuote, List.getElem?_cons_succ, List.getElem?_cons_succ, List.take_succ_cons,
    List.take_succ_cons, takesNext_pair, FreeQuote]

theorem not_freeQuote_zero (h : c ≠ '\'') : ¬ FreeQuote (c :: s) 0 := by
  intro hfree
  exact h (Option.some.inj hfree.1)

theorem not_freeQuote_one : ¬ FreeQuote ('\\' :: c :: s) 1 := by
  intro hfree
  exact Bool.noConfusion hfree.2

theorem FirstFreeQuote.cons (hq : c ≠ '\'') (hb : c ≠ '\\') (h : FirstFreeQuote s j) :
    FirstFreeQuote (c :: s) (j + 1) := by
  refine ⟨(freeQuote_cons hb).2 h.1, ?_⟩
  intro k hk
  cases k with
  | zero => exact not_freeQuote_zero hq
  | succ k => exact mt (freeQuote_cons hb).1 (h.2 k (Nat.lt_of_succ_lt_succ hk))

theorem FirstFreeQuote.pair (h : FirstFreeQuote s j) :
    FirstFreeQuote ('\\' :: c :: s) (j + 2) := by
  refine ⟨freeQuote_pair.2 h.1, ?_⟩
  intro k hk
  obtain _ | _ | k := k
  · exact not_freeQuote_zero (by decide)
  · exact not_freeQuote_one
  · exact mt freeQuote_pair.1 (h.2 k (by omega))

theorem FirstFreeQuote.unique {k : Nat} (hj : FirstFreeQuote s j) (hk : FirstFreeQuote s k) :
    j = k := by
  have hjk : ¬ j < k := fun hlt => hk.2 j hlt hj.1
  have hkj : ¬ k < j := fun hlt => hj.2 k hlt hk.1
  omega

end

section
variable {s inside rest : List Char}

theorem ne_backslash_of_takeQuoted? {c : Char} {p : List Char × List Char}
    (hlast : ∀ d r, c = '\\' → s = d :: r → False) (h : takeQuoted? s = some p) : c ≠ '\\' := by
  intro hc
  cases s with
  | nil => contradiction
  | cons d r => exact hlast d r hc rfl

theorem takeQuoted?_inside (h : takeQuoted? s = some (inside, rest)) (after : List Char) :
    takeQuoted? (inside ++ after) = some (inside, after) := by
  fun_induction takeQuoted? s generalizing inside rest with
  | case1 => contradiction
  | case2 =>
    simp only [Option.some.injEq, Prod.mk.injEq] at h
    rw [← h.1]
    rfl
  | case3 c r ih =>
    obtain ⟨⟨i, t⟩, hp, he⟩ := Option.map_eq_some_iff.1 h
    simp only [Prod.mk.injEq] at he
    rw [← he.1, List.cons_append, List.cons_append, takeQuoted?, ih hp, Option.map_some]
  | case4 c r hq hlast ih =>
    obtain ⟨⟨i, t⟩, hp, he⟩ := Option.map_eq_some_iff.1 h
    have hc := ne_backslash_of_takeQuoted? hlast hp
    simp only [Prod.mk.injEq] at he
    rw [← he.1, List.cons_append, takeQuoted?, ih hp, Option.map_some]
    · exact hq
    · exact fun _ _ hb => absurd hb hc

theorem firstFreeQuote_of_takeQuoted? (h : takeQuoted? s = some (inside, rest)) :
    ∃ j, FirstFreeQuote s j ∧ inside.length = j + 1 := by
  fun_induction takeQuoted? s generalizing inside rest with
  | case1 => contradiction
  | case2 =>
    simp only [Option.some.injEq, Prod.mk.injEq] at h
    exact ⟨0, ⟨⟨rfl, rfl⟩, fun k hk => absurd hk (Nat.not_lt_zero k)⟩, by rw [← h.1]; rfl⟩
  | case3 c r ih =>
    obtain ⟨⟨i, t⟩, hp, he⟩ := Option.map_eq_some_iff.1 h
    obtain ⟨j, hj, hlength⟩ := ih hp
    simp only [Prod.mk.injEq] at he
    exact ⟨j + 2, hj.pair, by rw [← he.1, List.length_cons, List.length_cons, hlength]⟩
  | case4 c r hq hlast ih =>
    obtain ⟨⟨i, t⟩, hp, he⟩ := Option.map_eq_some_iff.1 h
    obtain ⟨j, hj, hlength⟩ := ih hp
    have hc := ne_backslash_of_takeQuoted? hlast hp
    simp only [Prod.mk.injEq] at he
    exact ⟨j + 1, hj.cons hq hc, by rw [← he.1, List.length_cons, hlength]⟩

theorem not_freeQuote_of_takeQuoted? (h : takeQuoted? s = none) (j : Nat) : ¬ FreeQuote s j := by
  fun_induction takeQuoted? s generalizing j with
  | case1 => simp [FreeQuote]
  | case2 => contradiction
  | case3 c r ih =>
    have hrest := ih (Option.map_eq_none_iff.1 h)
    obtain _ | _ | j := j
    · exact not_freeQuote_zero (by decide)
    · exact not_freeQuote_one
    · exact mt freeQuote_pair.1 (hrest j)
  | case4 c r hq hlast ih =>
    have hrest := ih (Option.map_eq_none_iff.1 h)
    cases j with
    | zero => exact not_freeQuote_zero hq
    | succ j =>
      by_cases hc : c = '\\'
      · cases r with
        | nil => simp [FreeQuote]
        | cons d r => exact absurd rfl (hlast d r hc)
      · exact mt (freeQuote_cons hc).1 (hrest j)

theorem takeQuoted?_eq_none_iff : takeQuoted? s = none ↔ ∀ j, ¬ FreeQuote s j := by
  constructor
  · exact not_freeQuote_of_takeQuoted?
  · intro hnone
    cases h : takeQuoted? s with
    | none => rfl
    | some p =>
      obtain ⟨j, hj, _⟩ := firstFreeQuote_of_takeQuoted? h
      exact absurd hj.1 (hnone j)

end

end Rider
