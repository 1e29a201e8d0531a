import Mathlib.Data.List.Basic
import Rider.Proofs.Reading.Exhaustive
import Rider.Proofs.Reading.Score

set_option autoImplicit false

namespace Rider

theorem WordSet.size_without_append_le (s : WordSet) {xs : List String} (h : xs.length ≤ 1)
    (ys : List String) : (s.without ys).size ≤ (s.without (xs ++ ys)).size + 1 := by
  obtain _ | ⟨x, _ | ⟨y, xs⟩⟩ := xs
  · exact Nat.le_succ _
  · have comm : s.without ([x] ++ ys) = (s.without ys).without [x] := by
      rw [without_without]
      exact without_congr (fun w => by simp [or_comm]) s
    rw [comm]
    exact size_le_of_without_singleton _ x
  · simp at h

theorem WordSet.size_without_append_ge (s : WordSet) (xs ys : List String) :
    (s.without (xs ++ ys)).size ≤ (s.without ys).size := by
  have comm : s.without (xs ++ ys) = (s.without ys).without xs := by
    rw [without_without]
    exact without_congr (fun w => by simp [or_comm]) s
  rw [comm]
  exact size_without_le _ _

theorem Slot.offered_length_le (slot : Slot) (t : Option Token) : (slot.offered t).length ≤ 1 := by
  by_cases h : slot = .param
  · subst h
    cases t with
    | none => exact Nat.zero_le 1
    | some t =>
      simp only [offered]
      split <;> simp
  · rw [offered_of_ne h]
    exact Nat.zero_le 1

/-- At the slot of the token that is changed, either the slot alone counts or the name alone. -/
theorem Slot.cost_le (slot : Slot) (t u : Token) (waiting : WordSet) (names : List String) :
    (slot.misfit (some t)).toNat + (waiting.without (slot.offered (some t) ++ names)).size ≤
      (slot.misfit (some u)).toNat + (waiting.without (slot.offered (some u) ++ names)).size + 1 := by
  by_cases h : slot = .param
  · subst h
    have hmore := waiting.size_without_append_ge (param.offered (some t)) names
    have hless := waiting.size_without_append_le (param.offered_length_le (some u)) names
    simp only [misfit, Bool.toNat_false]
    omega
  · have hmisfit := Bool.toNat_le (slot.misfit (some t))
    rw [offered_of_ne h, offered_of_ne h]
    omega

theorem costs_le (slots : List Slot) (front : List Token) (t u : Token) (back : List Token)
    (waiting : WordSet) :
    misfits slots (front ++ t :: back) +
        (waiting.without (offers slots (front ++ t :: back))).size ≤
      misfits slots (front ++ u :: back) +
        (waiting.without (offers slots (front ++ u :: back))).size + 1 := by
  induction front generalizing slots waiting with
  | nil =>
    cases slots with
    | nil => exact Nat.le_succ _
    | cons slot slots =>
      have hslot := slot.cost_le t u waiting (offers slots back)
      simp only [List.nil_append, misfits_cons, offers_cons, List.head?_cons, List.tail_cons]
      omega
  | cons p front ih =>
    cases slots with
    | nil => exact Nat.le_succ _
    | cons slot slots =>
      -- The names before the change are struck off first, so the induction is over what waits too.
      have hrest := ih slots (waiting.without (slot.offered (some p)))
      simp only [List.cons_append, misfits_cons, offers_cons, List.head?_cons, List.tail_cons,
        ← WordSet.without_without]
      omega

theorem closing_length_le (front : List Token) (t u : Token) {back : List Token} (hback : back ≠ []) :
    (closing (front ++ t :: back)).1.length ≤ (closing (front ++ u :: back)).1.length + 1 := by
  have hlen : (front ++ t :: back).length = (front ++ u :: back).length := by
    rw [List.length_append, List.length_append, List.length_cons, List.length_cons]
  have hlast : (front ++ t :: back).getLast? = (front ++ u :: back).getLast? := by
    rw [List.getLast?_append_of_ne_nil _ (List.cons_ne_nil t back),
      List.getLast?_append_of_ne_nil _ (List.cons_ne_nil u back),
      List.getLast?_cons_of_ne_nil hback, List.getLast?_cons_of_ne_nil hback]
  rw [closing_length, closing_length, hlen, hlast]
  split
  · generalize (front ++ u :: back).length - 4 = k
    by_cases hk : k ≤ front.length
    · have hwords := costs_le outputSlots (front.drop k) t u back .empty
      have hnone (names : List String) : (WordSet.empty.without names).size = 0 :=
        Nat.le_zero.1 (WordSet.size_without_le _ _)
      rw [hnone, hnone] at hwords
      rw [List.drop_append_of_le_length hk, List.drop_append_of_le_length hk]
      omega
    · rw [drop_behind front t u back (by omega)]
      exact Nat.le_succ _
  · omega

theorem Shape.reading_score_le (s : Shape) {a b : TokenLine} {front back : List Token} {t u : Token}
    (ha : a.tokens = front ++ t :: back) (hb : b.tokens = front ++ u :: back)
    (hfront : 2 ≤ front.length) (hback : back ≠ []) :
    (s.reading a).score ≤ (s.reading b).score + 1 := by
  rw [s.reading_score a, s.reading_score b, ha, hb, List.drop_append_of_le_length hfront,
    List.drop_append_of_le_length hfront]
  generalize front.drop 2 = front
  by_cases hlen : front.length < s.width
  · have hcosts := costs_le s.slots front t u back s.params
    rw [drop_behind front t u back hlen]
    omega
  · -- The slots are filled before the token that is changed.
    have hslots : s.slots.length ≤ front.length := by
      rw [s.slots_length]
      omega
    have htake : (front ++ t :: back).take s.slots.length = (front ++ u :: back).take s.slots.length := by
      rw [List.take_append_of_le_length hslots, List.take_append_of_le_length hslots]
    have hpaired : paired s.slots (front ++ t :: back) = paired s.slots (front ++ u :: back) := by
      rw [← paired_take, htake, paired_take]
    have hclosing := closing_length_le (front.drop s.width) t u hback
    rw [misfits, misfits, offers, offers, hpaired, List.drop_append_of_le_length (by omega),
      List.drop_append_of_le_length (by omega)]
    omega

theorem judge_score_le {shapes : List Shape} {a b : TokenLine} {k : Nat}
    (h : ∀ s ∈ shapes, (s.reading a).score ≤ (s.reading b).score + k) {c d : Reading}
    (hc : c ∈ (judge shapes a).readings) (hd : d ∈ (judge shapes b).readings) :
    c.score ≤ d.score + k := by
  obtain ⟨-, hleast⟩ := mem_judge_readings.1 hc
  obtain ⟨⟨s, hs, rfl⟩, -⟩ := mem_judge_readings.1 hd
  exact Nat.le_trans (hleast s hs) (h s hs)

/-- One wrong token costs at most one mismatch. Of two lines that differ in one token, which is neither of the
first two nor the last, the readings along a shape differ by at most one in their scores, and so do the
readings that a registry keeps of the two lines. -/
theorem one_token_one_mismatch {a b : TokenLine} {front back : List Token} {t u : Token}
    (ha : a.tokens = front ++ t :: back) (hb : b.tokens = front ++ u :: back)
    (hfront : 2 ≤ front.length) (hback : back ≠ []) :
    (∀ s : Shape, ∃ c d, s.read? none a = some c ∧ s.read? none b = some d ∧
      c.score ≤ d.score + 1 ∧ d.score ≤ c.score + 1) ∧
    ∀ (H : Type) (r : Registry H), r.size ≠ 0 →
      (judge r.shapes a).readings ≠ [] ∧ (judge r.shapes b).readings ≠ [] ∧
      ∀ c ∈ (judge r.shapes a).readings, ∀ d ∈ (judge r.shapes b).readings,
        c.score ≤ d.score + 1 ∧ d.score ≤ c.score + 1 := by
  have hab (s : Shape) := s.reading_score_le ha hb hfront hback
  have hba (s : Shape) := s.reading_score_le hb ha hfront hback
  refine ⟨?_, ?_⟩
  · intro s
    exact ⟨s.reading a, s.reading b, s.read?_none a, s.read?_none b, hab s, hba s⟩
  · intro H r hsize
    have hshapes : r.shapes ≠ [] := fun h =>
      hsize (List.length_eq_zero_iff.2 (List.map_eq_nil_iff.1 h))
    refine ⟨mt judge_readings_eq_nil.1 hshapes, mt judge_readings_eq_nil.1 hshapes, ?_⟩
    intro c hc d hd
    exact ⟨judge_score_le (fun s _ => hab s) hc hd, judge_score_le (fun s _ => hba s) hd hc⟩

section Named

-- The token that is changed is a name. The slot that is blamed for it is the other name slot.

def namedShape : Shape := ⟨.absent, ⟨["a", "b"], by decide⟩, ["tick"]⟩

def namedRegistry : Registry Unit := .ofEntries [⟨"names", namedShape, by decide, ()⟩] (by decide)

def namedFront : List Token :=
  [.ofRaw ['G', 'i', 'v', 'e', 'n'] 1 0, .ofRaw ['I'] 1 6, .ofRaw ['s', 'e', 'n', 'd'] 1 8]

def namedBack : List Token :=
  [.ofRaw ['\'', 'x', '\''] 1 15, .ofRaw ['a', 'n', 'd'] 1 19, .ofRaw ['s', 'e', 'n', 'd'] 1 23,
    .ofRaw ['b'] 1 28, .ofRaw ['\'', 'y', '\''] 1 30, .ofRaw ['a', 'n', 'd'] 1 34,
    .ofRaw ['t', 'i', 'c', 'k'] 1 38]

def namedLine (name : Char) : TokenLine := ⟨namedFront ++ .ofRaw [name] 1 13 :: namedBack, 1⟩

theorem one_token_one_mismatch_named :
    (namedShape.reading (namedLine 'b')).mismatches = [.wrong (.ofRaw ['b'] 1 28) ["a"]] ∧
      (namedShape.reading (namedLine 'a')).mismatches = [] ∧
      2 ≤ namedFront.length ∧ namedBack ≠ [] ∧
      ∀ c ∈ (judge namedRegistry.shapes (namedLine 'b')).readings,
        ∀ d ∈ (judge namedRegistry.shapes (namedLine 'a')).readings,
          c.score ≤ d.score + 1 ∧ d.score ≤ c.score + 1 := by
  obtain ⟨-, hkept⟩ := one_token_one_mismatch (a := namedLine 'b') (b := namedLine 'a') rfl rfl
    (by decide) (by decide)
  refine ⟨by decide, by decide, by decide, by decide, ?_⟩
  exact (hkept Unit namedRegistry (by decide)).2.2

end Named

end Rider
