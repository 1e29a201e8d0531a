import Rider.Proofs.Reading.Exhaustive

set_option autoImplicit false

namespace Rider

/-- The mismatch is at a token of the line or at its end. -/
def Mismatch.On (line : TokenLine) : Mismatch → Prop
  | .wrong t _ => t ∈ line.tokens
  | .missing _ number column => number = line.number ∧ column = line.nextColumn
  | .extra t => t ∈ line.tokens

theorem Slot.blame_on {line : TokenLine} {ts : List Token} (hts : ts ⊆ line.tokens)
    (waiting : WordSet) (slot : Slot) : ∀ m ∈ slot.blame line waiting ts.head?, m.On line := by
  intro m hm
  cases ts with
  | nil =>
    rw [List.mem_singleton.1 hm]
    exact ⟨rfl, rfl⟩
  | cons t ts =>
    simp only [List.head?_cons, blame] at hm
    split at hm
    · exact absurd hm List.not_mem_nil
    · rw [List.mem_singleton.1 hm]
      exact hts List.mem_cons_self

theorem Walk.run_on {line : TokenLine} (slots : List Slot) {ts : List Token} {w : Walk}
    (hts : ts ⊆ line.tokens) (hw : ∀ m ∈ w.mismatches, m.On line) :
    (∀ m ∈ (run line slots ts w).1.mismatches, m.On line) ∧
      (run line slots ts w).2 ⊆ line.tokens := by
  induction slots generalizing ts w with
  | nil => exact ⟨hw, hts⟩
  | cons slot slots ih =>
    apply ih
    · exact List.Subset.trans ts.tail_sublist.subset hts
    · rw [meet_mismatches]
      exact List.forall_mem_append.2 ⟨hw, Slot.blame_on hts _ _⟩

theorem strayWord_on {line : TokenLine} {t : Token} (ht : t ∈ line.tokens) (w : String) :
    ∀ m ∈ strayWord w t, m.On line := by
  intro m hm
  unfold strayWord at hm
  split at hm
  · exact absurd hm List.not_mem_nil
  · rw [List.mem_singleton.1 hm]
    exact ht

theorem extra_on {line : TokenLine} {ts : List Token} (hts : ts ⊆ line.tokens) :
    ∀ m ∈ ts.map Mismatch.extra, m.On line :=
  List.forall_mem_map.2 fun _ ht => hts ht

theorem closing_on {line : TokenLine} {rest : List Token} (hrest : rest ⊆ line.tokens) :
    ∀ m ∈ (closing rest).1, m.On line := by
  have hfront := extra_on (List.Subset.trans (List.take_subset (rest.length - 4) rest) hrest)
  unfold closing
  simp only
  split
  · rename_i a o i name hlast
    have hlast : [a, o, i, name] ⊆ line.tokens :=
      hlast ▸ List.Subset.trans (List.drop_subset _ rest) hrest
    split
    · have ha := strayWord_on (hlast (by simp : a ∈ _)) "and"
      have ho := strayWord_on (hlast (by simp : o ∈ _)) "output"
      have hi := strayWord_on (hlast (by simp : i ∈ _)) "into"
      simp only [List.forall_mem_append]
      exact ⟨⟨⟨hfront, ha⟩, ho⟩, hi⟩
    · exact extra_on hrest
  · exact extra_on hrest

theorem Shape.reading_on (s : Shape) (line : TokenLine) :
    ∀ m ∈ (s.reading line).mismatches, m.On line := by
  have hdrop : line.tokens.drop 2 ⊆ line.tokens := List.drop_subset _ _
  obtain ⟨hwalk, hrest⟩ := Walk.run_on s.slots (w := .start s) hdrop (List.forall_mem_nil _)
  exact List.forall_mem_append.2 ⟨hwalk, closing_on hrest⟩

theorem TokenLine.nextColumn_of_nil {line : TokenLine} (h : line.tokens = []) :
    line.nextColumn = 0 := by
  rw [nextColumn, h, List.getLast?_nil]

theorem openingPhase_on {line : TokenLine} {m : Mismatch} (h : openingPhase line = .error m) :
    m.On line := by
  unfold openingPhase at h
  simp only at h
  cases hfirst : line.tokens[0]? with
  | none =>
    rw [hfirst] at h
    obtain rfl := Except.error.inj h
    have hnil : line.tokens = [] := List.length_eq_zero_iff.1 (by simpa using hfirst)
    exact ⟨rfl, (TokenLine.nextColumn_of_nil hnil).symm⟩
  | some t =>
    simp only [hfirst] at h
    split at h
    · contradiction
    · split at h
      · contradiction
      · obtain rfl := Except.error.inj h
        exact List.mem_of_getElem? hfirst

theorem openingSubject_on (line : TokenLine) : ∀ m ∈ openingSubject line, m.On line := by
  intro m hm
  unfold openingSubject at hm
  cases hsecond : line.tokens[1]? with
  | none =>
    rw [hsecond] at hm
    rw [List.mem_singleton.1 hm]
    exact ⟨rfl, rfl⟩
  | some t =>
    simp only [hsecond] at hm
    split at hm
    · exact absurd hm List.not_mem_nil
    · rw [List.mem_singleton.1 hm]
      exact List.mem_of_getElem? hsecond

theorem judge_opening_on (shapes : List Shape) (line : TokenLine) :
    ∀ m ∈ (judge shapes line).opening, m.On line := by
  unfold judge
  cases hphase : openingPhase line with
  | ok phase => exact openingSubject_on line
  | error m => exact List.forall_mem_cons.2 ⟨openingPhase_on hphase, openingSubject_on line⟩

/-- Every mismatch of a verdict is on the line that is judged. -/
theorem judge_mismatches_on (shapes : List Shape) (line : TokenLine) :
    ∀ m ∈ (judge shapes line).mismatches, m.On line := by
  intro m hm
  rcases List.mem_append.1 hm with hopening | hreading
  · exact judge_opening_on shapes line m hopening
  · obtain ⟨c, hc, hmc⟩ := List.mem_flatMap.1 hreading
    obtain ⟨s, _, hs⟩ := (mem_judge_readings.1 hc).1
    subst hs
    exact s.reading_on line m hmc

theorem judge_line (shapes : List Shape) (line : TokenLine) :
    (judge shapes line).line = line.number := by
  unfold judge
  cases openingPhase line <;> rfl

end Rider
