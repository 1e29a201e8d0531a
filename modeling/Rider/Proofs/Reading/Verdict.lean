import Rider.Proofs.Reading.Acceptance
import Rider.Proofs.Reading.Blame

set_option autoImplicit false

namespace Rider

def TokenLine.Opens (line : TokenLine) : Prop :=
  ∃ a b rest, line.tokens = a :: b :: rest ∧ (a.isWord "given" = true ∨ a.isWord "then" = true) ∧
    b.raw = "I"

def Mismatch.AboutPhase (m : Mismatch) : Prop :=
  (∃ t, m = .wrong t ["given", "then"]) ∨ ∃ number column, m = .missing ["given", "then"] number column

def Mismatch.AboutSubject (m : Mismatch) : Prop :=
  (∃ t, m = .wrong t ["I"]) ∨ ∃ number column, m = .missing ["I"] number column

theorem Mismatch.AboutPhase.not_aboutSubject {m : Mismatch} (h : m.AboutPhase) : ¬ m.AboutSubject := by
  rintro (⟨u, hu⟩ | ⟨number, column, hu⟩) <;> obtain ⟨t, rfl⟩ | ⟨n, c, rfl⟩ := h <;> simp at hu

theorem aboutPhase_of_openingPhase {line : TokenLine} {m : Mismatch}
    (h : openingPhase line = .error m) : m.AboutPhase := by
  simp only [openingPhase] at h
  cases hfirst : line.tokens[0]? with
  | none =>
    rw [hfirst] at h
    exact .inr ⟨_, _, (Except.error.inj h).symm⟩
  | some t =>
    simp only [hfirst] at h
    split at h
    · contradiction
    · split at h
      · contradiction
      · exact .inl ⟨t, (Except.error.inj h).symm⟩

theorem aboutSubject_of_openingSubject {line : TokenLine} {m : Mismatch}
    (h : m ∈ openingSubject line) : m.AboutSubject := by
  simp only [openingSubject] at h
  cases hsecond : line.tokens[1]? with
  | none =>
    rw [hsecond] at h
    exact .inr ⟨_, _, List.mem_singleton.1 h⟩
  | some t =>
    simp only [hsecond] at h
    split at h
    · exact absurd h List.not_mem_nil
    · exact .inl ⟨t, List.mem_singleton.1 h⟩

section
variable {shapes : List Shape} {line : TokenLine}

theorem judge_opening_of_ok {phase : Phase} (h : openingPhase line = .ok phase) :
    (judge shapes line).opening = openingSubject line := by
  simp only [judge, h]

theorem judge_opening_of_error {m : Mismatch} (h : openingPhase line = .error m) :
    (judge shapes line).opening = m :: openingSubject line := by
  simp only [judge, h]

theorem judge_opening_cases {m : Mismatch} (h : m ∈ (judge shapes line).opening) :
    m.AboutPhase ∨ m.AboutSubject := by
  cases hphase : openingPhase line with
  | ok phase =>
    rw [judge_opening_of_ok hphase] at h
    exact .inr (aboutSubject_of_openingSubject h)
  | error e =>
    rw [judge_opening_of_error hphase] at h
    rcases List.mem_cons.1 h with rfl | h
    · exact .inl (aboutPhase_of_openingPhase hphase)
    · exact .inr (aboutSubject_of_openingSubject h)

theorem judge_opening_eq_nil :
    (judge shapes line).opening = [] ↔
      (∃ phase, openingPhase line = .ok phase) ∧ openingSubject line = [] := by
  cases h : openingPhase line with
  | ok phase => simp [judge_opening_of_ok h]
  | error m => simp [judge_opening_of_error h]

theorem judge_phase_eq_none :
    (judge shapes line).phase = none ↔ ∃ m, openingPhase line = .error m := by
  simp only [judge]
  cases openingPhase line <;> simp

theorem opens_iff : line.Opens ↔ (∃ phase, openingPhase line = .ok phase) ∧ openingSubject line = [] := by
  constructor
  · rintro ⟨a, b, rest, htokens, hphase, hsubject⟩
    have hdrop : line.tokens = a :: b :: line.tokens.drop 2 := by rw [htokens]; rfl
    rcases hphase with hphase | hphase
    · obtain ⟨hok, hnil⟩ := (@opening_iff line .before).2 ⟨a, b, hdrop, hphase, hsubject⟩
      exact ⟨⟨_, hok⟩, hnil⟩
    · obtain ⟨hok, hnil⟩ := (@opening_iff line .after).2 ⟨a, b, hdrop, hphase, hsubject⟩
      exact ⟨⟨_, hok⟩, hnil⟩
  · rintro ⟨⟨phase, hok⟩, hnil⟩
    obtain ⟨a, b, htokens, hphase, hsubject⟩ := opening_iff.1 ⟨hok, hnil⟩
    refine ⟨a, b, _, htokens, ?_, hsubject⟩
    cases phase with
    | before => exact .inl hphase
    | after => exact .inr hphase

theorem judge_phase_eq_none_iff :
    (judge shapes line).phase = none ↔ ∃ m ∈ (judge shapes line).opening, m.AboutPhase := by
  rw [judge_phase_eq_none]
  constructor
  · rintro ⟨m, h⟩
    rw [judge_opening_of_error h]
    exact ⟨m, List.mem_cons_self, aboutPhase_of_openingPhase h⟩
  · rintro ⟨m, hm, hphase⟩
    cases h : openingPhase line with
    | error m => exact ⟨m, rfl⟩
    | ok phase =>
      rw [judge_opening_of_ok h] at hm
      exact absurd (aboutSubject_of_openingSubject hm) hphase.not_aboutSubject

theorem judge_readings_tie {c d : Reading} (hc : c ∈ (judge shapes line).readings)
    (hd : d ∈ (judge shapes line).readings) : c.score = d.score := by
  obtain ⟨⟨s, hs, rfl⟩, hleast⟩ := mem_judge_readings.1 hc
  obtain ⟨⟨t, ht, rfl⟩, hleast'⟩ := mem_judge_readings.1 hd
  exact Nat.le_antisymm (hleast t ht) (hleast' s hs)

theorem judge_mismatches_eq_nil :
    (judge shapes line).mismatches = [] ↔
      (judge shapes line).opening = [] ∧ ∀ c ∈ (judge shapes line).readings, c.mismatches = [] := by
  rw [Verdict.mismatches, List.append_eq_nil_iff, List.flatMap_eq_nil_iff]

theorem judge_clean_of_isMatch (h : (judge shapes line).isMatch = true) {c : Reading}
    (hc : c ∈ (judge shapes line).readings) : c.mismatches = [] := by
  obtain ⟨-, -, s, hs, hclean⟩ := judge_isMatch_iff.1 h
  have hscore := (mem_judge_readings.1 hc).2 s hs
  rw [Reading.score, Reading.score, hclean] at hscore
  exact List.length_eq_zero_iff.1 (Nat.le_zero.1 hscore)

theorem judge_isMatch_iff_no_mismatch :
    (judge shapes line).isMatch = true ↔
      (judge shapes line).readings ≠ [] ∧ (judge shapes line).mismatches = [] := by
  constructor
  · intro h
    obtain ⟨hphase, hsubject, s, hs, -⟩ := judge_isMatch_iff.1 h
    refine ⟨?_, judge_mismatches_eq_nil.2 ⟨judge_opening_eq_nil.2 ⟨hphase, hsubject⟩, ?_⟩⟩
    · exact mt judge_readings_eq_nil.1 (List.ne_nil_of_mem hs)
    · intro c hc
      exact judge_clean_of_isMatch h hc
  · rintro ⟨hne, hnil⟩
    obtain ⟨hopening, hclean⟩ := judge_mismatches_eq_nil.1 hnil
    obtain ⟨hphase, hsubject⟩ := judge_opening_eq_nil.1 hopening
    obtain ⟨c, hc⟩ := List.exists_mem_of_ne_nil _ hne
    obtain ⟨⟨s, hs, rfl⟩, -⟩ := mem_judge_readings.1 hc
    exact judge_isMatch_iff.2 ⟨hphase, hsubject, s, hs, hclean _ hc⟩

end

/-- The verdict and its mismatches agree. A line matches exactly if something is registered and no mismatch is
shown, and then there is a phase and the first reading is clean. A line that does not match shows a mismatch,
but where nothing is registered and the line opens well. A phase is missing exactly if the opening says that a
phase word is. What is shown is on the line of the verdict. -/
theorem verdict_shows_evidence {H : Type} (r : Registry H) (line : TokenLine) :
    let v := judge r.shapes line
    (∀ c ∈ v.readings, ∀ d ∈ v.readings, c.score = d.score) ∧
    (v.isMatch = true ↔ v.readings ≠ [] ∧ v.mismatches = []) ∧
    (v.isMatch = true → v.phase ≠ none ∧ ∃ c rest, v.readings = c :: rest ∧ c.mismatches = []) ∧
    (v.isMatch = false → (v.mismatches = [] ↔ r.size = 0 ∧ line.Opens)) ∧
    (v.phase = none ↔ ∃ m ∈ v.opening, m.AboutPhase) ∧
    ((∀ t ∈ line.tokens, t.line = line.number) → ∀ m ∈ v.mismatches, m.line = v.line) := by
  intro v
  have hempty : v.readings = [] ↔ r.size = 0 := by
    rw [judge_readings_eq_nil, Registry.shapes, Registry.size, List.map_eq_nil_iff,
      List.length_eq_zero_iff]
  refine ⟨fun c hc d hd => judge_readings_tie hc hd, judge_isMatch_iff_no_mismatch, ?_, ?_,
    judge_phase_eq_none_iff, ?_⟩
  · intro h
    obtain ⟨⟨phase, hphase⟩, -⟩ := judge_isMatch_iff.1 h
    have hsome : v.phase = some phase := judge_phase.2 hphase
    obtain ⟨c, rest, hreadings⟩ := List.exists_cons_of_ne_nil (judge_isMatch_iff_no_mismatch.1 h).1
    have hc : c ∈ v.readings := hreadings ▸ List.mem_cons_self
    exact ⟨by simp [hsome], c, rest, hreadings, judge_clean_of_isMatch h hc⟩
  · intro h
    constructor
    · intro hnil
      have hreadings : v.readings = [] := by
        by_contra hne
        have hmatch := judge_isMatch_iff_no_mismatch.2 ⟨hne, hnil⟩
        exact absurd (h.symm.trans hmatch) Bool.false_ne_true
      have hopening := judge_opening_eq_nil.1 (judge_mismatches_eq_nil.1 hnil).1
      exact ⟨hempty.1 hreadings, opens_iff.2 hopening⟩
    · rintro ⟨hsize, hopens⟩
      refine judge_mismatches_eq_nil.2 ⟨judge_opening_eq_nil.2 (opens_iff.1 hopens), ?_⟩
      rw [hempty.2 hsize]
      exact List.forall_mem_nil _
  · intro hlines m hm
    have hon := judge_mismatches_on r.shapes line m hm
    rw [judge_line]
    cases m with
    | wrong t expected => exact hlines t hon
    | missing expected number column => exact hon.1
    | extra t => exact hlines t hon

section Clock

-- Two statements that differ in their phrase, a line that spells one of them and a line as far from both.

def phraseShape (w : String) : Shape := ⟨.absent, .empty, [w]⟩

def clockRegistry : Registry Unit :=
  .ofEntries [⟨"clock", phraseShape "tick", by decide, ()⟩, ⟨"clock", phraseShape "tock", by decide, ()⟩]
    (by decide)

def clockLine (vowel : Char) : TokenLine where
  tokens := [.ofRaw ['T', 'h', 'e', 'n'] 4 0, .ofRaw ['I'] 4 5, .ofRaw ['t', vowel, 'c', 'k'] 4 7]
  number := 4

theorem verdict_shows_evidence_clock :
    ((judge clockRegistry.shapes (clockLine 'o')).isMatch = true ∧
      (judge clockRegistry.shapes (clockLine 'o')).phase ≠ none ∧
      ∃ c rest, (judge clockRegistry.shapes (clockLine 'o')).readings = c :: rest ∧
        c.mismatches = []) ∧
    ((judge clockRegistry.shapes (clockLine 'u')).isMatch = false ∧
      (judge clockRegistry.shapes (clockLine 'u')).readings =
        [(phraseShape "tick").reading (clockLine 'u'), (phraseShape "tock").reading (clockLine 'u')] ∧
      ((phraseShape "tick").reading (clockLine 'u')).score =
        ((phraseShape "tock").reading (clockLine 'u')).score ∧
      ((judge clockRegistry.shapes (clockLine 'u')).mismatches = [] ↔
        clockRegistry.size = 0 ∧ (clockLine 'u').Opens)) ∧
    (∀ t ∈ (clockLine 'u').tokens, t.line = (clockLine 'u').number) ∧
      ∀ m ∈ (judge clockRegistry.shapes (clockLine 'u')).mismatches, m.line = 4 := by
  obtain ⟨-, -, hmatch, -⟩ := verdict_shows_evidence clockRegistry (clockLine 'o')
  obtain ⟨htie, -, -, hfail, -, hline⟩ := verdict_shows_evidence clockRegistry (clockLine 'u')
  have hnumbers : ∀ t ∈ (clockLine 'u').tokens, t.line = (clockLine 'u').number := by decide
  exact ⟨⟨by decide, hmatch (by decide)⟩,
    ⟨by decide, by decide, htie _ (by decide) _ (by decide), hfail (by decide)⟩, hnumbers, hline hnumbers⟩

end Clock

end Rider
