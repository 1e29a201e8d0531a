import Rider.Proofs.Reading.Unambiguous

set_option autoImplicit false

namespace Rider

/-- The tokens of a line that spell a statement of the shape in the phase. -/
inductive LineSpelt (phase : Phase) (s : Shape) :
    List Token → Option Token → List (String × Token) → Option Token → Prop
  | intro {a b : Token} {ts : List Token} {target output : Option Token}
      {bindings : List (String × Token)} : a.isWord phase.word = true → b.raw = "I" →
      s.Spelt ts target bindings output → LineSpelt phase s (a :: b :: ts) target bindings output

theorem openingPhase_eq_ok {line : TokenLine} {phase : Phase} :
    openingPhase line = .ok phase ↔ ∃ t, line.tokens[0]? = some t ∧ t.isWord phase.word = true := by
  rw [openingPhase]
  cases h : line.tokens[0]? with
  | none => simp
  | some t =>
    simp only [Option.some.injEq, exists_eq_left']
    by_cases hb : t.isWord Phase.before.word = true
    · rw [if_pos hb, Except.ok.injEq]
      constructor
      · rintro rfl
        exact hb
      · intro hw
        cases phase with
        | before => rfl
        | after => exact absurd (Token.isWord_unique hb hw) (by decide)
    · rw [if_neg hb]
      by_cases ha : t.isWord Phase.after.word = true
      · rw [if_pos ha, Except.ok.injEq]
        constructor
        · rintro rfl
          exact ha
        · intro hw
          cases phase with
          | before => exact absurd hw hb
          | after => rfl
      · rw [if_neg ha]
        cases phase with
        | before => simp [hb]
        | after => simp [ha]

theorem openingSubject_eq_nil {line : TokenLine} :
    openingSubject line = [] ↔ ∃ t, line.tokens[1]? = some t ∧ t.raw = "I" := by
  rw [openingSubject]
  cases line.tokens[1]? with
  | none => simp
  | some t => simp

theorem opening_iff {line : TokenLine} {phase : Phase} :
    openingPhase line = .ok phase ∧ openingSubject line = [] ↔
      ∃ a b, line.tokens = a :: b :: line.tokens.drop 2 ∧ a.isWord phase.word = true ∧
        b.raw = "I" := by
  rw [openingPhase_eq_ok, openingSubject_eq_nil]
  rcases line.tokens with _ | ⟨a, _ | ⟨b, ts⟩⟩
  · simp
  · simp
  · simp

theorem lineSpelt_iff {line : TokenLine} {phase : Phase} {c : Reading} :
    LineSpelt phase c.shape line.tokens c.target c.bindings c.output ∧ c.mismatches = [] ↔
      (openingPhase line = .ok phase ∧ openingSubject line = []) ∧
        c.shape.reading line = c ∧ c.mismatches = [] := by
  rw [opening_iff]
  constructor
  · rintro ⟨h, hclean⟩
    generalize hts : line.tokens = ts at h
    obtain ⟨ha, hb, hs⟩ := h
    rename_i a b ts
    have hdrop : line.tokens.drop 2 = ts := by rw [hts]; rfl
    rw [← hdrop, Shape.spelt_iff, ← hclean] at hs
    exact ⟨⟨a, b, rfl, ha, hb⟩, hs, hclean⟩
  · rintro ⟨⟨a, b, hts, ha, hb⟩, hc, hclean⟩
    refine ⟨?_, hclean⟩
    have hs : c.shape.Spelt (line.tokens.drop 2) c.target c.bindings c.output := by
      rw [Shape.spelt_iff, hc, ← hclean]
    rw [hts]
    exact .intro ha hb hs

theorem judge_phase {shapes : List Shape} {line : TokenLine} {phase : Phase} :
    (judge shapes line).phase = some phase ↔ openingPhase line = .ok phase := by
  simp only [judge]
  cases openingPhase line <;> simp

theorem Registry.isMatch_reading_iff {H : Type} {r : Registry H} {line : TokenLine} {phase : Phase}
    {c : Reading} :
    (judge r.shapes line).isMatch = true ∧ (judge r.shapes line).phase = some phase ∧
        c ∈ (judge r.shapes line).readings ↔
      c.shape ∈ r.shapes ∧ c.mismatches = [] ∧
        LineSpelt phase c.shape line.tokens c.target c.bindings c.output := by
  rw [judge_phase, judge_isMatch_iff]
  constructor
  · rintro ⟨⟨-, hsubject, s, hs, hclean⟩, hphase, hc⟩
    rw [Registry.readings_of_clean hs hclean, List.mem_singleton] at hc
    subst hc
    have h := lineSpelt_iff.2 ⟨⟨hphase, hsubject⟩, rfl, hclean⟩
    exact ⟨hs, hclean, h.1⟩
  · rintro ⟨hs, hclean, h⟩
    obtain ⟨⟨hphase, hsubject⟩, hc, -⟩ := lineSpelt_iff.1 ⟨h, hclean⟩
    have hreading : (c.shape.reading line).mismatches = [] := by rw [hc, hclean]
    refine ⟨⟨⟨phase, hphase⟩, hsubject, c.shape, hs, hreading⟩, hphase, ?_⟩
    rw [Registry.readings_of_clean hs hreading, hc]
    exact List.mem_singleton_self c

theorem Registry.judge_of_lineSpelt {H : Type} {r : Registry H} {line : TokenLine} {phase : Phase}
    {s : Shape} {target output : Option Token} {bindings : List (String × Token)}
    (hs : s ∈ r.shapes) (h : LineSpelt phase s line.tokens target bindings output) :
    (judge r.shapes line).isMatch = true ∧ (judge r.shapes line).phase = some phase ∧
      (judge r.shapes line).readings = [⟨s, bindings, target, output, []⟩] := by
  obtain ⟨hmatch, hphase, hc⟩ := Registry.isMatch_reading_iff
    (c := ⟨s, bindings, target, output, []⟩).2 ⟨hs, rfl, h⟩
  obtain ⟨d, hd⟩ := Registry.readings_of_isMatch hmatch
  rw [hd, List.mem_singleton] at hc
  exact ⟨hmatch, hphase, by rw [hd, hc]⟩

/-- Matching accepts exactly the grammar. A matching line has one reading, which takes the identifiers
of the line for the target, for the parameters in the order of the line, and for the output. -/
theorem registry_isMatch_iff_lineSpelt {H : Type} (r : Registry H) (line : TokenLine) :
    ((judge r.shapes line).isMatch = true ↔ ∃ phase, ∃ s ∈ r.shapes, ∃ target bindings output,
      LineSpelt phase s line.tokens target bindings output) ∧
    ∀ phase s target bindings output, s ∈ r.shapes ∧
        LineSpelt phase s line.tokens target bindings output ↔
      (judge r.shapes line).isMatch = true ∧ (judge r.shapes line).phase = some phase ∧
        (judge r.shapes line).readings = [⟨s, bindings, target, output, []⟩] := by
  have captured : ∀ phase s target bindings output, s ∈ r.shapes ∧
        LineSpelt phase s line.tokens target bindings output ↔
      (judge r.shapes line).isMatch = true ∧ (judge r.shapes line).phase = some phase ∧
        (judge r.shapes line).readings = [⟨s, bindings, target, output, []⟩] := by
    intro phase s target bindings output
    constructor
    · rintro ⟨hs, h⟩
      exact Registry.judge_of_lineSpelt hs h
    · rintro ⟨hmatch, hphase, hreadings⟩
      obtain ⟨hs, -, h⟩ := Registry.isMatch_reading_iff.1 ⟨hmatch, hphase,
        hreadings ▸ List.mem_singleton_self _⟩
      exact ⟨hs, h⟩
  refine ⟨⟨?_, ?_⟩, captured⟩
  · intro hmatch
    obtain ⟨⟨phase, hphase⟩, -⟩ := judge_isMatch_iff.1 hmatch
    obtain ⟨c, hc⟩ := Registry.readings_of_isMatch hmatch
    obtain ⟨hs, -, h⟩ := Registry.isMatch_reading_iff.1 ⟨hmatch, judge_phase.2 hphase,
      hc ▸ List.mem_singleton_self c⟩
    exact ⟨phase, c.shape, hs, c.target, c.bindings, c.output, h⟩
  · rintro ⟨phase, s, hs, target, bindings, output, h⟩
    exact (Registry.judge_of_lineSpelt hs h).1

end Rider
