import Rider.Proofs.Reading.Unbounded
import Rider.Proofs.Registry.Index
import Rider.Registry

set_option autoImplicit false

namespace Rider

def leastScore (rs : List Reading) : Option Nat := (rs.map Reading.score).min?

def keepLeast (rs : List Reading) : List Reading :=
  rs.filter fun r => leastScore rs = some r.score

/-- The verdict on a line that is read to its end along every shape. -/
def judgeExhaustively (shapes : List Shape) (line : TokenLine) : Verdict :=
  let readings := keepLeast (shapes.map fun s => s.reading line)
  match openingPhase line with
  | .ok phase => ⟨line.number, some phase, openingSubject line, readings⟩
  | .error m => ⟨line.number, none, m :: openingSubject line, readings⟩

theorem leastScore_eq_some {rs : List Reading} {n : Nat} :
    leastScore rs = some n ↔ (∃ r ∈ rs, r.score = n) ∧ ∀ r ∈ rs, n ≤ r.score := by
  rw [leastScore, List.min?_eq_some_iff, List.forall_mem_map, List.mem_map]

theorem leastScore_eq_none {rs : List Reading} : leastScore rs = none ↔ rs = [] := by
  rw [leastScore, List.min?_eq_none_iff, List.map_eq_nil_iff]

theorem leastScore_concat {rs : List Reading} {n : Nat} (h : leastScore rs = some n)
    (r : Reading) : leastScore (rs ++ [r]) = some (min n r.score) := by
  obtain ⟨⟨q, hq, hqn⟩, hle⟩ := leastScore_eq_some.1 h
  refine leastScore_eq_some.2 ⟨?_, ?_⟩
  · by_cases hr : n ≤ r.score
    · exact ⟨q, List.mem_append_left _ hq, by omega⟩
    · exact ⟨r, List.mem_append_right _ (List.mem_singleton_self r), by omega⟩
  · intro p hp
    rcases List.mem_append.1 hp with hp | hp
    · have := hle p hp
      omega
    · rw [List.mem_singleton.1 hp]
      omega

theorem mem_keepLeast {rs : List Reading} {r : Reading} :
    r ∈ keepLeast rs ↔ r ∈ rs ∧ ∀ q ∈ rs, r.score ≤ q.score := by
  simp only [keepLeast, List.mem_filter, decide_eq_true_eq, leastScore_eq_some]
  constructor
  · rintro ⟨hr, -, hle⟩
    exact ⟨hr, hle⟩
  · rintro ⟨hr, hle⟩
    exact ⟨hr, ⟨r, hr, rfl⟩, hle⟩

theorem keepLeast_eq_nil {rs : List Reading} : keepLeast rs = [] ↔ rs = [] := by
  constructor
  · intro h
    cases hn : leastScore rs with
    | none => exact leastScore_eq_none.1 hn
    | some n =>
      obtain ⟨⟨r, hr, rfl⟩, hle⟩ := leastScore_eq_some.1 hn
      have hm : r ∈ keepLeast rs := mem_keepLeast.2 ⟨hr, hle⟩
      rw [h] at hm
      exact absurd hm List.not_mem_nil
  · rintro rfl
    rfl

namespace Leaders

def of (rs : List Reading) : Leaders := ⟨leastScore rs, keepLeast rs⟩

theorem join_of {rs : List Reading} {r : Reading} {n : Nat} (h : leastScore rs = some n)
    (hr : r.score ≤ n) : (of rs).join r = of (rs ++ [r]) := by
  have hmin := leastScore_concat h r
  have hle := (leastScore_eq_some.1 h).2
  have hsplit : keepLeast (rs ++ [r]) =
      (rs.filter fun q => min n r.score = q.score) ++ [r] := by
    have hlast : (min n r.score = r.score) = True := by simp only [eq_iff_iff, iff_true]; omega
    simp only [keepLeast, hmin, Option.some.injEq, List.filter_append, List.filter_cons,
      hlast, decide_true, if_true, List.filter_nil]
  simp only [join, of, h, hmin, hsplit]
  by_cases hlt : r.score < n
  · have hnone : (rs.filter fun q => decide (min n r.score = q.score)) = [] := by
      apply List.filter_eq_nil_iff.2
      intro q hq
      have := hle q hq
      simp only [decide_eq_true_eq]
      omega
    rw [if_pos hlt, hnone, Nat.min_eq_right (by omega), List.nil_append]
  · have heq : r.score = n := by omega
    have hmn : min n r.score = n := by omega
    rw [if_neg hlt, if_pos heq, hmn]
    simp only [keepLeast, h, Option.some.injEq]

theorem of_concat_worse {rs : List Reading} {r : Reading} {n : Nat} (h : leastScore rs = some n)
    (hr : n < r.score) : of (rs ++ [r]) = of rs := by
  have hmin := leastScore_concat h r
  rw [Nat.min_eq_left (by omega)] at hmin
  have hlast : (n = r.score) = False := by simp only [eq_iff_iff, iff_false]; omega
  simp only [of, keepLeast, h, hmin, Option.some.injEq, List.filter_append, List.filter_cons,
    hlast, decide_false, Bool.false_eq_true, if_false, List.filter_nil, List.append_nil]

/-- One more shape: its reading counts in full or is too bad to count at all. -/
theorem consider_of (line : TokenLine) (rs : List Reading) (s : Shape) :
    consider line (of rs) s = of (rs ++ [s.reading line]) := by
  rw [consider, Shape.read?_eq]
  cases h : leastScore rs with
  | none =>
    have hnil : rs = [] := leastScore_eq_none.1 h
    subst hnil
    simp [of, join, leastScore, keepLeast, passes]
  | some n =>
    have hscore : (of rs).score = some n := h
    rw [hscore]
    by_cases hr : (s.reading line).score ≤ n
    · have hp : passes (some n) (s.reading line).score = true := decide_eq_true hr
      rw [if_pos hp]
      exact join_of h hr
    · have hp : ¬ passes (some n) (s.reading line).score = true := by simpa [passes] using hr
      rw [if_neg hp]
      exact (of_concat_worse h (by omega)).symm

theorem foldl_consider (line : TokenLine) (shapes : List Shape) (rs : List Reading) :
    shapes.foldl (consider line) (of rs) = of (rs ++ shapes.map fun s => s.reading line) := by
  induction shapes generalizing rs with
  | nil => rw [List.map_nil, List.append_nil, List.foldl_nil]
  | cons s shapes ih =>
    rw [List.foldl_cons, consider_of, ih, List.map_cons, List.append_assoc, List.singleton_append]

end Leaders

theorem foldl_readings (shapes : List Shape) (line : TokenLine) :
    (shapes.foldl (Leaders.consider line) .empty).readings =
      keepLeast (shapes.map fun s => s.reading line) :=
  congrArg Leaders.readings (Leaders.foldl_consider line shapes [])

theorem judge_readings (shapes : List Shape) (line : TokenLine) :
    (judge shapes line).readings = keepLeast (shapes.map fun s => s.reading line) := by
  rw [← foldl_readings, judge]
  cases openingPhase line <;> rfl

theorem mem_judge_readings {shapes : List Shape} {line : TokenLine} {c : Reading} :
    c ∈ (judge shapes line).readings ↔
      (∃ s ∈ shapes, s.reading line = c) ∧ ∀ s ∈ shapes, c.score ≤ (s.reading line).score := by
  rw [judge_readings, mem_keepLeast, List.mem_map, List.forall_mem_map]

theorem judge_readings_eq_nil {shapes : List Shape} {line : TokenLine} :
    (judge shapes line).readings = [] ↔ shapes = [] := by
  rw [judge_readings, keepLeast_eq_nil, List.map_eq_nil_iff]

theorem keepLeast_of_clean {rs : List Reading} {r : Reading} (hr : r ∈ rs)
    (h : r.mismatches = []) : keepLeast rs = rs.filter fun q => q.mismatches.isEmpty := by
  have hzero : leastScore rs = some 0 :=
    leastScore_eq_some.2 ⟨⟨r, hr, by rw [Reading.score, h, List.length_nil]⟩, fun _ _ => Nat.zero_le _⟩
  apply List.filter_congr
  intro q _
  rw [hzero, Bool.eq_iff_iff, decide_eq_true_eq, Option.some.injEq, List.isEmpty_iff,
    Reading.score, eq_comm, List.length_eq_zero_iff]

theorem judge_readings_of_clean {shapes : List Shape} {line : TokenLine} {s : Shape}
    (hs : s ∈ shapes) (h : (s.reading line).mismatches = []) :
    (judge shapes line).readings =
      (shapes.filter fun t => (t.reading line).mismatches.isEmpty).map fun t => t.reading line := by
  rw [judge_readings, keepLeast_of_clean (List.mem_map_of_mem hs) h, List.filter_map]
  rfl

theorem judge_isMatch_iff {shapes : List Shape} {line : TokenLine} :
    (judge shapes line).isMatch = true ↔ (∃ phase, openingPhase line = .ok phase) ∧
      openingSubject line = [] ∧ ∃ s ∈ shapes, (s.reading line).mismatches = [] := by
  have hany : ((judge shapes line).readings.any fun r => r.mismatches.isEmpty) = true ↔
      ∃ s ∈ shapes, (s.reading line).mismatches = [] := by
    simp only [List.any_eq_true, List.isEmpty_iff]
    constructor
    · rintro ⟨c, hc, hclean⟩
      obtain ⟨⟨s, hs, rfl⟩, -⟩ := mem_judge_readings.1 hc
      exact ⟨s, hs, hclean⟩
    · rintro ⟨s, hs, hclean⟩
      refine ⟨s.reading line, mem_judge_readings.2 ⟨⟨s, hs, rfl⟩, ?_⟩, hclean⟩
      intro t _
      rw [Reading.score, hclean]
      exact Nat.zero_le _
  rw [← hany, Verdict.isMatch]
  simp only [judge]
  cases openingPhase line with
  | ok phase => simp
  | error m => simp

theorem judge_eq_judgeExhaustively (shapes : List Shape) (line : TokenLine) :
    judge shapes line = judgeExhaustively shapes line := by
  unfold judge judgeExhaustively
  cases openingPhase line with
  | ok phase => simp only [foldl_readings]
  | error m => simp only [foldl_readings]

/-- The verdict does not depend on the falling bound: it is the verdict of the exhaustive walks, and
each of its readings is what the walk along its shape gives without any bound. -/
theorem registry_judge_exhaustive {H : Type} (r : Registry H) (line : TokenLine) :
    judge r.shapes line = judgeExhaustively r.shapes line ∧
      (∀ s ∈ r.shapes, s.read? none line = some (s.reading line)) ∧
      (∀ c ∈ (judge r.shapes line).readings,
        c.shape ∈ r.shapes ∧ c.shape.read? none line = some c) ∧
      ((judge r.shapes line).readings = [] ↔ r.size = 0) := by
  refine ⟨judge_eq_judgeExhaustively _ _, fun s _ => s.read?_none line, ?_, ?_⟩
  · intro c hc
    obtain ⟨⟨s, hs, rfl⟩, -⟩ := mem_judge_readings.1 hc
    exact ⟨hs, s.read?_none line⟩
  · rw [judge_readings_eq_nil, Registry.shapes, Registry.size, List.map_eq_nil_iff,
      List.length_eq_zero_iff]

end Rider
