import Rider.Proofs.Statement.Resolution

set_option autoImplicit false

namespace Rider

theorem leastScore_keepLeast (rs : List Reading) : leastScore (keepLeast rs) = leastScore rs := by
  cases h : leastScore rs with
  | none =>
    rw [leastScore_eq_none.1 h]
    rfl
  | some n =>
    obtain ⟨⟨r, hr, hscore⟩, hle⟩ := leastScore_eq_some.1 h
    have hkept : r ∈ keepLeast rs := mem_keepLeast.2 ⟨hr, fun q hq => hscore ▸ hle q hq⟩
    apply leastScore_eq_some.2
    exact ⟨⟨r, hkept, hscore⟩, fun q hq => hle q (mem_keepLeast.1 hq).1⟩

theorem leastScore_le_of_subset {rs qs : List Reading} {n : Nat} (h : rs ⊆ qs)
    (hn : leastScore rs = some n) : ∃ m, leastScore qs = some m ∧ m ≤ n := by
  obtain ⟨⟨r, hr, hscore⟩, _⟩ := leastScore_eq_some.1 hn
  cases hm : leastScore qs with
  | none =>
    have hmem : r ∈ qs := h hr
    rw [leastScore_eq_none.1 hm] at hmem
    exact absurd hmem List.not_mem_nil
  | some m =>
    have hle : m ≤ r.score := (leastScore_eq_some.1 hm).2 r (h hr)
    exact ⟨m, rfl, hscore ▸ hle⟩

theorem leastScore_congr {rs qs : List Reading} (h : rs.Perm qs) : leastScore rs = leastScore qs := by
  apply Option.ext
  intro n
  rw [leastScore_eq_some, leastScore_eq_some]
  simp only [h.mem_iff]

theorem keepLeast_perm {rs qs : List Reading} (h : rs.Perm qs) :
    (keepLeast rs).Perm (keepLeast qs) := by
  unfold keepLeast
  rw [leastScore_congr h]
  exact h.filter _

theorem judge_eq_with (shapes more : List Shape) (line : TokenLine) :
    judge more line = { judge shapes line with readings := (judge more line).readings } := by
  unfold judge
  cases openingPhase line <;> rfl

theorem judge_leastScore_le {shapes more : List Shape} (h : shapes ⊆ more) (hne : shapes ≠ [])
    (line : TokenLine) : ∃ m n, leastScore (judge more line).readings = some m ∧
      leastScore (judge shapes line).readings = some n ∧ m ≤ n := by
  cases hn : leastScore (judge shapes line).readings with
  | none => exact absurd (judge_readings_eq_nil.1 (leastScore_eq_none.1 hn)) hne
  | some n =>
    rw [judge_readings, leastScore_keepLeast] at hn
    obtain ⟨m, hm, hle⟩ := leastScore_le_of_subset (List.map_subset _ h) hn
    refine ⟨m, n, ?_, rfl, hle⟩
    rw [judge_readings, leastScore_keepLeast, hm]

theorem judge_readings_perm {shapes more : List Shape} (h : shapes.Perm more) (line : TokenLine) :
    (judge shapes line).readings.Perm (judge more line).readings := by
  rw [judge_readings, judge_readings]
  exact keepLeast_perm (h.map _)

section
variable {H K : Type} {r : Registry H} {q : Registry K}

theorem Registry.shapes_perm (h : ∀ s, s ∈ q.shapes ↔ s ∈ r.shapes) : q.shapes.Perm r.shapes :=
  (List.perm_ext_iff_of_nodup q.distinct r.distinct).2 h

/-- No shape that is added can read a line without a mismatch that another shape reads so. -/
theorem Registry.judge_of_extends (h : r.shapes ⊆ q.shapes) {line : TokenLine}
    (hmatch : (judge r.shapes line).isMatch = true) :
    judge q.shapes line = judge r.shapes line := by
  obtain ⟨_, _, s, hs, hclean⟩ := judge_isMatch_iff.1 hmatch
  rw [judge_eq_with r.shapes q.shapes line, Registry.readings_of_clean (h hs) hclean,
    ← Registry.readings_of_clean hs hclean]

theorem Registry.statement_of_isMatch {line : TokenLine}
    (hmatch : (judge r.shapes line).isMatch = true) :
    ∃ c statement, (judge r.shapes line).readings = [c] ∧ c.resolve = .ok statement := by
  obtain ⟨_, _, s, hs, hclean⟩ := judge_isMatch_iff.1 hmatch
  have hreadings := Registry.readings_of_clean hs hclean
  have hmem : s.reading line ∈ (judge r.shapes line).readings :=
    hreadings ▸ List.mem_singleton_self _
  obtain ⟨_, statement, hresolve, _⟩ := Registry.resolve_of_clean hmem hclean
  exact ⟨_, statement, hreadings, hresolve⟩

end

/-- Adding and reordering shapes never changes what a line says. A line that matches has the same
verdict in the larger registry, with the same one reading and so the same statement; the least score of
any line does not rise; the phase and the mismatches of the opening do not depend on the registry; and
registries with the same shapes keep the same readings. -/
theorem registry_extension {H K : Type} (r : Registry H) (q : Registry K)
    (h : ∀ s ∈ r.shapes, s ∈ q.shapes) (line : TokenLine) :
    ((judge r.shapes line).isMatch = true →
      (judge q.shapes line).isMatch = true ∧ judge q.shapes line = judge r.shapes line ∧
        ∃ c statement, (judge r.shapes line).readings = [c] ∧
          (judge q.shapes line).readings = [c] ∧ c.resolve = .ok statement) ∧
    (r.size ≠ 0 → ∃ m n, leastScore (judge q.shapes line).readings = some m ∧
      leastScore (judge r.shapes line).readings = some n ∧ m ≤ n) ∧
    (judge q.shapes line).phase = (judge r.shapes line).phase ∧
    (judge q.shapes line).opening = (judge r.shapes line).opening ∧
    ((∀ s ∈ q.shapes, s ∈ r.shapes) →
      (judge q.shapes line).readings.Perm (judge r.shapes line).readings) := by
  have hverdict := judge_eq_with r.shapes q.shapes line
  refine ⟨?_, ?_, by rw [hverdict], by rw [hverdict], ?_⟩
  · intro hmatch
    have hsame := Registry.judge_of_extends h hmatch
    obtain ⟨c, statement, hreadings, hresolve⟩ := Registry.statement_of_isMatch hmatch
    exact ⟨hsame ▸ hmatch, hsame, c, statement, hreadings, hsame ▸ hreadings, hresolve⟩
  · intro hsize
    apply judge_leastScore_le h
    intro hnil
    exact hsize (List.length_eq_zero_iff.2 (List.map_eq_nil_iff.1 hnil))
  · intro hback
    exact judge_readings_perm (Registry.shapes_perm fun s => ⟨hback s, h s⟩) line

section Parcel

-- Two shapes over the same words: what one of them has as a phrase, the other has as the start of a block.

def parcelShape : Shape := ⟨.absent, ⟨["and"], by decide⟩, ["output", "into"]⟩

def sendShape : Shape := ⟨.absent, .empty, ["send", "and"]⟩

def parcelEntry : Entry Unit := ⟨"parcels", parcelShape, by decide, ()⟩

def sendEntry : Entry Unit := ⟨"sends", sendShape, by decide, ()⟩

def parcelLine : TokenLine where
  tokens := [.ofRaw ['t', 'h', 'e', 'n'] 4 0, .ofRaw ['I'] 4 5, .ofRaw ['S', 'e', 'n', 'd'] 4 7,
    .ofRaw ['A', 'N', 'D'] 4 12, .ofRaw ['\'', 'x', '\''] 4 16, .ofRaw ['a', 'n', 'd'] 4 20,
    .ofRaw ['o', 'u', 't', 'p', 'u', 't'] 4 24, .ofRaw ['i', 'n', 't', 'o'] 4 31]
  number := 4

theorem registry_extension_parcel :
    let alone : Registry Unit := .ofEntries [parcelEntry] (by decide)
    let both : Registry Unit := .ofEntries [sendEntry, parcelEntry] (by decide)
    let turned : Registry Unit := .ofEntries [parcelEntry, sendEntry] (by decide)
    ((∀ s ∈ alone.shapes, s ∈ both.shapes) ∧ (judge alone.shapes parcelLine).isMatch = true ∧
      judge both.shapes parcelLine = judge alone.shapes parcelLine) ∧
    (∀ s ∈ both.shapes, s ∈ turned.shapes) ∧ (∀ s ∈ turned.shapes, s ∈ both.shapes) ∧
      (judge turned.shapes ⟨[], 9⟩).readings.Perm (judge both.shapes ⟨[], 9⟩).readings := by
  intro alone both turned
  have added : ∀ s ∈ alone.shapes, s ∈ both.shapes := by decide
  have there : ∀ s ∈ both.shapes, s ∈ turned.shapes := by decide
  have back : ∀ s ∈ turned.shapes, s ∈ both.shapes := by decide
  have matches_alone : (judge alone.shapes parcelLine).isMatch = true := by decide +kernel
  obtain ⟨hmeaning, _⟩ := registry_extension alone both added parcelLine
  obtain ⟨_, _, _, _, hperm⟩ := registry_extension both turned there ⟨[], 9⟩
  exact ⟨⟨added, matches_alone, (hmeaning matches_alone).2.1⟩, there, back, hperm back⟩

end Parcel

end Rider
