import Mathlib.Data.List.Nodup
import Rider.Registry

set_option autoImplicit false

namespace Rider.Registry

variable {H : Type}

section
variable {r : Registry H} {s : Shape} {e : Entry H} {i : Nat}

theorem distinct (r : Registry H) : (r.entries.map Entry.shape).Nodup := by
  rw [List.nodup_iff_getElem?_ne_getElem?]
  intro i j hij hj hsame
  obtain ⟨s, hs⟩ : ∃ s, (r.entries.map Entry.shape)[j]? = some s := ⟨_, List.getElem?_eq_getElem hj⟩
  have hi := (r.indexed s i).2 (hsame.trans hs)
  rw [(r.indexed s j).2 hs] at hi
  exact absurd (Option.some.inj hi) (Nat.ne_of_gt hij)

theorem entry?_of_index (h : r.index.lookup s = some i) : r.entry? s = r.entries[i]? := by
  unfold entry?
  split
  · rename_i j hj
    obtain rfl := Option.some.inj (h.symm.trans hj)
    exact (List.getElem?_eq_getElem (r.lt_of_lookup h)).symm
  · rename_i hnone
    exact absurd (h.symm.trans hnone) nofun

theorem index_of_getElem? (h : r.entries[i]? = some e) : r.index.lookup e.shape = some i := by
  rw [r.indexed, List.getElem?_map, h]
  rfl

theorem entry?_of_mem (he : e ∈ r.entries) : r.entry? e.shape = some e := by
  obtain ⟨i, hi⟩ := List.mem_iff_getElem?.1 he
  rw [entry?_of_index (index_of_getElem? hi), hi]

theorem entry?_eq_some : r.entry? s = some e ↔ e ∈ r.entries ∧ e.shape = s := by
  constructor
  · intro h
    cases hindex : r.index.lookup s with
    | none =>
      unfold entry? at h
      split at h
      · rename_i i hi
        exact absurd (hindex.symm.trans hi) nofun
      · contradiction
    | some i =>
      rw [entry?_of_index hindex] at h
      have hs := (r.indexed s i).1 hindex
      rw [List.getElem?_map, h] at hs
      exact ⟨List.mem_of_getElem? h, Option.some.inj hs⟩
  · rintro ⟨he, rfl⟩
    exact entry?_of_mem he

theorem lookup_of_mem (he : e ∈ r.entries) : r.lookup e.shape = some e.handler := by
  rw [lookup, entry?_of_mem he]
  rfl

theorem index_eq_none : r.index.lookup s = none ↔ s ∉ r.shapes := by
  simp only [Option.eq_none_iff_forall_ne_some, ne_eq, r.indexed, shapes, List.mem_iff_getElem?,
    not_exists]

end

theorem lookup_zipIdx {shapes : List Shape} (h : shapes.Nodup) (s : Shape) (n i : Nat) :
    (shapes.zipIdx n).lookup s = some i ↔ n ≤ i ∧ shapes[i - n]? = some s := by
  induction shapes generalizing n with
  | nil => simp
  | cons t shapes ih =>
    obtain ⟨ht, hshapes⟩ := List.nodup_cons.1 h
    rw [List.zipIdx_cons, List.lookup_cons, List.getElem?_cons]
    by_cases hs : s = t
    · subst hs
      have hlater : ∀ k, shapes[k]? ≠ some s := fun k hk => ht (List.mem_of_getElem? hk)
      grind
    · have hne : (s == t) = false := beq_eq_false_iff_ne.2 hs
      have hold := ih hshapes (n + 1)
      grind

/-- The registry of entries whose shapes differ. -/
def ofEntries (entries : List (Entry H)) (h : (entries.map Entry.shape).Nodup) : Registry H where
  entries := entries
  index := (entries.map Entry.shape).zipIdx
  indexed s i := by simp [lookup_zipIdx h]

end Rider.Registry
