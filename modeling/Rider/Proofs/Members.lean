import Rider.Members

set_option autoImplicit false

namespace Rider.Members

variable {α : Type}

def Ascending (m : Members α) : Prop := m.Pairwise fun a b => a.1 < b.1

theorem name_lt_of_not_lt {a b : String} (h : ¬ a < b) (hne : a ≠ b) : b < a := by
  refine Classical.byContradiction fun hba => ?_
  exact hne (String.le_antisymm (String.not_lt.1 hba) (String.not_lt.1 h))

theorem mem_put {name : String} {value : α} {m : Members α} {x : String × α}
    (h : x ∈ put name value m) : x.1 = name ∨ x ∈ m := by
  induction m with
  | nil => exact .inl (List.mem_singleton.1 h ▸ rfl)
  | cons p m ih =>
    obtain ⟨n, v⟩ := p
    simp only [put] at h
    split at h
    · rcases List.mem_cons.1 h with rfl | h
      · exact .inl rfl
      · exact .inr h
    · split at h
      · rcases List.mem_cons.1 h with rfl | h
        · exact .inl rfl
        · exact .inr (List.mem_cons_of_mem _ h)
      · rcases List.mem_cons.1 h with rfl | h
        · exact .inr List.mem_cons_self
        · exact (ih h).imp_right (List.mem_cons_of_mem _)

theorem put_ascending {name : String} {value : α} {m : Members α} (h : Ascending m) :
    Ascending (put name value m) := by
  induction m with
  | nil => exact List.pairwise_singleton _ _
  | cons p m ih =>
    obtain ⟨n, v⟩ := p
    obtain ⟨hp, hm⟩ := List.pairwise_cons.1 h
    simp only [put]
    split
    · rename_i hlt
      refine List.pairwise_cons.2 ⟨?_, h⟩
      intro x hx
      rcases List.mem_cons.1 hx with rfl | hx
      · exact hlt
      · exact String.lt_trans hlt (hp x hx)
    · rename_i hlt
      split
      · rename_i heq
        subst heq
        exact List.pairwise_cons.2 ⟨hp, hm⟩
      · rename_i hne
        refine List.pairwise_cons.2 ⟨?_, ih hm⟩
        intro x hx
        rcases mem_put hx with hx | hx
        · rw [hx]
          exact name_lt_of_not_lt hlt hne
        · exact hp x hx

theorem put_perm {name : String} {value : α} {m : Members α} (h : name ∉ m.names) :
    (put name value m).Perm ((name, value) :: m) := by
  induction m with
  | nil => exact List.Perm.refl _
  | cons p m ih =>
    obtain ⟨n, v⟩ := p
    simp only [names, List.map_cons, List.mem_cons, not_or] at h
    simp only [put]
    split
    · exact List.Perm.refl _
    · rw [if_neg h.1]
      exact ((ih h.2).cons (n, v)).trans (List.Perm.swap _ _ _)

theorem putAll_ascending {pairs : List (String × α)} {m : Members α} (h : Ascending m) :
    Ascending (putAll pairs m) := by
  induction pairs generalizing m with
  | nil => exact h
  | cons p pairs ih => exact ih (put_ascending h)

theorem putAll_perm {pairs : List (String × α)} {m : Members α}
    (h : (pairs.map Prod.fst).Nodup) (hm : ∀ p ∈ pairs, p.1 ∉ m.names) :
    (putAll pairs m).Perm (pairs ++ m) := by
  induction pairs generalizing m with
  | nil => exact List.Perm.refl _
  | cons p pairs ih =>
    obtain ⟨hp, hpairs⟩ := List.nodup_cons.1 h
    have hput : (put p.1 p.2 m).Perm (p :: m) := put_perm (hm p List.mem_cons_self)
    have hfresh : ∀ q ∈ pairs, q.1 ∉ (put p.1 p.2 m).names := by
      intro q hq hmem
      rcases List.mem_cons.1 ((hput.map Prod.fst).mem_iff.1 hmem) with heq | hin
      · exact hp (heq ▸ List.mem_map_of_mem hq)
      · exact hm q (List.mem_cons_of_mem _ hq) hin
    have hrest : (putAll pairs (put p.1 p.2 m)).Perm (pairs ++ put p.1 p.2 m) := ih hpairs hfresh
    exact hrest.trans ((hput.append_left pairs).trans List.perm_middle)

theorem Ascending.nodup {m : Members α} (h : Ascending m) : m.names.Nodup := by
  refine List.Pairwise.map Prod.fst ?_ h
  intro a b hab heq
  exact String.lt_irrefl _ (heq ▸ hab)

theorem Ascending.eq_of_perm {m n : Members α} (hm : Ascending m) (hn : Ascending n)
    (h : m.Perm n) : m = n := by
  refine h.eq_of_pairwise ?_ hm hn
  intro a b _ _ hab hba
  exact absurd hab (String.lt_asymm hba)

theorem ofList_perm {pairs : List (String × α)} {m : Members α} (hm : Ascending m)
    (h : pairs.Perm m) : ofList pairs = m := by
  have hnodup : (pairs.map Prod.fst).Nodup := (h.map Prod.fst).nodup_iff.2 hm.nodup
  have hput : (ofList pairs).Perm (pairs ++ []) := putAll_perm hnodup fun _ _ => List.not_mem_nil
  rw [List.append_nil] at hput
  exact (putAll_ascending List.Pairwise.nil).eq_of_perm hm (hput.trans h)

/-- The order in which distinct names are written leaves no trace. -/
theorem ofList_congr {pairs others : List (String × α)} (hnodup : (pairs.map Prod.fst).Nodup)
    (h : others.Perm pairs) : ofList others = ofList pairs := by
  have hput : (ofList pairs).Perm (pairs ++ []) := putAll_perm hnodup fun _ _ => List.not_mem_nil
  rw [List.append_nil] at hput
  exact ofList_perm (putAll_ascending List.Pairwise.nil) (h.trans hput.symm)

end Rider.Members
