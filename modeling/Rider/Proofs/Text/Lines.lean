import Rider.Text.Lines

set_option autoImplicit false

namespace Rider.Text

def dropReturn (s : List Char) : List Char :=
  if s.getLast? = some '\r' then s.dropLast else s

theorem dropReturn_concat (s : List Char) : dropReturn (s ++ ['\r']) = s := by
  rw [dropReturn, if_pos List.getLast?_concat, List.dropLast_concat]

theorem eq_dropReturn_or (s : List Char) : s = dropReturn s ∨ s = dropReturn s ++ ['\r'] := by
  by_cases h : s.getLast? = some '\r'
  · obtain ⟨l, rfl⟩ := List.getLast?_eq_some_iff.1 h
    rw [dropReturn_concat]
    exact .inr rfl
  · exact .inl (if_neg h).symm

theorem dropReturn_cons {c : Char} {s : List Char} (h : c ≠ '\r' ∨ s ≠ []) :
    dropReturn (c :: s) = c :: dropReturn s := by
  cases s with
  | nil =>
    have hc : c ≠ '\r' := h.resolve_right fun hs => hs rfl
    simp [dropReturn, hc]
  | cons d s =>
    unfold dropReturn
    rw [List.getLast?_cons_cons]
    split <;> rfl

theorem lines_cons {c : Char} {s : List Char} (hc : c ≠ '\n') (hreturn : c ≠ '\r' ∨ s.head? ≠ some '\n') :
    lines (c :: s) = onFirstLine c (lines s) := by
  rw [lines]
  · intro h
    exact absurd h hc
  · rintro rest rfl rfl
    simp at hreturn

theorem lines_append_lineFeed {l : List Char} (h : '\n' ∉ l) (rest : List Char) :
    lines (l ++ '\n' :: rest) = dropReturn l :: lines rest := by
  induction l with
  | nil => rfl
  | cons c l ih =>
    obtain ⟨hc, hl⟩ := not_or.1 (mt List.mem_cons.2 h)
    by_cases hreturn : c = '\r' ∧ l = []
    · obtain ⟨rfl, rfl⟩ := hreturn
      rfl
    · have hkept : c ≠ '\r' ∨ l ≠ [] := by
        by_cases hc : c = '\r'
        · exact .inr fun hl => hreturn ⟨hc, hl⟩
        · exact .inl hc
      have hhead : c ≠ '\r' ∨ (l ++ '\n' :: rest).head? ≠ some '\n' := by
        refine hkept.imp_right fun hne => ?_
        obtain ⟨d, l, rfl⟩ := List.exists_cons_of_ne_nil hne
        intro hd
        exact hl (Option.some.inj hd ▸ List.mem_cons_self)
      rw [List.cons_append, lines_cons (Ne.symm hc) hhead, ih hl, dropReturn_cons hkept]
      rfl

theorem lines_of_not_mem {l : List Char} (h : '\n' ∉ l) : lines l = if l = [] then [] else [l] := by
  induction l with
  | nil => rfl
  | cons c l ih =>
    obtain ⟨hc, hl⟩ := not_or.1 (mt List.mem_cons.2 h)
    have hhead : l.head? ≠ some '\n' := fun hd => hl (List.mem_of_head? hd)
    rw [lines_cons (Ne.symm hc) (.inr hhead), ih hl, if_neg (List.cons_ne_nil c l)]
    split
    · rename_i hnil
      rw [hnil]
      rfl
    · rfl

/-- What holds of a text without a line feed, and of a text with one more line in front, holds of all texts. -/
@[elab_as_elim]
theorem lines_induction {motive : List Char → Prop} (last : ∀ l, '\n' ∉ l → motive l)
    (line : ∀ l rest, '\n' ∉ l → motive rest → motive (l ++ '\n' :: rest)) (s : List Char) : motive s := by
  induction hn : s.length using Nat.strongRecOn generalizing s with
  | ind n ih =>
    by_cases h : '\n' ∈ s
    · obtain ⟨l, rest, rfl, hl⟩ := List.eq_append_cons_of_mem h
      refine line l rest hl (ih rest.length ?_ rest rfl)
      rw [← hn, List.length_append, List.length_cons]
      omega
    · exact last s h

/-- A stretch of a text from its start or right behind a line feed to its end or a line feed, which may have a
carriage return before it. -/
def LineOf (s line : List Char) : Prop :=
  '\n' ∉ line ∧ ∃ before after, s = before ++ line ++ after ∧
    (before = [] ∨ before.getLast? = some '\n') ∧
    (after = [] ∨ ['\n'] <+: after ∨ ['\r', '\n'] <+: after)

theorem lineOf_of_mem_lines {s line : List Char} (h : line ∈ lines s) : LineOf s line := by
  induction s using lines_induction with
  | last l hl =>
    rw [lines_of_not_mem hl] at h
    split at h
    · contradiction
    · obtain rfl := List.mem_singleton.1 h
      exact ⟨hl, [], [], by simp, .inl rfl, .inl rfl⟩
  | line l rest hl ih =>
    rw [lines_append_lineFeed hl] at h
    rcases List.mem_cons.1 h with rfl | h
    · rcases eq_dropReturn_or l with hkept | hreturn
      · exact ⟨hkept ▸ hl, [], '\n' :: rest, by rw [← hkept]; rfl, .inl rfl, .inr (.inl ⟨rest, rfl⟩)⟩
      · refine ⟨fun hmem => hl (hreturn ▸ List.mem_append_left _ hmem), [], '\r' :: '\n' :: rest, ?_,
          .inl rfl, .inr (.inr ⟨rest, rfl⟩)⟩
        conv => lhs; rw [hreturn]
        simp
    · obtain ⟨hline, before, after, rfl, hbefore, hafter⟩ := ih h
      refine ⟨hline, l ++ '\n' :: before, after, by simp, .inr ?_, hafter⟩
      rcases hbefore with rfl | hbefore
      · exact List.getLast?_concat
      · rw [List.getLast?_append, List.getLast?_cons, hbefore]
        rfl

end Rider.Text
