import Rider.Proofs.Text.Trim
import Rider.Source

set_option autoImplicit false

namespace Rider

def Held (spans : List TextSpan) (p : Nat) : Prop := ∃ span ∈ spans, span.1 ≤ p ∧ p < span.2

instance (spans : List TextSpan) (p : Nat) : Decidable (Held spans p) :=
  inferInstanceAs (Decidable (∃ span ∈ spans, span.1 ≤ p ∧ p < span.2))

theorem held_cons {span : TextSpan} {spans : List TextSpan} {p : Nat} :
    Held (span :: spans) p ↔ (span.1 ≤ p ∧ p < span.2) ∨ Held spans p :=
  List.exists_mem_cons_iff _ _ _

theorem le_foldl_max (spans : List TextSpan) (width : Nat) :
    width ≤ spans.foldl (fun n s => max n s.2) width ∧
      ∀ span ∈ spans, span.2 ≤ spans.foldl (fun n s => max n s.2) width := by
  induction spans generalizing width with
  | nil => exact ⟨Nat.le_refl _, List.forall_mem_nil _⟩
  | cons first spans ih =>
    obtain ⟨hwidth, hspans⟩ := ih (max width first.2)
    have hmax := Nat.max_le.1 hwidth
    exact ⟨hmax.1, List.forall_mem_cons.2 ⟨hmax.2, hspans⟩⟩

theorem stop_le_caretRoom {spans : List TextSpan} {span : TextSpan} (h : span ∈ spans) :
    span.2 ≤ caretRoom spans :=
  (le_foldl_max spans 0).2 span h

theorem Held.lt_caretRoom {spans : List TextSpan} {p : Nat} (h : Held spans p) :
    p < caretRoom spans := by
  obtain ⟨span, hspan, -, hstop⟩ := h
  exact hstop.trans_le (stop_le_caretRoom hspan)

theorem mem_placesWithin {room p : Nat} {span : TextSpan} :
    p ∈ placesWithin room span ↔ (span.1 ≤ p ∧ p < span.2) ∧ p < room := by
  rw [placesWithin, List.mem_range'_1]
  omega

section
variable {room p : Nat}

theorem getElem_writes (places : List Nat) (marks : Vector Char room) (hp : p < room) :
    (places.foldl (fun marks p => marks.setIfInBounds p '^') marks)[p] =
      if p ∈ places then '^' else marks[p] := by
  induction places generalizing marks with
  | nil => rfl
  | cons q places ih =>
    rw [List.foldl_cons, ih, Vector.getElem_setIfInBounds hp]
    by_cases hq : q = p
    · subst hq
      simp
    · simp [hq, Ne.symm hq]

theorem getElem_markSpan (marks : Vector Char room) (span : TextSpan) (hp : p < room) :
    (markSpan marks span)[p] = if span.1 ≤ p ∧ p < span.2 then '^' else marks[p] := by
  rw [markSpan, getElem_writes _ _ hp]
  simp only [mem_placesWithin, hp, and_true]

theorem getElem_markSpans (spans : List TextSpan) (marks : Vector Char room) (hp : p < room) :
    (spans.foldl markSpan marks)[p] = if Held spans p then '^' else marks[p] := by
  induction spans generalizing marks with
  | nil => simp [Held]
  | cons span spans ih =>
    rw [List.foldl_cons, ih, getElem_markSpan marks span hp]
    by_cases hspan : span.1 ≤ p ∧ p < span.2 <;> by_cases hheld : Held spans p <;>
      simp [held_cons, hspan, hheld]

end

section
variable {spans : List TextSpan} {p : Nat}

theorem getElem?_marks :
    (spans.foldl markSpan (Vector.replicate (caretRoom spans) ' ')).toList[p]? =
      if p < caretRoom spans then some (if Held spans p then '^' else ' ') else none := by
  rw [Vector.getElem?_toList]
  by_cases hp : p < caretRoom spans
  · rw [if_pos hp, Vector.getElem?_eq_getElem hp, getElem_markSpans spans _ hp,
      Vector.getElem_replicate]
  · rw [if_neg hp, Vector.getElem?_eq_none (Nat.le_of_not_lt hp)]

/-- The carets are under the characters that some span holds. -/
theorem underline_caret :
    (underline spans)[p]? = some '^' ↔ ∃ span ∈ spans, span.1 ≤ p ∧ p < span.2 := by
  change _ ↔ Held spans p
  rw [underline, Text.getElem?_trimEnd (by decide), getElem?_marks]
  constructor
  · intro h
    by_contra hheld
    simp [hheld] at h
  · intro h
    simp [h, h.lt_caretRoom]

theorem eq_of_mem_underline {c : Char} (h : c ∈ underline spans) : c = '^' ∨ c = ' ' := by
  obtain ⟨p, hp⟩ := List.mem_iff_getElem?.1 ((Text.trimEnd_begins _).mem h)
  rw [getElem?_marks] at hp
  by_cases hroom : p < caretRoom spans
  · rw [if_pos hroom, Option.some.injEq] at hp
    by_cases hheld : Held spans p
    · exact .inl (hp.symm.trans (if_pos hheld))
    · exact .inr (hp.symm.trans (if_neg hheld))
  · rw [if_neg hroom] at hp
    contradiction

/-- Trimming stops at a caret. -/
theorem getLast?_underline (hne : underline spans ≠ []) : (underline spans).getLast? = some '^' := by
  rw [List.getLast?_eq_some_getLast hne, Option.some.injEq]
  refine (eq_of_mem_underline (List.getLast_mem hne)).resolve_right ?_
  intro hblank
  have hlast : ¬ Text.isBlank ((underline spans).getLast hne) = true :=
    List.rdropWhile_last_not Text.isBlank _ hne
  rw [hblank] at hlast
  exact hlast (by decide)

theorem held_last (hne : underline spans ≠ []) : Held spans ((underline spans).length - 1) :=
  underline_caret.1 (List.getLast?_eq_getElem?.symm.trans (getLast?_underline hne))

theorem underline_blank :
    (underline spans)[p]? = some ' ' ↔ ¬ Held spans p ∧ ∃ q, p < q ∧ Held spans q := by
  constructor
  · intro h
    have hfree : ¬ Held spans p := by
      intro hheld
      rw [underline_caret.2 hheld] at h
      simp at h
    obtain ⟨hp, -⟩ := List.getElem?_eq_some_iff.1 h
    have hheld : Held spans ((underline spans).length - 1) :=
      held_last (List.ne_nil_of_length_pos (Nat.zero_lt_of_lt hp))
    have hne : p ≠ (underline spans).length - 1 := fun heq => hfree (heq ▸ hheld)
    exact ⟨hfree, _, by omega, hheld⟩
  · rintro ⟨hfree, q, hq, hheld⟩
    obtain ⟨hlt, -⟩ := List.getElem?_eq_some_iff.1 (underline_caret.2 hheld)
    have hp : p < (underline spans).length := hq.trans hlt
    rw [List.getElem?_eq_getElem hp]
    rcases eq_of_mem_underline (List.getElem_mem hp) with hc | hc
    · have hcaret := List.getElem?_eq_some_iff.2 ⟨hp, hc⟩
      exact absurd (underline_caret.1 hcaret) hfree
    · rw [hc]

theorem underline_eq_nil : underline spans = [] ↔ ∀ span ∈ spans, span.2 ≤ span.1 := by
  constructor
  · intro h span hspan
    by_contra hlt
    have hheld : Held spans span.1 := ⟨span, hspan, Nat.le_refl _, Nat.lt_of_not_le hlt⟩
    have hcaret := underline_caret.2 hheld
    rw [h] at hcaret
    contradiction
  · intro h
    by_contra hne
    obtain ⟨span, hspan, hstart, hstop⟩ := held_last hne
    have hempty := h span hspan
    omega

theorem underline_agrees {others : List TextSpan} (h : ∀ p, Held spans p ↔ Held others p) {c : Char}
    (hc : (underline spans)[p]? = some c) : (underline others)[p]? = some c := by
  rcases eq_of_mem_underline (List.mem_of_getElem? hc) with rfl | rfl
  · exact underline_caret.2 ((h p).1 (underline_caret.1 hc))
  · simp only [underline_blank, h] at hc
    exact underline_blank.2 hc

theorem underline_congr {others : List TextSpan} (h : ∀ p, Held spans p ↔ Held others p) :
    underline spans = underline others := by
  refine List.ext_getElem? fun p => Option.ext fun c => ?_
  exact ⟨underline_agrees h, underline_agrees fun p => (h p).symm⟩

end

end Rider
