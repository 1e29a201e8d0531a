set_option autoImplicit false

namespace Rider.Text

def onFirstLine (c : Char) : List (List Char) → List (List Char)
  | [] => [[c]]
  | l :: ls => (c :: l) :: ls

/-- The lines of a text. A line feed ends a line, together with the one carriage return right before
it; any other carriage return belongs to its line. Nothing after the last line feed is no line. -/
def lines : List Char → List (List Char)
  | [] => []
  | '\n' :: rest => [] :: lines rest
  | '\r' :: '\n' :: rest => [] :: lines rest
  | c :: rest => onFirstLine c (lines rest)

/-- The pieces between the occurrences of `sep`, empty ones included. -/
def pieces (sep : Char) : List Char → List (List Char)
  | [] => [[]]
  | c :: rest => if c = sep then [] :: pieces sep rest else onFirstLine c (pieces sep rest)

def cutAt? (sep : Char) : List Char → Option (List Char × List Char)
  | [] => none
  | c :: rest =>
    if c = sep then some ([], rest) else (cutAt? sep rest).map fun p => (c :: p.1, p.2)

/-- What stands after the first occurrence of `marker`. -/
def after? (marker : List Char) : List Char → Option (List Char)
  | [] => if marker.isEmpty then some [] else none
  | c :: rest =>
    if marker.isPrefixOf (c :: rest) then some ((c :: rest).drop marker.length) else after? marker rest

def occurs (part s : List Char) : Bool := (after? part s).isSome

theorem onFirstLine_ne_nil (c : Char) (ls : List (List Char)) : onFirstLine c ls ≠ [] := by
  cases ls <;> simp [onFirstLine]

theorem pieces_ne_nil (sep : Char) (s : List Char) : pieces sep s ≠ [] := by
  cases s with
  | nil => simp [pieces]
  | cons c r => simp only [pieces]; split <;> simp [onFirstLine_ne_nil]

theorem head?_pieces_eq_nil_iff {sep : Char} {s : List Char} :
    (pieces sep s).head? = some [] ↔ s = [] ∨ s.head? = some sep := by
  cases s with
  | nil => simp [pieces]
  | cons c r =>
    by_cases hc : c = sep
    · simp [pieces, hc]
    · cases h : pieces sep r with
      | nil => exact absurd h (pieces_ne_nil sep r)
      | cons l ls => simp [pieces, hc, h, onFirstLine]

theorem tail_onFirstLine_pieces (c sep : Char) (s : List Char) :
    (onFirstLine c (pieces sep s)).tail = (pieces sep s).tail := by
  cases h : pieces sep s with
  | nil => exact absurd h (pieces_ne_nil sep s)
  | cons l ls => rfl

theorem nil_mem_iff_head?_or_tail {ls : List (List Char)} :
    [] ∈ ls ↔ ls.head? = some [] ∨ [] ∈ ls.tail := by
  cases ls with
  | nil => simp
  | cons l ls => simp [eq_comm]

theorem occurs_pair_cons {sep c : Char} {s : List Char} :
    occurs [sep, sep] (c :: s) = true ↔
      c = sep ∧ s.head? = some sep ∨ occurs [sep, sep] s = true := by
  unfold occurs
  rw [after?]
  cases s with
  | nil => simp [after?]
  | cons d s =>
    by_cases h : sep = c ∧ sep = d
    · simp [h.1.symm, h.2.symm, List.isPrefixOf]
    · have hne : ¬(c = sep ∧ d = sep) := fun e => h ⟨e.1.symm, e.2.symm⟩
      simp [List.isPrefixOf, h, hne]

theorem nil_mem_tail_pieces_iff {sep : Char} {s : List Char} :
    [] ∈ (pieces sep s).tail ↔ s.getLast? = some sep ∨ occurs [sep, sep] s = true := by
  induction s with
  | nil => simp [pieces, occurs, after?]
  | cons c s ih =>
    rw [occurs_pair_cons, pieces]
    by_cases hc : c = sep
    · rw [if_pos hc, List.tail_cons, nil_mem_iff_head?_or_tail, head?_pieces_eq_nil_iff, ih]
      cases s with
      | nil => simp [hc]
      | cons d s => simp [hc, or_left_comm]
    · rw [if_neg hc, tail_onFirstLine_pieces, ih]
      cases s with
      | nil => simp [hc]
      | cons d s => simp [hc]

theorem nil_mem_pieces_iff {sep : Char} {s : List Char} :
    [] ∈ pieces sep s ↔ s = [] ∨ s.head? = some sep ∨ s.getLast? = some sep ∨
      occurs [sep, sep] s = true := by
  rw [nil_mem_iff_head?_or_tail, head?_pieces_eq_nil_iff, nil_mem_tail_pieces_iff, or_assoc]

theorem mem_of_mem_pieces {sep c : Char} {s p : List Char} (hp : p ∈ pieces sep s) (hc : c ∈ p) :
    c ∈ s ∧ c ≠ sep := by
  induction s generalizing p with
  | nil => simp only [pieces, List.mem_singleton] at hp; subst hp; simp at hc
  | cons a r ih =>
    simp only [pieces] at hp
    split at hp
    · rcases List.mem_cons.1 hp with rfl | hp
      · simp at hc
      · exact ⟨List.mem_cons_of_mem _ (ih hp hc).1, (ih hp hc).2⟩
    · rename_i ha
      cases hs : pieces sep r with
      | nil => exact absurd hs (pieces_ne_nil sep r)
      | cons l ls =>
        rw [hs] at hp ih
        rcases List.mem_cons.1 hp with rfl | hp
        · rcases List.mem_cons.1 hc with rfl | hc
          · exact ⟨List.mem_cons_self, ha⟩
          · have := ih List.mem_cons_self hc
            exact ⟨List.mem_cons_of_mem _ this.1, this.2⟩
        · have := ih (List.mem_cons_of_mem _ hp) hc
          exact ⟨List.mem_cons_of_mem _ this.1, this.2⟩

end Rider.Text
