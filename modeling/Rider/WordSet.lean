set_option autoImplicit false

namespace Rider

structure WordSet where
  words : List String
  ascending : words.Pairwise (· < ·)
deriving DecidableEq

namespace WordSet

/-- Puts `w` at its place in an ascending list that may hold it already. -/
def insertWord (w : String) : List String → List String
  | [] => [w]
  | v :: vs => if w < v then w :: v :: vs else if w = v then v :: vs else v :: insertWord w vs

theorem mem_insertWord {w x : String} {vs : List String} :
    x ∈ insertWord w vs ↔ x = w ∨ x ∈ vs := by
  induction vs with
  | nil => simp [insertWord]
  | cons v vs ih =>
    simp only [insertWord]
    split
    · simp
    · split
      · rename_i h; subst h; simp
      · simp only [List.mem_cons, ih]
        constructor
        · rintro (h | h | h) <;> simp [h]
        · rintro (h | h | h) <;> simp [h]

theorem ascending_insertWord (w : String) {vs : List String} (h : vs.Pairwise (· < ·)) :
    (insertWord w vs).Pairwise (· < ·) := by
  induction vs with
  | nil => simp [insertWord]
  | cons v vs ih =>
    obtain ⟨hv, hvs⟩ := List.pairwise_cons.1 h
    simp only [insertWord]
    split
    · rename_i hw
      refine List.pairwise_cons.2 ⟨?_, h⟩
      intro x hx
      rcases List.mem_cons.1 hx with rfl | hx
      · exact hw
      · exact String.lt_trans hw (hv x hx)
    · split
      · exact h
      · rename_i hlt hne
        refine List.pairwise_cons.2 ⟨?_, ih hvs⟩
        intro x hx
        rcases mem_insertWord.1 hx with rfl | hx
        · rcases Classical.em (v < x) with hvx | hvx
          · exact hvx
          · exact absurd (String.le_antisymm (String.not_lt.1 hvx) (String.not_lt.1 hlt)) hne
        · exact hv x hx

def empty : WordSet := ⟨[], List.Pairwise.nil⟩

def insert (w : String) (s : WordSet) : WordSet :=
  ⟨insertWord w s.words, ascending_insertWord w s.ascending⟩

def erase (w : String) (s : WordSet) : WordSet := ⟨s.words.erase w, s.ascending.erase w⟩

def ofList (ws : List String) : WordSet := ws.foldl (fun s w => s.insert w) empty

def size (s : WordSet) : Nat := s.words.length

instance : Membership String WordSet := ⟨fun s w => w ∈ s.words⟩

instance (w : String) (s : WordSet) : Decidable (w ∈ s) := inferInstanceAs (Decidable (w ∈ s.words))

theorem not_mem_empty (x : String) : x ∉ empty := List.not_mem_nil

theorem nodup_words (s : WordSet) : s.words.Nodup := by
  refine s.ascending.imp ?_
  rintro a b hab rfl
  exact String.lt_irrefl a hab

theorem mem_insert {w x : String} {s : WordSet} : x ∈ s.insert w ↔ x = w ∨ x ∈ s := mem_insertWord

end WordSet

end Rider
