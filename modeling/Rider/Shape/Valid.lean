import Rider.Shape
import Rider.Text.Lines
set_option autoImplicit false

/-!
Which shapes may be registered: phrases of words and parameters of one word over the lower-case
letters, digits, underscore and hyphen, and no parameter twice.
-/

namespace Rider

def isWordChar (c : Char) : Bool :=
  ('a' ≤ c && c ≤ 'z') || ('0' ≤ c && c ≤ '9') || c == '_' || c == '-'

def IsWord (w : String) : Prop := w.toList ≠ [] ∧ ∀ c ∈ w.toList, isWordChar c = true

instance (w : String) : Decidable (IsWord w) :=
  decidable_of_iff (w.toList ≠ [] ∧ w.toList.all isWordChar = true)
    (and_congr_right fun _ => List.all_eq_true)

structure Shape.Valid (s : Shape) : Prop where
  phrase_ne_nil : s.phrase ≠ []
  phrase_words : ∀ w ∈ s.phrase, IsWord w
  params_words : ∀ p ∈ s.params, IsWord p

instance (s : Shape) : Decidable s.Valid :=
  decidable_of_iff
    (s.phrase ≠ [] ∧ (∀ w ∈ s.phrase, IsWord w) ∧ ∀ p ∈ s.params.words, IsWord p)
    ⟨fun h => ⟨h.1, h.2.1, h.2.2⟩, fun h => ⟨h.phrase_ne_nil, h.phrase_words, h.params_words⟩⟩

inductive WordFault
  | empty
  | edgeSpace
  | doubleSpace
  | badChar (c : Char)
  | severalWords
  | repeated
deriving DecidableEq, Repr

def WordFault.message : WordFault → String
  | .empty => "must not be empty"
  | .edgeSpace => "must not start or end with a space"
  | .doubleSpace => "words must be separated by a single space"
  | .badChar c =>
    "invalid character '" ++ String.singleton c ++ "' (only a-z, 0-9, '_' and '-' are allowed)"
  | .severalWords => "must be a single word"
  | .repeated => "listed more than once"

inductive RegistryError
  | duplicate (shape : Shape) (plugin existing : String)
  | invalidPhrase (phrase : String) (fault : WordFault)
  | invalidParam (param : String) (fault : WordFault)
deriving DecidableEq

def RegistryError.message : RegistryError → String
  | .duplicate s plugin existing =>
    "duplicate statement in plugin '" ++ plugin ++ "': " ++ s.display ++ " (already registered by '"
      ++ existing ++ "')"
  | .invalidPhrase phrase fault => "invalid phrase '" ++ phrase ++ "': " ++ fault.message
  | .invalidParam param fault => "invalid parameter name '" ++ param ++ "': " ++ fault.message

/-- The first fault of a text that should be words with single spaces between them, in this order: no text,
a space at an end, two spaces in a row, a character that no word has. -/
def checkWords (s : List Char) : Except WordFault Unit :=
  if s = [] then .error .empty
  else if s.head? = some ' ' ∨ s.getLast? = some ' ' then .error .edgeSpace
  else if Text.occurs [' ', ' '] s then .error .doubleSpace
  else match s.find? fun c => !isWordChar c && c != ' ' with
    | some c => .error (.badChar c)
    | none => .ok ()

theorem isWord_of_checkWords {s w : List Char} (h : checkWords s = .ok ())
    (hw : w ∈ Text.pieces ' ' s) : IsWord (String.ofList w) := by
  unfold checkWords at h
  repeat' split at h
  all_goals try contradiction
  rename_i hne hedge hdouble _ hfind
  simp only [IsWord, String.toList_ofList]
  constructor
  · rintro rfl
    rcases Text.nil_mem_pieces_iff.1 hw with hs | hs | hs | hs
    · exact hne hs
    · exact hedge (.inl hs)
    · exact hedge (.inr hs)
    · exact hdouble hs
  · intro c hc
    have hm := Text.mem_of_mem_pieces hw hc
    have := List.find?_eq_none.1 hfind c hm.1
    simp only [Bool.and_eq_true, Bool.not_eq_true', bne_iff_ne, ne_eq, not_and,
      Classical.not_not] at this
    cases hb : isWordChar c with
    | true => rfl
    | false => exact absurd (this hb) hm.2

def checkParam (p : String) : Except WordFault Unit :=
  match checkWords p.toList with
  | .error e => .error e
  | .ok () => if ' ' ∈ p.toList then .error .severalWords else .ok ()

theorem pieces_of_not_mem {sep : Char} {s : List Char} (h : sep ∉ s) : Text.pieces sep s = [s] := by
  induction s with
  | nil => rfl
  | cons c r ih =>
    have hc : c ≠ sep := fun e => h (e ▸ List.mem_cons_self)
    simp [Text.pieces, hc, ih fun m => h (List.mem_cons_of_mem _ m), Text.onFirstLine]

theorem isWord_of_checkParam {p : String} (h : checkParam p = .ok ()) : IsWord p := by
  unfold checkParam at h
  split at h
  · contradiction
  · rename_i hwords
    split at h
    · contradiction
    · rename_i hspace
      have hpiece : p.toList ∈ Text.pieces ' ' p.toList := by simp [pieces_of_not_mem hspace]
      simpa using isWord_of_checkWords hwords hpiece

def badParam? : List String → Option (String × WordFault)
  | [] => none
  | p :: ps => match checkParam p with
    | .error e => some (p, e)
    | .ok () => badParam? ps

theorem isWord_of_badParam?_eq_none {ps : List String} (h : badParam? ps = none) :
    ∀ p ∈ ps, IsWord p := by
  induction ps with
  | nil => simp
  | cons q qs ih =>
    simp only [badParam?] at h
    split at h
    · contradiction
    · rename_i hq
      intro p hp
      rcases List.mem_cons.1 hp with rfl | hp
      · exact isWord_of_checkParam hq
      · exact ih h p hp

def collectParams (seen : WordSet) : List String → Except String WordSet
  | [] => .ok seen
  | p :: ps => if p ∈ seen then .error p else collectParams (seen.insert p) ps

theorem mem_of_collectParams {ps : List String} {seen s : WordSet}
    (h : collectParams seen ps = .ok s) (x : String) : x ∈ s ↔ x ∈ seen ∨ x ∈ ps := by
  induction ps generalizing seen with
  | nil =>
    simp only [collectParams, Except.ok.injEq] at h
    simp [h]
  | cons p ps ih =>
    simp only [collectParams] at h
    split at h
    · contradiction
    · rw [ih h, WordSet.mem_insert, List.mem_cons]
      constructor
      · rintro ((h | h) | h) <;> simp [h]
      · rintro (h | h | h) <;> simp [h]

/-- The shape of a clause, a list of parameters and a phrase. Of several faults the phrase comes
first, then the first parameter that is no word, then the first one listed again. -/
def Shape.make (clause : Clause) (params : List String) (phrase : String) :
    Except RegistryError { s : Shape // s.Valid } :=
  match hp : checkWords phrase.toList with
  | .error e => .error (.invalidPhrase phrase e)
  | .ok () => match hb : badParam? params with
    | some (p, e) => .error (.invalidParam p e)
    | none => match hc : collectParams .empty params with
      | .error p => .error (.invalidParam p .repeated)
      | .ok set => .ok ⟨⟨clause, set, (Text.pieces ' ' phrase.toList).map String.ofList⟩, by
          refine ⟨by simp [Text.pieces_ne_nil], ?_, ?_⟩
          · intro w hw
            obtain ⟨u, hu, rfl⟩ := List.mem_map.1 hw
            exact isWord_of_checkWords hp hu
          · intro p hm
            have := (mem_of_collectParams hc p).1 hm
            rcases this with h | h
            · exact absurd h (WordSet.not_mem_empty p)
            · exact isWord_of_badParam?_eq_none hb p h⟩

end Rider
