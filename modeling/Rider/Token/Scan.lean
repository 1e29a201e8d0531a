import Rider.Token
import Rider.Text.Blank
set_option autoImplicit false

/-!
Cutting a line into tokens. Blanks separate tokens except between quotes, where a backslash takes the
next character with it, so that an escaped quote closes nothing.
-/

namespace Rider

/-- What stands after an opening quote up to the quote that closes it, and what follows that. -/
def takeQuoted? : List Char → Option (List Char × List Char)
  | [] => none
  | '\'' :: rest => some (['\''], rest)
  | '\\' :: c :: rest => (takeQuoted? rest).map fun p => ('\\' :: c :: p.1, p.2)
  | c :: rest => (takeQuoted? rest).map fun p => (c :: p.1, p.2)

theorem takeQuoted?_append {s inside rest : List Char} (h : takeQuoted? s = some (inside, rest)) :
    inside ++ rest = s := by
  fun_induction takeQuoted? s generalizing inside rest with
  | case1 => simp at h
  | case2 r =>
    simp only [Option.some.injEq, Prod.mk.injEq] at h
    simp [← h.1, ← h.2]
  | case3 c r ih =>
    obtain ⟨⟨i, t⟩, hp, he⟩ := Option.map_eq_some_iff.1 h
    simp only [Prod.mk.injEq] at he
    simp [← he.1, ← he.2, ih hp]
  | case4 c r _ _ ih =>
    obtain ⟨⟨i, t⟩, hp, he⟩ := Option.map_eq_some_iff.1 h
    simp only [Prod.mk.injEq] at he
    simp [← he.1, ← he.2, ih hp]

theorem length_of_takeQuoted? {s inside rest : List Char} (h : takeQuoted? s = some (inside, rest)) :
    rest.length ≤ s.length := by
  rw [← takeQuoted?_append h, List.length_append]
  omega

def takeWord (s : List Char) : List Char := s.takeWhile fun c => !Text.isBlank c

def dropWord (s : List Char) : List Char := s.dropWhile fun c => !Text.isBlank c

theorem length_dropWord (s : List Char) : (dropWord s).length ≤ s.length :=
  (List.dropWhile_sublist _).length_le

/-- The tokens of the rest of a line whose first character stands at `start`. -/
def scan (line start : Nat) : List Char → Except UnclosedQuote (List Token)
  | [] => .ok []
  | c :: rest =>
    if Text.isBlank c then scan line (start + 1) rest
    else if c = '\'' then
      match h : takeQuoted? rest with
      | none => .error ⟨Token.ofRaw (c :: rest) line start⟩
      | some (inside, after) =>
        (scan line (start + 1 + inside.length) after).map (Token.ofRaw (c :: inside) line start :: ·)
    else
      (scan line (start + 1 + (takeWord rest).length) (dropWord rest)).map
        (Token.ofRaw (c :: takeWord rest) line start :: ·)
termination_by s => s.length
decreasing_by
  · exact Nat.lt_succ_self rest.length
  · exact Nat.lt_succ_of_le (length_of_takeQuoted? h)
  · exact Nat.lt_succ_of_le (length_dropWord rest)

/-- The tokens of `src` as line `line`, or the quote in it that is never closed. -/
def tokenize (src : String) (line : Nat) : Except UnclosedQuote TokenLine :=
  (scan line 0 src.toList).map fun ts => ⟨ts, line⟩

end Rider
