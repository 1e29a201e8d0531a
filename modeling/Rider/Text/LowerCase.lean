import Rider.Text.CaseTable
set_option autoImplicit false

namespace Rider.Text

def lowerByTable (c : Char) : Char :=
  match lowerRows.find? fun r => r.1 ≤ c.toNat && c.toNat ≤ r.2.1 && (c.toNat - r.1) % r.2.2.1 == 0 with
  | some r => Char.ofNat (r.2.2.2 + (c.toNat - r.1))
  | none => c

def lowerChar (c : Char) : List Char :=
  if c.toNat < 0x80 then [c.toLower]
  else if c = '\u0130' then ['i', '\u0307']
  else [lowerByTable c]

def meetsCased (s : List Char) : Bool :=
  match s.dropWhile caseIgnorableRanges.has with
  | c :: _ => casedRanges.has c
  | [] => false

/-- Whether a word ends between `before`, read backwards, and `after`. -/
def wordEnds (before after : List Char) : Bool := meetsCased before && !meetsCased after

/-- Lower-cases a text that follows `before`, which is read backwards. -/
def lowerAfter (before : List Char) : List Char → List Char
  | [] => []
  | c :: rest =>
    (if c = 'Σ' then [if wordEnds before rest then 'ς' else 'σ'] else lowerChar c)
      ++ lowerAfter (c :: before) rest

def lowerCase (s : List Char) : List Char := lowerAfter [] s

theorem lowerAfter_ascii (before s : List Char) (h : ∀ c ∈ s, c.toNat < 0x80) :
    lowerAfter before s = s.map Char.toLower := by
  induction s generalizing before with
  | nil => rfl
  | cons c r ih =>
    have hc : c.toNat < 0x80 := h c List.mem_cons_self
    have hs : c ≠ 'Σ' := by intro e; subst e; revert hc; decide
    simp only [lowerAfter, hs, if_false, lowerChar, hc, if_true, List.map_cons]
    rw [ih _ fun d hd => h d (List.mem_cons_of_mem _ hd)]
    rfl

end Rider.Text
