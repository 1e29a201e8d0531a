import Rider.Proofs.Lists
import Rider.Proofs.Source.Underline
import Rider.Proofs.Text.Numeral

set_option autoImplicit false

namespace Rider

namespace Source

def gutter (width : Nat) (label : List Char) : List Char :=
  Text.padStart width label ++ [' ', '|', ' ']

theorem gutter_length {width : Nat} {label : List Char} (h : label.length ≤ width) :
    (gutter width label).length = width + 3 := by
  rw [gutter, List.length_append, Text.padStart_length h]
  rfl

def lastShown (s : Source) (line context : Nat) : Nat :=
  min (Text.addCapped line context) (max s.size line)

def numberWidth (s : Source) (line context : Nat) : Nat :=
  (Text.digits (s.lastShown line context)).length

def numberedRow (s : Source) (width n : Nat) : List Char :=
  gutter width (Text.digits n) ++ (s.line? n).getD []

def rowsAbove (s : Source) (line context : Nat) : List (List Char) :=
  let first := max 1 (line - context)
  (List.range' first (line - first)).map (s.numberedRow (s.numberWidth line context))

def rowsBelow (s : Source) (line context : Nat) : List (List Char) :=
  (List.range' (line + 1) (s.lastShown line context - line)).map
    (s.numberedRow (s.numberWidth line context))

def underlineRows (width : Nat) (spans : List TextSpan) : List (List Char) :=
  if spans = [] then [] else [gutter width [] ++ underline spans]

theorem line_le_lastShown (s : Source) (line context : Nat) : line ≤ s.lastShown line context :=
  le_min (Nat.le_add_right _ _) (le_max_right _ _)

def rowsAt (s : Source) (width line : Nat) (spans : List TextSpan) (n : Nat) : List (List Char) :=
  if n = line ∧ spans ≠ [] then [s.numberedRow width n, gutter width [] ++ underline spans]
  else [s.numberedRow width n]

theorem rowsAt_self (s : Source) (width line : Nat) (spans : List TextSpan) :
    s.rowsAt width line spans line = s.numberedRow width line :: underlineRows width spans := by
  unfold rowsAt underlineRows
  by_cases h : spans = []
  · rw [if_neg (fun hne => hne.2 h), if_pos h]
  · rw [if_pos ⟨rfl, h⟩, if_neg h]

theorem flatMap_rowsAt (s : Source) (width : Nat) {line : Nat} (spans : List TextSpan)
    {ns : List Nat} (h : line ∉ ns) :
    ns.flatMap (s.rowsAt width line spans) = ns.map (s.numberedRow width) := by
  rw [List.map_eq_flatMap]
  apply List.flatMap_congr
  intro n hn
  unfold rowsAt
  rw [if_neg]
  intro hline
  exact h (hline.1 ▸ hn)

theorem excerptRows_eq (s : Source) {line : Nat} (h : 1 ≤ line) (spans : List TextSpan)
    (context : Nat) :
    s.excerptRows line spans context =
      s.rowsAbove line context ++ s.numberedRow (s.numberWidth line context) line ::
        (underlineRows (s.numberWidth line context) spans ++ s.rowsBelow line context) := by
  have hfirst : max 1 (line - context) ≤ line := by omega
  have habove : line ∉ List.range' (max 1 (line - context)) (line - max 1 (line - context)) := by
    simp only [List.mem_range'_1]
    omega
  have hbelow : line ∉ List.range' (line + 1) (s.lastShown line context - line) := by
    simp only [List.mem_range'_1]
    omega
  change (List.range' _ (s.lastShown line context + 1 - _)).flatMap
    (s.rowsAt (s.numberWidth line context) line spans) = _
  rw [range'_split hfirst (s.line_le_lastShown line context), List.flatMap_append,
    List.flatMap_cons, flatMap_rowsAt s _ spans habove, flatMap_rowsAt s _ spans hbelow, rowsAt_self]
  rfl

theorem gutter_length_of_number (s : Source) (line context : Nat) :
    (gutter (s.numberWidth line context) (Text.digits line)).length =
      (gutter (s.numberWidth line context) []).length := by
  have hwidth : (Text.digits line).length ≤ s.numberWidth line context :=
    Text.digits_length_mono (s.line_le_lastShown line context)
  rw [gutter_length hwidth, gutter_length (Nat.zero_le _)]

theorem underlineRow_caret (s : Source) (line context : Nat) {spans : List TextSpan} {p : Nat} :
    (gutter (s.numberWidth line context) [] ++
        underline spans)[(gutter (s.numberWidth line context) (Text.digits line)).length + p]? =
      some '^' ↔ ∃ span ∈ spans, span.1 ≤ p ∧ p < span.2 := by
  rw [gutter_length_of_number, List.getElem?_append_right (Nat.le_add_right _ _),
    Nat.add_sub_cancel_left, underline_caret]

theorem excerptRows_congr (s : Source) (line context : Nat) {spans others : List TextSpan}
    (h : ∀ span, span ∈ spans ↔ span ∈ others) :
    s.excerptRows line spans context = s.excerptRows line others context := by
  have hnil : spans = [] ↔ others = [] := by
    simp only [List.eq_nil_iff_forall_not_mem, h]
  have hmarks : underline spans = underline others := by
    refine underline_congr fun p => ?_
    simp only [Held, h]
  simp only [excerptRows, hmarks, ne_eq, hnil]

/-- An underline is the union of its spans. It has a caret under each character that some span holds, blanks
between the carets, and nothing behind the last of them. All that its spans write, and no more, is within its
room. In an excerpt it stands right below the line, behind a gutter as wide as that of the line. -/
theorem underline_union (spans : List TextSpan) :
    (∀ p, (underline spans)[p]? = some '^' ↔ ∃ span ∈ spans, span.1 ≤ p ∧ p < span.2) ∧
    (∀ p, (underline spans)[p]? = some ' ' ↔
      (¬ ∃ span ∈ spans, span.1 ≤ p ∧ p < span.2) ∧ ∃ q, p < q ∧ (underline spans)[q]? = some '^') ∧
    (∀ c ∈ underline spans, c = '^' ∨ c = ' ') ∧
    (underline spans ≠ [] → (underline spans).getLast? = some '^') ∧
    (underline spans = [] ↔ ∀ span ∈ spans, span.2 ≤ span.1) ∧
    (∀ span ∈ spans,
      (∀ p ∈ placesWithin (caretRoom spans) span, p < caretRoom spans) ∧
      ∀ p, p ∈ placesWithin (caretRoom spans) span ↔ span.1 ≤ p ∧ p < span.2) ∧
    ∀ (source : Source) (line context : Nat), 1 ≤ line → spans ≠ [] →
      let width := source.numberWidth line context
      (gutter width []).length = (gutter width (Text.digits line)).length ∧
      source.excerptRows line spans context =
        source.rowsAbove line context ++
          (gutter width (Text.digits line) ++ (source.line? line).getD []) ::
            (gutter width [] ++ underline spans) :: source.rowsBelow line context := by
  refine ⟨fun p => underline_caret, ?_, fun c => eq_of_mem_underline, getLast?_underline,
    underline_eq_nil, ?_, ?_⟩
  · intro p
    simp only [underline_blank, underline_caret]
    rfl
  · intro span hspan
    -- The room reaches to the end of every span, so cutting its places to the room takes none away.
    have hstop := stop_le_caretRoom hspan
    refine ⟨fun p hp => (mem_placesWithin.1 hp).2, fun p => ?_⟩
    rw [mem_placesWithin, and_iff_left_of_imp]
    intro hheld
    exact hheld.2.trans_le hstop
  · intro source line context hline hspans
    refine ⟨(source.gutter_length_of_number line context).symm, ?_⟩
    rw [source.excerptRows_eq hline, underlineRows, if_neg hspans]
    rfl

example : underline [(6, 2), (4, 6), (1, 3), (2, 3), (9, 9)] = [' ', '^', '^', ' ', '^', '^'] := by
  decide

theorem textOfRows_append (rows more : List (List Char)) :
    textOfRows (rows ++ more) = textOfRows rows ++ textOfRows more := by
  rw [textOfRows, List.flatMap_append, String.ofList_append]
  rfl

theorem textOfRows_cons (text : String) (rows : List (List Char)) :
    textOfRows (text.toList :: rows) = text ++ "\n" ++ textOfRows rows := by
  rw [textOfRows, List.flatMap_cons, String.ofList_append, String.ofList_append,
    String.ofList_toList]
  rfl

theorem textOfRows_map (texts : List String) :
    textOfRows (texts.map String.toList) = String.join (texts.map fun t => t ++ "\n") := by
  induction texts with
  | nil => rfl
  | cons text texts ih =>
    rw [List.map_cons, List.map_cons, String.join_cons, ← ih, textOfRows_cons]

end Source

end Rider
