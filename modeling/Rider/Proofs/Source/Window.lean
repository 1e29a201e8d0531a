import Rider.Proofs.Source.Excerpt

set_option autoImplicit false

/-!
The window of an excerpt in exact arithmetic. Sums that stop at the largest count show the same lines as sums
without bound, also around a line far behind the end of the contract. Around a line of the contract a wide
window without carets is the listing.
-/

namespace Rider

theorem Text.addCapped_eq {m : Nat} (h : m ≤ maxCount) (n : Nat) :
    addCapped m n = min (m + n) maxCount := by
  unfold addCapped
  omega

namespace Source

variable (s : Source) {line : Nat}

/-- The largest count is never what ends a window. -/
theorem lastShown_eq (hline : line ≤ Text.maxCount) (hsize : s.size ≤ Text.maxCount) (context : Nat) :
    s.lastShown line context = min (line + context) (max s.size line) := by
  have hmax : max s.size line ≤ Text.maxCount := max_le hsize hline
  rw [lastShown, Text.addCapped_eq hline, min_assoc, min_eq_right hmax]

def numbersAbove (line context : Nat) : List Nat :=
  List.range' (max 1 (line - context)) (line - max 1 (line - context))

def numbersBelow (line context : Nat) : List Nat :=
  List.range' (line + 1) (s.lastShown line context - line)

theorem numbers_eq (h : 1 ≤ line) (context : Nat) :
    numbersAbove line context ++ line :: s.numbersBelow line context =
      List.range' (max 1 (line - context))
        (s.lastShown line context + 1 - max 1 (line - context)) :=
  (range'_split (by omega) (s.line_le_lastShown line context)).symm

theorem mem_numbers (h : 1 ≤ line) {context n : Nat} :
    n ∈ numbersAbove line context ++ line :: s.numbersBelow line context ↔
      max 1 ((line : ℤ) - context) ≤ n ∧ n ≤ s.lastShown line context := by
  have hlast := s.line_le_lastShown line context
  rw [s.numbers_eq h, List.mem_range'_1]
  omega

theorem excerptRows_eq_numbers (h : 1 ≤ line) (spans : List TextSpan) (context : Nat) :
    let width := s.numberWidth line context
    s.excerptRows line spans context =
      (numbersAbove line context).map (s.numberedRow width) ++ s.numberedRow width line ::
        (underlineRows width spans ++ (s.numbersBelow line context).map (s.numberedRow width)) :=
  s.excerptRows_eq h spans context

theorem listingRows_eq :
    s.listingRows =
      (List.range' 1 s.size).map (s.numberedRow (Text.digits s.size).length) := by
  refine List.ext_getElem ?_ ?_
  · simp [listingRows, size]
  · intro i hi hi'
    have hlt : i < s.lines.length := by simpa [listingRows] using hi
    simp only [listingRows, List.getElem_mapIdx, List.getElem_map, List.getElem_range', Nat.one_mul]
    rw [numberedRow, Nat.add_comm 1 i, line?, List.getElem?_eq_getElem hlt, Option.getD_some]
    rfl

theorem excerptRows_eq_listingRows (h : 1 ≤ line) (hline : line ≤ s.size) {context : Nat}
    (hcontext : s.size ≤ context) (hsize : s.size ≤ Text.maxCount) :
    s.excerptRows line [] context = s.listingRows := by
  have hlast : s.lastShown line context = s.size := by
    rw [s.lastShown_eq (hline.trans hsize) hsize]
    omega
  have hfirst : max 1 (line - context) = 1 := by omega
  have hnumbers := s.numbers_eq h context
  rw [hlast, hfirst, Nat.add_sub_cancel] at hnumbers
  rw [listingRows_eq, ← hnumbers, s.excerptRows_eq_numbers h, numberWidth, hlast, List.map_append,
    List.map_cons]
  rfl

/-- What a row shows: the number, right-aligned, and the text of the line, of which there is none if the
contract ends before it. -/
def shownRow (text : String) (width n : Nat) : List Char :=
  List.replicate (width - (Nat.toDigits 10 n).length) ' ' ++ Nat.toDigits 10 n ++ [' ', '|', ' '] ++
    (Text.lines text.toList)[n - 1]?.getD [] ++ ['\n']

theorem numberedRow_eq_shownRow (text : String) (width : Nat) {n : Nat} (h : 1 ≤ n) :
    (ofText text).numberedRow width n ++ ['\n'] = shownRow text width n := by
  obtain ⟨k, rfl⟩ : ∃ k, n = k + 1 := ⟨n - 1, by omega⟩
  rfl

theorem flatMap_underlineRows (width : Nat) (spans : List TextSpan) :
    (underlineRows width spans).flatMap (fun r => r ++ ['\n']) =
      if spans = [] then [] else List.replicate width ' ' ++ [' ', '|', ' '] ++ underline spans ++ ['\n'] := by
  unfold underlineRows
  split
  · rfl
  · rw [List.flatMap_singleton, gutter, Text.padStart, List.length_nil, Nat.sub_zero, List.append_nil]

theorem flatMap_numberedRow (text : String) (width : Nat) {ns : List Nat} (h : ∀ n ∈ ns, 1 ≤ n) :
    (ns.map ((ofText text).numberedRow width)).flatMap (fun r => r ++ ['\n']) =
      ns.flatMap (shownRow text width) := by
  rw [List.flatMap_map]
  exact List.flatMap_congr fun n hn => numberedRow_eq_shownRow text width (h n hn)

/-- An excerpt shows the lines from `line - context` to `line + context` as exact integers, but none before
line 1 and none behind both the contract and `line`. Since `line` is a count and the contract has no more lines
than that, so are all their numbers. They are right-aligned in the room of the last number, and a line that the
contract does not have is shown empty. The carets come right after `line`, behind a gutter of the same width. -/
theorem excerpt_window (text : String) (line : Nat) (spans : List TextSpan) (context : Nat)
    (hone : 1 ≤ line) (hline : line ≤ Text.maxCount) (hsize : (ofText text).size ≤ Text.maxCount) :
    let source := ofText text
    let last := min (line + context) (max source.size line)
    let width := (Nat.toDigits 10 last).length
    let row (n : Nat) : List Char :=
      List.replicate (width - (Nat.toDigits 10 n).length) ' ' ++ Nat.toDigits 10 n ++ [' ', '|', ' '] ++
        (Text.lines text.toList)[n - 1]?.getD [] ++ ['\n']
    let carets : List Char :=
      if spans = [] then [] else List.replicate width ' ' ++ [' ', '|', ' '] ++ underline spans ++ ['\n']
    (∃ above below : List Nat,
      (above ++ line :: below).Pairwise (· < ·) ∧
      (∀ n, n ∈ above ++ line :: below ↔ max 1 ((line : ℤ) - context) ≤ n ∧ n ≤ last) ∧
      (∀ n ∈ above ++ line :: below, n ≤ Text.maxCount ∧ (Nat.toDigits 10 n).length ≤ width) ∧
      (source.excerpt line spans context).toList =
        above.flatMap row ++ row line ++ carets ++ below.flatMap row) ∧
    (line ≤ source.size → source.size ≤ context → spans = [] →
      source.excerpt line spans context = source.listing) := by
  intro source last width row carets
  have hlast : source.lastShown line context = last := source.lastShown_eq hline hsize context
  have hmem (n : Nat) : n ∈ numbersAbove line context ++ line :: source.numbersBelow line context ↔
      max 1 ((line : ℤ) - context) ≤ n ∧ n ≤ last := by
    rw [source.mem_numbers hone, hlast]
  constructor
  · refine ⟨numbersAbove line context, source.numbersBelow line context, ?_, hmem, ?_, ?_⟩
    · rw [source.numbers_eq hone]
      exact List.pairwise_lt_range'
    · intro n hn
      have hcount : last ≤ Text.maxCount := (min_le_right _ _).trans (max_le hsize hline)
      exact ⟨((hmem n).1 hn).2.trans hcount, Text.digits_length_mono ((hmem n).1 hn).2⟩
    · have hpositive : ∀ n ∈ numbersAbove line context ++ line :: source.numbersBelow line context, 1 ≤ n := by
        intro n hn
        have := (hmem n).1 hn
        omega
      obtain ⟨habove, hbelow⟩ := List.forall_mem_append.1 hpositive
      obtain ⟨-, hbelow⟩ := List.forall_mem_cons.1 hbelow
      rw [excerpt, source.excerptRows_eq_numbers hone, numberWidth, hlast, textOfRows, String.toList_ofList,
        List.flatMap_append, List.flatMap_cons, List.flatMap_append, flatMap_numberedRow text _ habove,
        flatMap_numberedRow text _ hbelow, numberedRow_eq_shownRow text _ hone, flatMap_underlineRows,
        ← List.append_assoc, ← List.append_assoc]
      rfl
  · rintro hsmall hcontext rfl
    rw [excerpt, source.excerptRows_eq_listingRows hone hsmall hcontext hsize]
    rfl

theorem excerpt_window_aligned :
    let text := "a\nb\nc\nd\ne\nf\ng\nh\nnine\r\nten"
    let source := ofText text
    let largest := 18446744073709551615
    largest ≤ Text.maxCount ∧ source.size ≤ Text.maxCount ∧
    source.excerpt 9 [(1, 3)] 1 = " 8 | h\n 9 | nine\n   |  ^^\n10 | ten\n" ∧
    (∃ above below : List Nat,
      (∀ n, n ∈ above ++ 9 :: below ↔ 8 ≤ n ∧ n ≤ 10) ∧
      (source.excerpt 9 [(1, 3)] 1).toList = above.flatMap (shownRow text 2) ++ " 9 | nine\n".toList ++
        "   |  ^^\n".toList ++ below.flatMap (shownRow text 2)) ∧
    (∃ above below : List Nat,
      (∀ n, n ∈ above ++ largest :: below ↔ largest - 2 ≤ n ∧ n ≤ largest) ∧
      (source.excerpt largest [] 2).toList = above.flatMap (shownRow text 20) ++
        "18446744073709551615 | \n".toList ++ below.flatMap (shownRow text 20)) ∧
    source.excerpt 1 [] 10 = source.listing := by
  intro text source largest
  have hlargest : largest ≤ Text.maxCount := Nat.le_refl _
  have hten : source.size = 10 := by decide +kernel
  have hsize : source.size ≤ Text.maxCount := hten ▸ by decide
  have hlast : min (9 + 1) (max source.size 9) = 10 := by rw [hten]; rfl
  have hlastLargest : min (largest + 2) (max source.size largest) = largest := by rw [hten]; decide
  obtain ⟨⟨above, below, -, hmem, -, hrows⟩, -⟩ :=
    excerpt_window text 9 [(1, 3)] 1 (by decide) (by decide) hsize
  obtain ⟨⟨before, behind, -, hnumbers, -, hempty⟩, -⟩ :=
    excerpt_window text largest [] 2 (by decide) hlargest hsize
  obtain ⟨-, hlisting⟩ := excerpt_window text 1 [] 10 (by decide) (by decide) hsize
  rw [hlast] at hmem hrows
  rw [hlastLargest] at hnumbers hempty
  have hwidth : (Nat.toDigits 10 largest).length = 20 := by decide +kernel
  rw [if_pos rfl, List.append_nil, hwidth] at hempty
  have hnine : shownRow text 2 9 = " 9 | nine\n".toList := by decide +kernel
  have hcarets : List.replicate 2 ' ' ++ [' ', '|', ' '] ++ underline [(1, 3)] ++ ['\n'] =
      "   |  ^^\n".toList := by
    decide +kernel
  have hrow : shownRow text 20 largest = "18446744073709551615 | \n".toList := by decide +kernel
  refine ⟨hlargest, hsize, by decide +kernel, ⟨above, below, ?_, ?_⟩, ⟨before, behind, ?_, ?_⟩, ?_⟩
  · intro n
    rw [hmem]
    omega
  · rw [← hnine, ← hcarets]
    exact hrows
  · intro n
    rw [hnumbers]
    omega
  · rw [← hrow]
    exact hempty
  · exact hlisting (by rw [hten]; decide) hten.le rfl

end Source

end Rider
