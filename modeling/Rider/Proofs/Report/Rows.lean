import Rider.Proofs.Report.Findings
import Rider.Proofs.Source.Excerpt

set_option autoImplicit false

namespace Rider

namespace Report

def rows (source : Source) (line : Nat) (spans : List TextSpan) (context : Nat) (headline : String)
    (notes : List String) : List (List Char) :=
  headline.toList :: (source.excerptRows line spans context ++ notes.map String.toList)

theorem textOfRows_rows (source : Source) (line : Nat) (spans : List TextSpan) (context : Nat)
    (headline : String) (notes : List String) :
    Source.textOfRows (rows source line spans context headline notes) =
      headline ++ "\n" ++ source.excerpt line spans context ++
        String.join (notes.map fun t => t ++ "\n") := by
  rw [rows, Source.textOfRows_cons, Source.textOfRows_append, Source.textOfRows_map, Source.excerpt,
    String.append_assoc, String.append_assoc, String.append_assoc]

theorem unclosed_eq (source : Source) (e : UnclosedQuote) (context : Nat) :
    unclosed source e context =
      Source.textOfRows (rows source e.token.line [(e.token.start, e.token.stop)] context
        ("LexError at line " ++ toString e.token.line ++ ": unclosed quote")
        ["unclosed: " ++ e.token.raw]) := by
  have hhead : ": unclosed quote\n" = ": unclosed quote" ++ "\n" := by simp
  have hassoc (a b c d e f : String) :
      a ++ (b ++ c) ++ d ++ e ++ f ++ c = a ++ b ++ c ++ d ++ (e ++ f ++ c) := by
    simp only [String.append_assoc]
  unfold unclosed
  simp only
  rw [hhead, hassoc, textOfRows_rows, List.map_singleton, String.join_cons, String.join_nil,
    String.append_empty]

def mismatchNotes (v : Verdict) : List String :=
  (if v.readings.isEmpty && v.opening.isEmpty then ["no statement is registered"] else [])
    ++ (Findings.ofMismatches v.mismatches).lines

theorem join_unregistered (b : Bool) :
    String.join ((if b then ["no statement is registered"] else []).map fun t => t ++ "\n") =
      if b then "no statement is registered\n" else "" := by
  cases b with
  | false => rfl
  | true => simp

theorem mismatched_eq_sorted (source : Source) (v : Verdict) (context : Nat) :
    mismatched source v context =
      Source.textOfRows (rows source v.line
        ((Findings.ofMismatches v.mismatches).spans.mergeSort spanOrder) context
        ("ParseError at line " ++ toString v.line ++ ": invalid statement") (mismatchNotes v)) := by
  have hhead : ": invalid statement\n" = ": invalid statement" ++ "\n" := by simp
  have hassoc (a b c d e f : String) :
      a ++ (b ++ c) ++ d ++ e ++ f = a ++ b ++ c ++ d ++ (e ++ f) := by
    simp only [String.append_assoc]
  unfold mismatched
  simp only
  rw [hhead, hassoc, textOfRows_rows, mismatchNotes, List.map_append, String.join_append,
    join_unregistered]

theorem mem_sorted_spans (ms : List Mismatch) (span : TextSpan) :
    span ∈ (Findings.ofMismatches ms).spans.mergeSort spanOrder ↔ span ∈ ms.map Mismatch.span :=
  (List.mergeSort_perm _ _).mem_iff.trans ((Findings.tells_ofMismatches ms).spans.mem span)

theorem mismatched_eq (source : Source) (v : Verdict) (context : Nat) :
    mismatched source v context =
      Source.textOfRows (rows source v.line (v.mismatches.map Mismatch.span) context
        ("ParseError at line " ++ toString v.line ++ ": invalid statement") (mismatchNotes v)) := by
  rw [mismatched_eq_sorted, rows, rows,
    source.excerptRows_congr v.line context (mem_sorted_spans v.mismatches)]

theorem mismatchNotes_eq (v : Verdict) :
    let findings := Findings.ofMismatches v.mismatches
    mismatchNotes v =
      (if v.readings = [] ∧ v.opening = [] then ["no statement is registered"] else []) ++
        (findings.wrong.map (fun p =>
            "wrong: " ++ Mismatch.inQuotes p.1 ++ " may be " ++ Findings.enumeration p.2.words) ++
          (if ∃ m ∈ v.mismatches, m.missingWords ≠ [] then
            ["missing: " ++ Findings.enumeration findings.missing.words] else []) ++
          (if ∃ m ∈ v.mismatches, m.extraRaw? ≠ none then
            ["extra: " ++ Findings.enumeration findings.extra] else [])) := by
  intro findings
  have htells : Findings.Tells v.mismatches findings := Findings.tells_ofMismatches v.mismatches
  simp only [mismatchNotes, Findings.lines, Bool.and_eq_true, List.isEmpty_iff, findings,
    htells.missing_eq_nil, htells.extra_eq_nil, ite_not]

theorem mismatched_congr (source : Source) {v w : Verdict} (context : Nat) (hline : v.line = w.line)
    (hempty : (v.readings.isEmpty && v.opening.isEmpty) = (w.readings.isEmpty && w.opening.isEmpty))
    (hfindings : Findings.ofMismatches v.mismatches = Findings.ofMismatches w.mismatches) :
    mismatched source v context = mismatched source w context := by
  rw [mismatched_eq_sorted, mismatched_eq_sorted, mismatchNotes, mismatchNotes, hline, hempty,
    hfindings]

theorem mismatched_again (source : Source) (v : Verdict) (context : Nat)
    (before between after : List Reading) (r : Reading) :
    mismatched source { v with readings := before ++ r :: (between ++ r :: after) } context =
      mismatched source { v with readings := before ++ r :: (between ++ after) } context := by
  have hmem : ∀ m ∈ r.mismatches, m ∈ v.opening ++ (before ++ r :: between).flatMap (·.mismatches) := by
    intro m hm
    exact List.mem_append_right _ (List.mem_flatMap.2 ⟨r, by simp, hm⟩)
  have hfindings := Findings.ofMismatches_again hmem (after.flatMap (·.mismatches))
  refine mismatched_congr source context rfl ?_ ?_
  · cases before <;> rfl
  · simpa [Verdict.mismatches] using hfindings

/-- The report of a line that is no statement loses no mismatch and lists nothing twice. Below the headline and
the excerpt, where the mismatches are marked, there is a line for each raw text that is wrong, with all words
expected there, at most one line with all missing words, at most one with all extra raw texts, and nothing else
but the remark that there are no statements at all. To list a reading again changes nothing. -/
theorem mismatched_lists_once (source : Source) (v : Verdict) (context : Nat) :
    (∃ (spans : List TextSpan) (wrong : List (String × List String)) (missing extra : List String),
      (spans.Pairwise fun s t => s.1 < t.1 ∨ s.1 = t.1 ∧ s.2 < t.2) ∧
      (∀ span, span ∈ spans ↔ ∃ m ∈ v.mismatches, m.span = span) ∧
      ListsOnce (v.mismatches.filterMap Mismatch.wrongRaw?) (wrong.map Prod.fst) ∧
      (∀ p ∈ wrong, ListsSorted (v.mismatches.flatMap (Mismatch.wordsFor p.1)) p.2) ∧
      ListsSorted (v.mismatches.flatMap Mismatch.missingWords) missing ∧
      ListsOnce (v.mismatches.filterMap Mismatch.extraRaw?) extra ∧
      let listed (words : List String) : String :=
        String.intercalate ", " (words.map fun w => "'" ++ w ++ "'")
      let notes :=
        (if v.readings = [] ∧ v.opening = [] then ["no statement is registered"] else []) ++
          (wrong.map (fun p => "wrong: " ++ ("'" ++ p.1 ++ "'") ++ " may be " ++ listed p.2) ++
            (if ∃ m ∈ v.mismatches, m.missingWords ≠ [] then ["missing: " ++ listed missing] else []) ++
            (if ∃ m ∈ v.mismatches, m.extraRaw? ≠ none then ["extra: " ++ listed extra] else []))
      mismatched source v context =
        "ParseError at line " ++ toString v.line ++ ": invalid statement" ++ "\n" ++
          source.excerpt v.line spans context ++ String.join (notes.map fun t => t ++ "\n")) ∧
    ∀ before r between after,
      mismatched source { v with readings := before ++ r :: (between ++ r :: after) } context =
        mismatched source { v with readings := before ++ r :: (between ++ after) } context := by
  let findings := Findings.ofMismatches v.mismatches
  have htells : Findings.Tells v.mismatches findings := Findings.tells_ofMismatches v.mismatches
  refine ⟨⟨findings.spans.mergeSort spanOrder, findings.wrong.map fun p => (p.1, p.2.words),
    findings.missing.words, findings.extra, sorted_pairwise htells.spans.nodup, ?_, ?_, ?_, ?_,
    htells.extra, ?_⟩, fun before r between after =>
      mismatched_again source v context before between after r⟩
  · intro span
    rw [mem_sorted_spans, List.mem_map]
  · rw [List.map_map]
    exact htells.raws
  · intro p hp
    obtain ⟨q, hq, rfl⟩ := List.mem_map.1 hp
    exact ⟨htells.words q hq, q.2.ascending⟩
  · exact ⟨htells.missing, findings.missing.ascending⟩
  · intro listed notes
    have hnotes : mismatchNotes v = notes := by
      simp only [mismatchNotes_eq, notes, List.map_map]
      rfl
    rw [mismatched_eq_sorted, textOfRows_rows, hnotes]

end Report

end Rider
