import Rider.Proofs.Ignored.LogLine

set_option autoImplicit false

namespace Rider.Ignored

/-- What can be written to a log: the number is a count above zero, the text is in one line and has no blanks at
its ends. -/
structure Loggable (e : Ignored) : Prop where
  one_le : 1 ≤ e.line
  le_max : e.line ≤ Text.maxCount
  trimmed : Text.Trimmed e.text.toList
  oneLine : '\n' ∉ e.text.toList

def afterMarker (e : Ignored) : List Char :=
  ' ' :: Text.digits e.line ++ ':' :: ' ' :: e.text.toList

def lineEnds : List (List Char) := [['\n'], ['\r', '\n']]

/-- A log with a line for each of the entries, in this order, and any other lines without the marker. The last of
those may have no end. -/
inductive LogOf (marker : List Char) : List Ignored → List Char → Prop
  | done : LogOf marker [] []
  | unended {text : List Char} : '\n' ∉ text → ¬marker <:+: text → LogOf marker [] text
  | other {text ending log : List Char} {es : List Ignored} : '\n' ∉ text → ¬marker <:+: text →
      ending ∈ lineEnds → LogOf marker es log → LogOf marker es (text ++ ending ++ log)
  | entry {before ending log : List Char} {e : Ignored} {es : List Ignored} : e.Loggable →
      '\n' ∉ before → Text.FirstBehind marker before → ending ∈ lineEnds → LogOf marker es log →
      LogOf marker (e :: es) (before ++ marker ++ e.afterMarker ++ ending ++ log)

theorem newline_not_mem_digits (n : Nat) : '\n' ∉ Text.digits n := by
  intro h
  exact absurd (Text.isDigit_of_mem_digits h) (by decide)

theorem Loggable.newline_not_mem {e : Ignored} (h : e.Loggable) : '\n' ∉ e.afterMarker := by
  have hdigits := newline_not_mem_digits e.line
  have htext := h.oneLine
  simp [afterMarker, hdigits, htext]

theorem Loggable.reports {marker before : List Char} {e : Ignored} (h : e.Loggable)
    (hfirst : Text.FirstBehind marker before) : Reports marker (before ++ marker ++ e.afterMarker) e := by
  have hspace : ∀ c ∈ [' '], Text.isBlank c = true := List.forall_mem_singleton.2 (by decide)
  refine ⟨before, ' ' :: Text.digits e.line, ' ' :: e.text.toList, rfl, hfirst, ?_, ?_, h.one_le,
    h.le_max, ?_⟩
  · refine List.not_mem_cons_of_ne_of_not_mem (by decide) fun hcolon => ?_
    exact absurd (Text.isDigit_of_mem_digits hcolon) (by decide)
  · rw [← List.singleton_append, Text.trim_blanks_append hspace, (Text.trimmed_digits _).trim_eq]
    exact Text.numeral_digits e.line
  · rw [← List.singleton_append, Text.trim_blanks_append hspace, h.trimmed.trim_eq]

theorem reported_cons {line ending : List Char} (h : '\n' ∉ line) (hending : ending ∈ lineEnds)
    (marker log : List Char) :
    reported marker (line ++ ending ++ log) =
      (ofLogLine? marker line).toList ++ reported marker log := by
  simp only [lineEnds, List.mem_cons, List.not_mem_nil, or_false] at hending
  rcases hending with rfl | rfl
  · rw [List.append_assoc, List.singleton_append, reported_append_lineFeed h]
  · have hreturn : '\n' ∉ line ++ ['\r'] := by simp [h]
    have hline : line ++ ['\r', '\n'] ++ log = line ++ ['\r'] ++ '\n' :: log := by simp
    rw [hline, reported_append_lineFeed hreturn, ofLogLine?_return]

theorem reported_other {marker text ending : List Char} (htext : '\n' ∉ text) (hfree : ¬marker <:+: text)
    (hending : ending ∈ lineEnds) (log : List Char) :
    reported marker (text ++ ending ++ log) = reported marker log := by
  rw [reported_cons htext hending, ofLogLine?_of_unmarked hfree, Option.toList_none, List.nil_append]

theorem reported_entry {marker before ending : List Char} {e : Ignored} (he : e.Loggable)
    (hmarker : '\n' ∉ marker) (hbefore : '\n' ∉ before) (hfirst : Text.FirstBehind marker before)
    (hending : ending ∈ lineEnds) (log : List Char) :
    reported marker (before ++ marker ++ e.afterMarker ++ ending ++ log) = e :: reported marker log := by
  have hline : '\n' ∉ before ++ marker ++ e.afterMarker := by
    simp only [List.mem_append, hbefore, hmarker, he.newline_not_mem, or_self, not_false_eq_true]
  rw [reported_cons hline hending, ofLogLine?_eq_some_iff.2 (he.reports hfirst), Option.toList_some,
    List.singleton_append]

/-- The entries that were written to a log are read from it, all of them, in their order and unchanged. -/
theorem ofLog_recovers {marker log : String} {entries : List Ignored} (hmarker : '\n' ∉ marker.toList)
    (h : LogOf marker.toList entries log.toList) : ofLog marker log = entries := by
  rw [ofLog_eq_reported]
  generalize log.toList = chars at h
  induction h with
  | done => rfl
  | unended htext hfree => rw [reported_of_not_mem htext, ofLogLine?_of_unmarked hfree, Option.toList_none]
  | other htext hfree hending _ ih => rw [reported_other htext hfree hending, ih]
  | entry he hbefore hfirst hending _ ih => rw [reported_entry he hmarker hbefore hfirst hending, ih]

/-- A marker that overlaps itself, in a log whose first text looks like an entry too. -/
theorem ofLog_recovers_overlapping :
    let first : Ignored := ⟨"aba 2: x:y", Text.maxCount⟩
    let second : Ignored := ⟨"", 1⟩
    let log := "ab aba 18446744073709551615: aba 2: x:y\r\nab 7: z\naba 1: \nrest"
    '\n' ∉ "aba".toList ∧ LogOf "aba".toList [first, second] log.toList ∧
      ofLog "aba" log = [first, second] := by
  intro first second log
  have hmarker : '\n' ∉ "aba".toList := by decide +kernel
  have hfirst : first.Loggable := ⟨by decide +kernel, by decide +kernel, by decide +kernel, by decide +kernel⟩
  have hsecond : second.Loggable := ⟨by decide +kernel, by decide +kernel, by decide +kernel, by decide +kernel⟩
  have hspelt : log.toList =
      "ab ".toList ++ "aba".toList ++ first.afterMarker ++ ['\r', '\n'] ++ ("ab 7: z".toList ++ ['\n'] ++
        ([] ++ "aba".toList ++ second.afterMarker ++ ['\n'] ++ "rest".toList)) := by
    decide +kernel
  have hrest : LogOf "aba".toList [] "rest".toList := .unended (by decide +kernel) (by decide +kernel)
  have hlog : LogOf "aba".toList [first, second] log.toList := by
    rw [hspelt]
    refine .entry hfirst (by decide +kernel) (by decide +kernel) (by decide +kernel) ?_
    refine .other (by decide +kernel) (by decide +kernel) (by decide +kernel) ?_
    exact .entry hsecond (by decide +kernel) (by decide +kernel) (by decide +kernel) hrest
  exact ⟨hmarker, hlog, ofLog_recovers hmarker hlog⟩

theorem Reports.loggable {marker line : List Char} {e : Ignored} (h : Reports marker line e)
    (hline : '\n' ∉ line) : e.Loggable := by
  obtain ⟨before, number, text, rfl, -, -, -, hpos, hmax, htext⟩ := h
  refine ⟨hpos, hmax, htext ▸ Text.trimmed_trim text, ?_⟩
  rw [htext]
  intro hmem
  exact hline (by simp [Text.mem_of_mem_trim hmem])

theorem reported_append (marker a b : List Char) :
    reported marker (a ++ '\n' :: b) = reported marker a ++ reported marker b := by
  induction a using Text.lines_induction with
  | last l hl => rw [reported_append_lineFeed hl, reported_of_not_mem hl]
  | line l rest hl ih =>
    rw [List.append_assoc, List.cons_append, reported_append_lineFeed hl, reported_append_lineFeed hl, ih,
      List.append_assoc]

/-- Two logs joined by a line feed report what they report apart. Every entry has the number of a line, comes
from one line of the log with the marker, a number and a colon, and has a text without blanks at its ends. -/
theorem ofLog_compositional (marker : String) :
    (∀ a b : String, ofLog marker (a ++ "\n" ++ b) = ofLog marker a ++ ofLog marker b) ∧
    ∀ log : String, ∀ e ∈ ofLog marker log,
      e.Loggable ∧ ∃ line, Text.LineOf log.toList line ∧ Reports marker.toList line e := by
  constructor
  · intro a b
    simp only [ofLog_eq_reported, String.toList_append]
    rw [List.append_assoc]
    exact reported_append marker.toList a.toList b.toList
  · intro log e he
    obtain ⟨line, hline, hreported⟩ := List.mem_filterMap.1 he
    have hlineOf := Text.lineOf_of_mem_lines hline
    have hreports := ofLogLine?_eq_some_iff.1 hreported
    exact ⟨hreports.loggable hlineOf.1, line, hlineOf, hreports⟩

/-- The first log ends with a carriage return, which the joining line feed makes part of the end of a line. -/
theorem ofLog_compositional_return :
    let first := "IGNORED 3: x\r"
    let second := "[W] IGNORED +04 : y "
    let entry : Ignored := ⟨"y", 4⟩
    ofLog "IGNORED" (first ++ "\n" ++ second) = ofLog "IGNORED" first ++ ofLog "IGNORED" second ∧
      entry ∈ ofLog "IGNORED" second ∧ entry.Loggable ∧
      ∃ line, Text.LineOf second.toList line ∧ Reports "IGNORED".toList line entry := by
  intro first second entry
  have hentry : entry ∈ ofLog "IGNORED" second := by decide
  obtain ⟨hjoin, hread⟩ := ofLog_compositional "IGNORED"
  exact ⟨hjoin first second, hentry, hread second entry hentry⟩

end Rider.Ignored
