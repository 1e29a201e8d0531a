import Rider.Ignored
import Rider.Proofs.Text.Cut
import Rider.Proofs.Text.Lines
import Rider.Proofs.Text.Numeral

set_option autoImplicit false

namespace Rider.Ignored

/-- A log line that reports an ignored line: anything, the first marker, a number, a colon, the text. -/
def Reports (marker line : List Char) (e : Ignored) : Prop :=
  ∃ before number text, line = before ++ marker ++ (number ++ ':' :: text) ∧
    Text.FirstBehind marker before ∧ ':' ∉ number ∧ Text.Numeral (Text.trim number) e.line ∧
    1 ≤ e.line ∧ e.line ≤ Text.maxCount ∧ e.text.toList = Text.trim text

theorem isBlank_colon : Text.isBlank ':' = false := by
  decide

theorem ofLogLine?_eq_some_iff {marker line : List Char} {e : Ignored} :
    ofLogLine? marker line = some e ↔ Reports marker line e := by
  constructor
  · intro h
    unfold ofLogLine? at h
    split at h
    · contradiction
    · rename_i rest hrest
      split at h
      · contradiction
      · rename_i number text hcut
        split at h
        · rename_i n hcount
          obtain rfl := Option.some.inj h
          obtain ⟨before, rfl, hfirst⟩ := Text.after?_eq_some_iff.1 hrest
          obtain ⟨hrest, hcolon⟩ := Text.cutAt?_eq_some_iff.1 hcut
          obtain ⟨hnumeral, hmax⟩ := Text.count?_eq_some_iff.1 hcount
          -- The blanks that were trimmed in front of the number count as part of it.
          have hgap : ∀ c ∈ rest.takeWhile Text.isBlank, Text.isBlank c = true :=
            fun c hc => List.mem_takeWhile_imp hc
          refine ⟨before, rest.takeWhile Text.isBlank ++ number, text, ?_, hfirst, ?_, ?_,
            Nat.succ_pos n, hmax, String.toList_ofList⟩
          · rw [List.append_assoc _ number, ← hrest, Text.trimStart, List.takeWhile_append_dropWhile]
          · intro hmem
            rcases List.mem_append.1 hmem with hmem | hmem
            · exact absurd (hgap ':' hmem) (by rw [isBlank_colon]; decide)
            · exact hcolon hmem
          · rwa [Text.trim_blanks_append hgap]
        · contradiction
  · rintro ⟨before, number, text, rfl, hfirst, hcolon, hnumeral, hpos, hmax, htext⟩
    have hrest : Text.after? marker (before ++ marker ++ (number ++ ':' :: text)) =
        some (number ++ ':' :: text) := Text.after?_eq_some_iff.2 ⟨before, rfl, hfirst⟩
    have hcut : Text.cutAt? ':' (Text.trimStart (number ++ ':' :: text)) =
        some (Text.trimStart number, text) := by
      rw [Text.trimStart_append_cons isBlank_colon]
      refine Text.cutAt?_eq_some_iff.2 ⟨rfl, fun hmem => hcolon ?_⟩
      exact (List.dropWhile_sublist Text.isBlank).mem hmem
    have hcount : Text.count? (Text.trim (Text.trimStart number)) = some e.line := by
      rw [Text.trim_trimStart]
      exact Text.count?_eq_some_iff.2 ⟨hnumeral, hmax⟩
    obtain ⟨text', line⟩ := e
    obtain ⟨n, rfl⟩ := Nat.exists_eq_add_of_le' hpos
    simp only [ofLogLine?, hrest, hcut, hcount]
    rw [← htext, String.ofList_toList]

theorem ofLogLine?_of_unmarked {marker line : List Char} (h : ¬marker <:+: line) :
    ofLogLine? marker line = none := by
  rw [ofLogLine?, Text.after?_eq_none_iff.2 h]

theorem reports_return {marker line : List Char} {e : Ignored} :
    Reports marker (line ++ ['\r']) e ↔ Reports marker line e := by
  have hreturn : Text.isBlank '\r' = true := by decide
  constructor
  · rintro ⟨before, number, text, hline, hfirst, hcolon, hnumeral, hpos, hmax, htext⟩
    -- The last character of the line is no colon, so it belongs to the text.
    rcases List.eq_nil_or_concat text with rfl | ⟨text, c, rfl⟩
    · rw [← List.append_assoc] at hline
      have hlast := (List.append_inj' hline rfl).2
      contradiction
    · rw [List.concat_eq_append, ← List.cons_append, ← List.append_assoc number,
        ← List.append_assoc] at hline
      obtain ⟨rfl, hlast⟩ := List.append_inj' hline rfl
      obtain rfl := (List.cons.inj hlast).1
      rw [List.concat_eq_append, Text.trim_append_blank hreturn] at htext
      exact ⟨before, number, text, rfl, hfirst, hcolon, hnumeral, hpos, hmax, htext⟩
  · rintro ⟨before, number, text, rfl, hfirst, hcolon, hnumeral, hpos, hmax, htext⟩
    refine ⟨before, number, text ++ ['\r'], by simp, hfirst, hcolon, hnumeral, hpos, hmax, ?_⟩
    rw [Text.trim_append_blank hreturn, htext]

theorem ofLogLine?_return (marker line : List Char) :
    ofLogLine? marker (line ++ ['\r']) = ofLogLine? marker line := by
  ext e
  exact ofLogLine?_eq_some_iff.trans (reports_return.trans ofLogLine?_eq_some_iff.symm)

theorem ofLogLine?_dropReturn (marker line : List Char) :
    ofLogLine? marker (Text.dropReturn line) = ofLogLine? marker line := by
  rcases Text.eq_dropReturn_or line with hkept | hreturn
  · rw [← hkept]
  · rw [← ofLogLine?_return, ← hreturn]

theorem ofLogLine?_nil (marker : List Char) : ofLogLine? marker [] = none := by
  refine Option.eq_none_iff_forall_ne_some.2 fun e h => ?_
  obtain ⟨before, number, text, hline, -⟩ := ofLogLine?_eq_some_iff.1 h
  simp at hline

def reported (marker log : List Char) : List Ignored :=
  (Text.lines log).filterMap (ofLogLine? marker)

theorem ofLog_eq_reported (marker log : String) :
    ofLog marker log = reported marker.toList log.toList := rfl

theorem reported_append_lineFeed {line : List Char} (h : '\n' ∉ line) (marker rest : List Char) :
    reported marker (line ++ '\n' :: rest) =
      (ofLogLine? marker line).toList ++ reported marker rest := by
  rw [reported, Text.lines_append_lineFeed h, List.filterMap_cons, ofLogLine?_dropReturn]
  cases ofLogLine? marker line <;> rfl

theorem reported_of_not_mem {line : List Char} (h : '\n' ∉ line) (marker : List Char) :
    reported marker line = (ofLogLine? marker line).toList := by
  rw [reported, Text.lines_of_not_mem h]
  split
  · rename_i hnil
    rw [hnil, ofLogLine?_nil]
    rfl
  · rw [List.filterMap_cons]
    cases ofLogLine? marker line <;> rfl

end Rider.Ignored
