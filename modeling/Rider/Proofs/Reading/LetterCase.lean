import Mathlib.Data.List.Forall2
import Rider.Proofs.Lists
import Rider.Proofs.Reading.Acceptance
import Rider.Proofs.Reading.Blame
import Rider.Proofs.Reading.Score

set_option autoImplicit false

namespace Rider

/-- No comparison with a word and none with an identifier tells the tokens apart. -/
structure Token.Alike (t u : Token) : Prop where
  name : t.name = u.name
  isIdent : t.isIdent = u.isIdent

instance (t u : Token) : Decidable (t.Alike u) :=
  decidable_of_iff (t.name = u.name ∧ t.isIdent = u.isIdent)
    ⟨fun h => ⟨h.1, h.2⟩, fun h => ⟨h.name, h.isIdent⟩⟩

structure TokenLine.Alike (a b : TokenLine) : Prop where
  number : a.number = b.number
  tokens : List.Forall₂ Token.Alike a.tokens b.tokens
  subject : (∃ t, a.tokens[1]? = some t ∧ t.raw = "I") ↔ ∃ u, b.tokens[1]? = some u ∧ u.raw = "I"

theorem Token.Alike.isWord {t u : Token} (h : t.Alike u) (w : String) : t.isWord w = u.isWord w := by
  rw [Token.isWord, Token.isWord, h.name, h.isIdent]

theorem Token.Alike.admits {t u : Token} (h : t.Alike u) (waiting : WordSet) (slot : Slot) :
    slot.admits waiting t = slot.admits waiting u := by
  cases slot with
  | word w => exact h.isWord w
  | target | value => exact h.isIdent
  | param => simp only [Slot.admits, h.name, h.isIdent]

def SamePlace (a b : TokenLine) (t u : Token) : Prop :=
  ∃ i : Nat, a.tokens[i]? = some t ∧ b.tokens[i]? = some u

/-- The mismatches are of one kind, expect the same and are about tokens at one place. -/
inductive Mismatch.Abreast (a b : TokenLine) : Mismatch → Mismatch → Prop
  | wrong {t u : Token} {expected : List String} :
      SamePlace a b t u → Mismatch.Abreast a b (.wrong t expected) (.wrong u expected)
  | missing {expected : List String} : Mismatch.Abreast a b
      (.missing expected a.number a.nextColumn) (.missing expected b.number b.nextColumn)
  | extra {t u : Token} : SamePlace a b t u → Mismatch.Abreast a b (.extra t) (.extra u)

def BoundAbreast (a b : TokenLine) (p q : String × Token) : Prop :=
  p.1 = q.1 ∧ SamePlace a b p.2 q.2

structure Walk.Abreast (a b : TokenLine) (w v : Walk) : Prop where
  waiting : w.waiting = v.waiting
  named : w.named = v.named
  target : Option.Rel (SamePlace a b) w.target v.target
  bindings : List.Forall₂ (BoundAbreast a b) w.bindings v.bindings
  mismatches : List.Forall₂ (Mismatch.Abreast a b) w.mismatches v.mismatches

structure Reading.Abreast (a b : TokenLine) (c d : Reading) : Prop where
  shape : c.shape = d.shape
  bindings : List.Forall₂ (BoundAbreast a b) c.bindings d.bindings
  target : Option.Rel (SamePlace a b) c.target d.target
  output : Option.Rel (SamePlace a b) c.output d.output
  mismatches : List.Forall₂ (Mismatch.Abreast a b) c.mismatches d.mismatches

structure Matched (a b : TokenLine) (t u : Token) : Prop where
  alike : t.Alike u
  place : SamePlace a b t u

section
variable {a b : TokenLine}

theorem TokenLine.Alike.matched (h : a.Alike b) :
    List.Forall₂ (Matched a b) a.tokens b.tokens := by
  obtain ⟨hlen, halike⟩ := List.forall₂_iff_get.1 h.tokens
  refine List.forall₂_iff_get.2 ⟨hlen, ?_⟩
  intro i hi hj
  refine ⟨halike i hi hj, i, ?_, ?_⟩
  · exact List.getElem?_eq_getElem hi
  · exact List.getElem?_eq_getElem hj

namespace Walk.Abreast

variable {w v : Walk} {t u : Token}

theorem start (s : Shape) : Abreast a b (Walk.start s) (Walk.start s) where
  waiting := rfl
  named := rfl
  target := .none
  bindings := .nil
  mismatches := .nil

theorem accept (h : Abreast a b w v) (ht : Matched a b t u) (slot : Slot) :
    Abreast a b (w.accept t slot) (v.accept u slot) := by
  cases slot with
  | word => exact h
  | target => exact { h with target := .some ht.place }
  | param =>
    exact { h with
      waiting := by simp only [Walk.accept, h.waiting, ht.alike.name]
      named := by simp only [Walk.accept, ht.alike.name] }
  | value =>
    have hnamed := h.named
    cases hw : w.named with
    | none =>
      rw [hw] at hnamed
      simp only [Walk.accept, hw, ← hnamed]
      exact h
    | some p =>
      rw [hw] at hnamed
      simp only [Walk.accept, hw, ← hnamed]
      exact { h with
        named := rfl
        bindings := List.rel_append h.bindings (.cons ⟨rfl, ht.place⟩ .nil) }

theorem refuse (h : Abreast a b w v) {m n : Mismatch} (hm : m.Abreast a b n) (slot : Slot) :
    Abreast a b (w.refuse m slot) (v.refuse n slot) := by
  have noted : List.Forall₂ (Mismatch.Abreast a b) (w.mismatches ++ [m]) (v.mismatches ++ [n]) :=
    List.rel_append h.mismatches (.cons hm .nil)
  cases slot with
  | word | target | value => exact { h with mismatches := noted }
  | param => exact { h with named := rfl, mismatches := noted }

theorem meet_none (h : Abreast a b w v) (slot : Slot) :
    Abreast a b (w.meet a slot none) (v.meet b slot none) := by
  simp only [Walk.meet, h.waiting]
  exact h.refuse .missing slot

theorem meet_some (h : Abreast a b w v) (ht : Matched a b t u) (slot : Slot) :
    Abreast a b (w.meet a slot (some t)) (v.meet b slot (some u)) := by
  simp only [Walk.meet, h.waiting, ht.alike.admits]
  split
  · exact h.accept ht slot
  · exact h.refuse (.wrong ht.place) slot

theorem run {ts us : List Token} (h : Abreast a b w v) (hts : List.Forall₂ (Matched a b) ts us)
    (slots : List Slot) :
    Abreast a b (Walk.run a slots ts w).1 (Walk.run b slots us v).1 ∧
      List.Forall₂ (Matched a b) (Walk.run a slots ts w).2 (Walk.run b slots us v).2 := by
  induction slots generalizing ts us w v with
  | nil => exact ⟨h, hts⟩
  | cons slot slots ih =>
    cases hts with
    | nil => exact ih (h.meet_none slot) .nil
    | cons ht hts => exact ih (h.meet_some ht slot) hts

end Walk.Abreast

theorem strayWord_abreast {t u : Token} (h : Matched a b t u) (w : String) :
    List.Forall₂ (Mismatch.Abreast a b) (strayWord w t) (strayWord w u) := by
  rw [strayWord, strayWord, h.alike.isWord]
  split
  · exact .nil
  · exact .cons (.wrong h.place) .nil

theorem extra_abreast {ts us : List Token} (h : List.Forall₂ (Matched a b) ts us) :
    List.Forall₂ (Mismatch.Abreast a b) (ts.map .extra) (us.map .extra) :=
  List.rel_map (fun _ _ ht => .extra ht.place) h

theorem closing_abreast {ts us : List Token} (h : List.Forall₂ (Matched a b) ts us) :
    List.Forall₂ (Mismatch.Abreast a b) (closing ts).1 (closing us).1 ∧
      Option.Rel (SamePlace a b) (closing ts).2 (closing us).2 := by
  by_cases hlen : 4 ≤ ts.length
  · obtain ⟨front, w, o, i, x, rfl⟩ := exists_last_four (h.length_eq ▸ hlen)
    have hfront := List.forall₂_take_append ts front _ h
    have hlast := List.forall₂_drop_append ts front _ h
    -- Only the last four decide what is left over, so both lines are cut before them.
    rw [← List.take_append_drop front.length ts] at h ⊢
    generalize ts.take front.length = before at h hfront ⊢
    generalize ts.drop front.length = last at h hlast ⊢
    obtain _ | ⟨hw, _ | ⟨ho, _ | ⟨hi, _ | ⟨hx, _ | _⟩⟩⟩⟩ := hlast
    rw [closing_append, closing_append, hx.alike.isIdent]
    split
    · refine ⟨?_, .some hx.place⟩
      exact List.rel_append (List.rel_append (List.rel_append (extra_abreast hfront)
        (strayWord_abreast hw _)) (strayWord_abreast ho _)) (strayWord_abreast hi _)
    · exact ⟨extra_abreast h, .none⟩
  · rw [closing_of_short (by omega), closing_of_short (by rw [← h.length_eq]; omega)]
    exact ⟨extra_abreast h, .none⟩

theorem TokenLine.Alike.reading (h : a.Alike b) (s : Shape) :
    Reading.Abreast a b (s.reading a) (s.reading b) := by
  have htokens := List.forall₂_drop 2 h.matched
  obtain ⟨hwalk, hrest⟩ := (Walk.Abreast.start s).run htokens s.slots
  obtain ⟨hleft, houtput⟩ := closing_abreast hrest
  exact {
    shape := rfl
    bindings := hwalk.bindings
    target := hwalk.target
    output := houtput
    mismatches := List.rel_append hwalk.mismatches hleft }

theorem Reading.Abreast.score {c d : Reading} (h : Reading.Abreast a b c d) : c.score = d.score :=
  h.mismatches.length_eq

theorem leastScore_abreast {rs qs : List Reading} (h : List.Forall₂ (Reading.Abreast a b) rs qs) :
    leastScore rs = leastScore qs := by
  rw [leastScore, leastScore, map_eq_of_forall₂ (fun _ _ hc => hc.score) h]

theorem keepLeast_abreast {rs qs : List Reading} (h : List.Forall₂ (Reading.Abreast a b) rs qs) :
    List.Forall₂ (Reading.Abreast a b) (keepLeast rs) (keepLeast qs) := by
  unfold keepLeast
  refine List.rel_filter ?_ h
  intro c d hc
  simp only [leastScore_abreast h, hc.score]

theorem TokenLine.Alike.readings (h : a.Alike b) (shapes : List Shape) :
    List.Forall₂ (Reading.Abreast a b) (judge shapes a).readings (judge shapes b).readings := by
  rw [judge_readings, judge_readings]
  apply keepLeast_abreast
  rw [List.forall₂_map_left_iff, List.forall₂_map_right_iff]
  exact List.forall₂_same.2 fun s _ => h.reading s

theorem missing_abreast_of_nil (ha : a.tokens = []) (hb : b.tokens = []) (expected : List String) :
    Mismatch.Abreast a b (.missing expected a.number 0) (.missing expected b.number 0) := by
  have h : Mismatch.Abreast a b (.missing expected a.number a.nextColumn)
    (.missing expected b.number b.nextColumn) := .missing
  rwa [TokenLine.nextColumn_of_nil ha, TokenLine.nextColumn_of_nil hb] at h

theorem TokenLine.Alike.openingPhase (h : a.Alike b) :
    (∃ phase, openingPhase a = .ok phase ∧ openingPhase b = .ok phase) ∨
      ∃ m n, openingPhase a = .error m ∧ openingPhase b = .error n ∧ m.Abreast a b n := by
  have hfirst := rel_getElem? h.matched 0
  unfold Rider.openingPhase
  generalize ha : a.tokens[0]? = t at hfirst
  generalize hb : b.tokens[0]? = u at hfirst
  cases hfirst with
  | none =>
    have hnil : a.tokens = [] := List.length_eq_zero_iff.1 (by simpa using ha)
    have hnil' : b.tokens = [] := List.length_eq_zero_iff.1 (by simpa using hb)
    exact .inr ⟨_, _, rfl, rfl, missing_abreast_of_nil hnil hnil' _⟩
  | some ht =>
    simp only [ht.alike.isWord]
    split
    · exact .inl ⟨_, rfl, rfl⟩
    · split
      · exact .inl ⟨_, rfl, rfl⟩
      · exact .inr ⟨_, _, rfl, rfl, .wrong ht.place⟩

theorem TokenLine.Alike.openingSubject (h : a.Alike b) :
    List.Forall₂ (Mismatch.Abreast a b) (openingSubject a) (openingSubject b) := by
  have hsecond := rel_getElem? h.matched 1
  have hsubject := h.subject
  unfold Rider.openingSubject
  generalize a.tokens[1]? = t at hsecond hsubject
  generalize b.tokens[1]? = u at hsecond hsubject
  cases hsecond with
  | none => exact .cons .missing .nil
  | @some t u ht =>
    have same : t.raw = "I" ↔ u.raw = "I" := by simpa using hsubject
    simp only [beq_iff_eq, same]
    split
    · exact .nil
    · exact .cons (.wrong ht.place) .nil

theorem TokenLine.Alike.opening (h : a.Alike b) (shapes : List Shape) :
    (judge shapes a).phase = (judge shapes b).phase ∧
      List.Forall₂ (Mismatch.Abreast a b) (judge shapes a).opening (judge shapes b).opening := by
  unfold judge
  rcases h.openingPhase with ⟨phase, ha, hb⟩ | ⟨m, n, ha, hb, hm⟩
  · simp only [ha, hb]
    exact ⟨trivial, h.openingSubject⟩
  · simp only [ha, hb]
    exact ⟨trivial, .cons hm h.openingSubject⟩

end

/-- Letter case does not matter, but in the subject. Two lines whose tokens have the same names, are identifiers
at the same places and have the subject as it is written both or neither, are judged side by side: the phase,
the shapes that are kept and whether the line matches are the same, and what is expected, blamed and captured
agrees place by place. -/
theorem letter_case_irrelevant {H : Type} (r : Registry H) {a b : TokenLine} (h : a.Alike b) :
    (judge r.shapes a).phase = (judge r.shapes b).phase ∧
    (judge r.shapes a).readings.map Reading.shape = (judge r.shapes b).readings.map Reading.shape ∧
    (judge r.shapes a).isMatch = (judge r.shapes b).isMatch ∧
    List.Forall₂ (Mismatch.Abreast a b) (judge r.shapes a).opening (judge r.shapes b).opening ∧
    List.Forall₂ (Reading.Abreast a b) (judge r.shapes a).readings (judge r.shapes b).readings := by
  obtain ⟨hphase, hopening⟩ := h.opening r.shapes
  have hreadings := h.readings r.shapes
  have hclean := map_eq_of_forall₂ (fun _ _ hc => isEmpty_of_forall₂ hc.mismatches) hreadings
  refine ⟨hphase, map_eq_of_forall₂ (fun _ _ hc => hc.shape) hreadings, ?_, hopening, hreadings⟩
  rw [Verdict.isMatch, Verdict.isMatch, hphase, isEmpty_of_forall₂ hopening]
  have hany := congrArg (List.any · id) hclean
  rw [List.any_map, List.any_map] at hany
  exact congrArg _ hany

section Casing

-- One line in two casings, a word too long.

def casingShape : Shape := ⟨.opening, .empty, ["tick"]⟩

def casingRegistry : Registry Unit := .ofEntries [⟨"casings", casingShape, by decide, ()⟩] (by decide)

def upperLine : TokenLine where
  tokens := [.ofRaw ['G', 'I', 'V', 'E', 'N'] 5 0, .ofRaw ['I'] 5 6, .ofRaw ['O', 'p', 'e', 'n'] 5 8,
    .ofRaw ['\'', 'U', '\''] 5 13, .ofRaw ['A', 'N', 'D'] 5 17, .ofRaw ['T', 'i', 'c', 'k'] 5 21,
    .ofRaw ['N', 'o', 'w'] 5 26]
  number := 5

def lowerLine : TokenLine where
  tokens := [.ofRaw ['g', 'i', 'v', 'e', 'n'] 5 0, .ofRaw ['I'] 5 6, .ofRaw ['o', 'p', 'e', 'n'] 5 9,
    .ofRaw ['\'', 'u', '\''] 5 14, .ofRaw ['a', 'n', 'd'] 5 18, .ofRaw ['t', 'i', 'c', 'k'] 5 22,
    .ofRaw ['n', 'o', 'w'] 5 30]
  number := 5

theorem casing_alike : upperLine.Alike lowerLine where
  number := rfl
  tokens := by decide
  subject := iff_of_true ⟨_, rfl, by decide⟩ ⟨_, rfl, by decide⟩

theorem letter_case_irrelevant_casing :
    upperLine.Alike lowerLine ∧
      (casingShape.reading upperLine).mismatches = [.extra (.ofRaw ['N', 'o', 'w'] 5 26)] ∧
      (casingShape.reading lowerLine).mismatches = [.extra (.ofRaw ['n', 'o', 'w'] 5 30)] ∧
      (judge casingRegistry.shapes upperLine).isMatch =
        (judge casingRegistry.shapes lowerLine).isMatch ∧
      List.Forall₂ (Reading.Abreast upperLine lowerLine)
        (judge casingRegistry.shapes upperLine).readings
        (judge casingRegistry.shapes lowerLine).readings := by
  obtain ⟨-, -, hmatch, -, hreadings⟩ := letter_case_irrelevant casingRegistry casing_alike
  exact ⟨casing_alike, by decide, by decide, hmatch, hreadings⟩

end Casing

end Rider
