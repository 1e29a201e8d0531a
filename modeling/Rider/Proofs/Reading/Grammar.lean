import Mathlib.Data.List.Forall2
import Rider.Proofs.Reading.Unbounded

set_option autoImplicit false

/-!
The grammar of statements over tokens. The walk along a shape notes no mismatch exactly on the lines
that spell a statement of the shape, and there it captures the identifiers of the statement.
-/

namespace Rider

abbrev WordsSpelt (ws : List String) (ts : List Token) : Prop :=
  List.Forall₂ (fun w t => t.isWord w = true) ws ts

inductive ClauseSpelt : Clause → List Token → Option Token → Prop
  | absent : ClauseSpelt .absent [] none
  | opening {o x a : Token} : o.isWord "open" = true → x.isIdent = true → a.isWord "and" = true →
      ClauseSpelt .opening [o, x, a] (some x)
  | connecting {c t x a : Token} : c.isWord "connect" = true → t.isWord "to" = true →
      x.isIdent = true → a.isWord "and" = true → ClauseSpelt .connecting [c, t, x, a] (some x)

inductive SendsSpelt : List (String × Token) → List Token → Prop
  | nil : SendsSpelt [] []
  | cons {p : String} {s n x a : Token} {bs : List (String × Token)} {ts : List Token} :
      s.isWord "send" = true → n.isWord p = true → x.isIdent = true → a.isWord "and" = true →
      SendsSpelt bs ts → SendsSpelt ((p, x) :: bs) (s :: n :: x :: a :: ts)

inductive OutputSpelt : List Token → Option Token → Prop
  | absent : OutputSpelt [] none
  | present {a o i x : Token} : a.isWord "and" = true → o.isWord "output" = true →
      i.isWord "into" = true → x.isIdent = true → OutputSpelt [a, o, i, x] (some x)

/-- The tokens spell a statement of the shape with these identifiers; the blocks of the parameters
come in any order. -/
def Shape.Spelt (s : Shape) (ts : List Token) (target : Option Token)
    (bindings : List (String × Token)) (output : Option Token) : Prop :=
  ∃ clause sends phrase tail, ts = clause ++ (sends ++ (phrase ++ tail)) ∧
    ClauseSpelt s.clause clause target ∧
    (bindings.map Prod.fst).Perm s.params.words ∧ SendsSpelt bindings sends ∧
    WordsSpelt s.phrase phrase ∧ OutputSpelt tail output

namespace Walk

/-- A walk on which a fitting token comes to every slot, and the tokens that are left. -/
inductive Fits : Walk → List Slot → List Token → Walk → List Token → Prop
  | done (w : Walk) (ts : List Token) : Fits w [] ts w ts
  | step {w w' : Walk} {slot : Slot} {slots : List Slot} {t : Token} {ts rest : List Token} :
      slot.admits w.waiting t = true → Fits (w.accept t slot) slots ts w' rest →
      Fits w (slot :: slots) (t :: ts) w' rest

theorem Fits.run_eq {w w' : Walk} {slots : List Slot} {ts rest : List Token}
    (h : Fits w slots ts w' rest) (line : TokenLine) : run line slots ts w = (w', rest) := by
  induction h with
  | done => rfl
  | step ht _ ih => simp only [run, List.head?_cons, List.tail_cons, meet, ht, if_true, ih]

theorem Fits.mismatches_eq {w w' : Walk} {slots : List Slot} {ts rest : List Token}
    (h : Fits w slots ts w' rest) : w'.mismatches = w.mismatches := by
  induction h with
  | done => rfl
  | step _ _ ih => rw [ih, accept_mismatches]

theorem fits_of_run {line : TokenLine} {slots : List Slot} {ts : List Token} {w : Walk}
    (h : (run line slots ts w).1.mismatches = w.mismatches) :
    Fits w slots ts (run line slots ts w).1 (run line slots ts w).2 := by
  induction slots generalizing ts w with
  | nil => exact .done w ts
  | cons slot slots ih =>
    have later := run_extends line slots ts.tail (w.meet line slot ts.head?)
    change (run line slots ts.tail (w.meet line slot ts.head?)).1.mismatches = _ at h
    rw [h, meet_mismatches] at later
    have clean : slot.blame line w.waiting ts.head? = [] := by
      have := later.length_le
      rw [List.length_append] at this
      exact List.length_eq_zero_iff.1 (by omega)
    cases ts with
    | nil => simp [Slot.blame] at clean
    | cons t ts =>
      have ht : slot.admits w.waiting t = true := by
        by_contra hn
        simp [Slot.blame, hn] at clean
      have hmeet : w.meet line slot (some t) = w.accept t slot := by
        simp only [meet, ht, if_true]
      simp only [List.head?_cons, List.tail_cons, hmeet] at h
      simp only [run, List.head?_cons, List.tail_cons, hmeet]
      exact .step ht (ih (by rw [h, accept_mismatches]))

theorem fits_nil {w w' : Walk} {ts rest : List Token} :
    Fits w [] ts w' rest ↔ w' = w ∧ ts = rest := by
  constructor
  · rintro ⟨⟩
    exact ⟨rfl, rfl⟩
  · rintro ⟨rfl, rfl⟩
    exact .done _ _

theorem fits_cons {w w' : Walk} {slot : Slot} {slots : List Slot} {ts rest : List Token} :
    Fits w (slot :: slots) ts w' rest ↔ ∃ t us, ts = t :: us ∧
      slot.admits w.waiting t = true ∧ Fits (w.accept t slot) slots us w' rest := by
  constructor
  · rintro (_ | ⟨ht, h⟩)
    exact ⟨_, _, rfl, ht, h⟩
  · rintro ⟨t, us, rfl, ht, h⟩
    exact .step ht h

theorem fits_append {w w' : Walk} {xs ys : List Slot} {ts rest : List Token} :
    Fits w (xs ++ ys) ts w' rest ↔ ∃ v mid, Fits w xs ts v mid ∧ Fits v ys mid w' rest := by
  induction xs generalizing w ts with
  | nil =>
    rw [List.nil_append]
    constructor
    · intro h
      exact ⟨w, ts, .done w ts, h⟩
    · rintro ⟨v, mid, hv, h⟩
      obtain ⟨rfl, rfl⟩ := fits_nil.1 hv
      exact h
  | cons x xs ih =>
    rw [List.cons_append, fits_cons]
    constructor
    · rintro ⟨t, us, rfl, ht, h⟩
      obtain ⟨v, mid, hv, h⟩ := ih.1 h
      exact ⟨v, mid, .step ht hv, h⟩
    · rintro ⟨v, mid, hv, h⟩
      obtain ⟨t, us, rfl, ht, hv⟩ := fits_cons.1 hv
      exact ⟨t, us, rfl, ht, ih.2 ⟨v, mid, hv, h⟩⟩

theorem fits_words {w w' : Walk} {ws : List String} {ts rest : List Token} :
    Fits w (ws.map .word) ts w' rest ↔ w' = w ∧ ∃ p, WordsSpelt ws p ∧ ts = p ++ rest := by
  induction ws generalizing ts with
  | nil =>
    rw [List.map_nil, fits_nil]
    constructor
    · rintro ⟨hw, rfl⟩
      exact ⟨hw, [], .nil, rfl⟩
    · rintro ⟨hw, p, hp, rfl⟩
      cases hp
      exact ⟨hw, rfl⟩
  | cons u ws ih =>
    rw [List.map_cons, fits_cons]
    constructor
    · rintro ⟨t, us, rfl, ht, h⟩
      obtain ⟨hw, p, hp, rfl⟩ := ih.1 h
      exact ⟨hw, t :: p, .cons ht hp, rfl⟩
    · rintro ⟨hw, p, hp, rfl⟩
      obtain _ | ⟨ht, hp⟩ := hp
      exact ⟨_, _, rfl, ht, ih.2 ⟨hw, _, hp, rfl⟩⟩

theorem fits_clause {w w' : Walk} {c : Clause} {ts rest : List Token} (hw : w.target = none) :
    Fits w c.slots ts w' rest ↔ ∃ p target, ClauseSpelt c p target ∧ ts = p ++ rest ∧
      w' = { w with target := target } := by
  cases c with
  | absent =>
    have same : { w with target := none } = w := by rw [← hw]
    rw [Clause.slots, fits_nil]
    constructor
    · rintro ⟨rfl, rfl⟩
      exact ⟨[], none, .absent, rfl, same.symm⟩
    · rintro ⟨p, target, ⟨⟩, rfl, rfl⟩
      exact ⟨same, rfl⟩
  | opening =>
    simp only [Clause.slots, fits_cons, fits_nil]
    constructor
    · rintro ⟨o, _, rfl, ho, x, _, rfl, hx, a, _, rfl, ha, rfl, rfl⟩
      exact ⟨[o, x, a], some x, .opening ho hx ha, rfl, rfl⟩
    · rintro ⟨p, target, ⟨⟩, rfl, rfl⟩
      rename_i ho hx ha
      exact ⟨_, _, rfl, ho, _, _, rfl, hx, _, _, rfl, ha, rfl, rfl⟩
  | connecting =>
    simp only [Clause.slots, fits_cons, fits_nil]
    constructor
    · rintro ⟨c, _, rfl, hc, t, _, rfl, ht, x, _, rfl, hx, a, _, rfl, ha, rfl, rfl⟩
      exact ⟨[c, t, x, a], some x, .connecting hc ht hx ha, rfl, rfl⟩
    · rintro ⟨p, target, ⟨⟩, rfl, rfl⟩
      rename_i hc ht hx ha
      exact ⟨_, _, rfl, hc, _, _, rfl, ht, _, _, rfl, hx, _, _, rfl, ha, rfl, rfl⟩

def send (w : Walk) (b : String × Token) : Walk :=
  { w with
    waiting := w.waiting.erase b.1
    named := some b.1
    bindings := w.bindings ++ [b] }

theorem foldl_send (bs : List (String × Token)) (w : Walk) :
    (bs.foldl send w).target = w.target ∧ (bs.foldl send w).bindings = w.bindings ++ bs := by
  induction bs generalizing w with
  | nil => exact ⟨rfl, (List.append_nil _).symm⟩
  | cons b bs ih =>
    obtain ⟨ht, hb⟩ := ih (w.send b)
    refine ⟨ht, ?_⟩
    rw [List.foldl_cons, hb, send, List.append_assoc, List.singleton_append]

theorem fits_sendSlots {w w' : Walk} {slots : List Slot} {ts rest : List Token} :
    Fits w (sendSlots ++ slots) ts w' rest ↔ ∃ s n x a us p, ts = s :: n :: x :: a :: us ∧
      s.isWord "send" = true ∧ n.isWord p = true ∧ x.isIdent = true ∧ a.isWord "and" = true ∧
      p ∈ w.waiting.words ∧ Fits (w.send (p, x)) slots us w' rest := by
  simp only [sendSlots, List.cons_append, List.nil_append, fits_cons]
  constructor
  · rintro ⟨s, _, rfl, hs, n, _, rfl, hn, x, _, rfl, hx, a, us, rfl, ha, h⟩
    simp only [Slot.admits, Bool.and_eq_true, decide_eq_true_eq] at hn
    refine ⟨s, n, x, a, us, n.name, rfl, hs, ?_, hx, ha, hn.2, h⟩
    rw [Token.isWord, hn.1, beq_self_eq_true, Bool.and_self]
  · rintro ⟨s, n, x, a, us, p, rfl, hs, hn, hx, ha, hp, h⟩
    simp only [Token.isWord, Bool.and_eq_true, beq_iff_eq] at hn
    obtain ⟨hi, rfl⟩ := hn
    refine ⟨s, _, rfl, hs, n, _, rfl, ?_, x, _, rfl, hx, a, us, rfl, ha, h⟩
    rw [Slot.admits, hi, Bool.true_and]
    exact decide_eq_true hp

theorem fits_sends {w w' : Walk} {ps : List String} {ts rest : List Token}
    (hps : ps.length = w.waiting.words.length) :
    Fits w (ps.flatMap fun _ => sendSlots) ts w' rest ↔ ∃ bs b,
      (bs.map Prod.fst).Perm w.waiting.words ∧ SendsSpelt bs b ∧ ts = b ++ rest ∧
      w' = bs.foldl send w := by
  induction ps generalizing w ts with
  | nil =>
    have hnil : w.waiting.words = [] := List.length_eq_zero_iff.1 hps.symm
    rw [List.flatMap_nil, fits_nil, hnil]
    constructor
    · rintro ⟨rfl, rfl⟩
      exact ⟨[], [], .nil, .nil, rfl, rfl⟩
    · rintro ⟨bs, b, hperm, hb, rfl, rfl⟩
      have hbs : bs = [] := List.map_eq_nil_iff.1 (List.perm_nil.1 hperm)
      subst hbs
      cases hb
      exact ⟨rfl, rfl⟩
  | cons q ps ih =>
    -- A block strikes one name off, so as many blocks are left as names that still wait.
    have hlen : ∀ (p : String) (x : Token), p ∈ w.waiting.words →
        ps.length = (w.send (p, x)).waiting.words.length := by
      intro p x hp
      have := List.length_erase_of_mem hp
      simp only [List.length_cons] at hps
      simp only [send, WordSet.erase]
      omega
    rw [List.flatMap_cons, fits_sendSlots]
    constructor
    · rintro ⟨s, n, x, a, us, p, rfl, hs, hn, hx, ha, hp, h⟩
      obtain ⟨bs, b, hperm, hb, rfl, rfl⟩ := (ih (hlen p x hp)).1 h
      exact ⟨(p, x) :: bs, s :: n :: x :: a :: b, List.cons_perm_iff_perm_erase.2 ⟨hp, hperm⟩,
        .cons hs hn hx ha hb, rfl, rfl⟩
    · rintro ⟨bs, b, hperm, hb, rfl, rfl⟩
      obtain _ | ⟨hs, hn, hx, ha, hb⟩ := hb
      · have := hperm.length_eq
        simp only [List.map_nil, List.length_nil, List.length_cons] at this hps
        omega
      · obtain ⟨hp, hperm⟩ := List.cons_perm_iff_perm_erase.1 hperm
        exact ⟨_, _, _, _, _, _, rfl, hs, hn, hx, ha, hp,
          (ih (hlen _ _ hp)).2 ⟨_, _, hperm, hb, rfl, rfl⟩⟩

end Walk

theorem strayWord_eq_nil {w : String} {t : Token} : strayWord w t = [] ↔ t.isWord w = true := by
  rw [strayWord]
  split <;> simp_all

theorem closing_eq_iff {rest : List Token} {output : Option Token} :
    closing rest = ([], output) ↔ OutputSpelt rest output := by
  constructor
  · intro h
    have join := List.take_append_drop (rest.length - 4) rest
    rw [closing] at h
    split at h
    · rename_i a o i x htail
      split at h
      · rename_i hx
        simp only [Prod.mk.injEq, List.append_eq_nil_iff, List.map_eq_nil_iff,
          strayWord_eq_nil] at h
        obtain ⟨⟨⟨⟨hfront, ha⟩, ho⟩, hi⟩, rfl⟩ := h
        rw [hfront, htail, List.nil_append] at join
        rw [← join]
        exact .present ha ho hi hx
      · simp only [Prod.mk.injEq, List.map_eq_nil_iff] at h
        rw [h.1] at htail
        simp at htail
    · simp only [Prod.mk.injEq, List.map_eq_nil_iff] at h
      obtain ⟨rfl, rfl⟩ := h
      exact .absent
  · rintro (_ | ⟨ha, ho, hi, hx⟩)
    · rfl
    · simp [closing, strayWord, ha, ho, hi, hx]

def Walk.ended (s : Shape) (target : Option Token) (bindings : List (String × Token)) : Walk :=
  bindings.foldl Walk.send { Walk.start s with target := target }

theorem Walk.ended_captures (s : Shape) (target : Option Token) (bindings : List (String × Token)) :
    (ended s target bindings).target = target ∧ (ended s target bindings).bindings = bindings :=
  foldl_send bindings { Walk.start s with target := target }

theorem Walk.fits_slots {s : Shape} {w : Walk} {ts rest : List Token} :
    Fits (.start s) s.slots ts w rest ↔ ∃ clause sends phrase target bindings,
      ts = clause ++ (sends ++ (phrase ++ rest)) ∧ ClauseSpelt s.clause clause target ∧
      (bindings.map Prod.fst).Perm s.params.words ∧ SendsSpelt bindings sends ∧
      WordsSpelt s.phrase phrase ∧ w = ended s target bindings := by
  have hsize (target : Option Token) : s.params.words.length =
      { Walk.start s with target := target }.waiting.words.length := rfl
  rw [Shape.slots, List.append_assoc, fits_append]
  constructor
  · rintro ⟨u, us, hclause, h⟩
    obtain ⟨v, vs, hsends, hphrase⟩ := fits_append.1 h
    obtain ⟨clause, target, hc, hts, rfl⟩ := (fits_clause rfl).1 hclause
    obtain ⟨bindings, sends, hperm, hb, rfl, rfl⟩ := (fits_sends (hsize target)).1 hsends
    obtain ⟨hw, phrase, hp, rfl⟩ := fits_words.1 hphrase
    exact ⟨clause, sends, phrase, target, bindings, hts, hc, hperm, hb, hp, hw⟩
  · rintro ⟨clause, sends, phrase, target, bindings, hts, hc, hperm, hb, hp, rfl⟩
    refine ⟨_, _, (fits_clause rfl).2 ⟨clause, target, hc, hts, rfl⟩, fits_append.2 ?_⟩
    exact ⟨_, _, (fits_sends (hsize target)).2 ⟨bindings, sends, hperm, hb, rfl, rfl⟩,
      fits_words.2 ⟨rfl, phrase, hp, rfl⟩⟩

/-- The walk along a shape is clean exactly on the tokens that spell a statement of the shape. -/
theorem Shape.spelt_iff {s : Shape} {line : TokenLine} {target : Option Token}
    {bindings : List (String × Token)} {output : Option Token} :
    s.Spelt (line.tokens.drop 2) target bindings output ↔
      s.reading line = ⟨s, bindings, target, output, []⟩ := by
  constructor
  · rintro ⟨clause, sends, phrase, tail, hts, hc, hperm, hb, hp, ho⟩
    have fits := Walk.fits_slots.2
      ⟨clause, sends, phrase, target, bindings, hts, hc, hperm, hb, hp, rfl⟩
    have hwalk : s.walk line = (Walk.ended s target bindings, tail) := fits.run_eq line
    have hm : (Walk.ended s target bindings).mismatches = [] := fits.mismatches_eq
    obtain ⟨ht, hbs⟩ := Walk.ended_captures s target bindings
    simp only [Shape.reading, hwalk, closing_eq_iff.2 ho, hm, ht, hbs, List.append_nil]
  · intro h
    simp only [Shape.reading, Reading.mk.injEq, List.append_eq_nil_iff, true_and] at h
    obtain ⟨hbindings, htarget, houtput, hmism, hleft⟩ := h
    have fits : Walk.Fits (.start s) s.slots (line.tokens.drop 2) (s.walk line).1 (s.walk line).2 :=
      Walk.fits_of_run hmism
    obtain ⟨clause, sends, phrase, t, bs, hts, hc, hperm, hb, hp, hw⟩ := Walk.fits_slots.1 fits
    obtain ⟨ht, hbs⟩ := Walk.ended_captures s t bs
    rw [hw] at hbindings htarget
    obtain rfl : bs = bindings := hbs.symm.trans hbindings
    obtain rfl : t = target := ht.symm.trans htarget
    have ho : OutputSpelt (s.walk line).2 output := closing_eq_iff.1 (Prod.ext hleft houtput)
    exact ⟨clause, sends, phrase, (s.walk line).2, hts, hc, hperm, hb, hp, ho⟩

theorem Shape.reading_clean_iff {s : Shape} {line : TokenLine} :
    (s.reading line).mismatches = [] ↔
      ∃ target bindings output, s.Spelt (line.tokens.drop 2) target bindings output := by
  constructor
  · intro h
    refine ⟨(s.reading line).target, (s.reading line).bindings, (s.reading line).output, ?_⟩
    rw [Shape.spelt_iff, ← h]
    rfl
  · rintro ⟨target, bindings, output, h⟩
    rw [Shape.spelt_iff.1 h]

end Rider
