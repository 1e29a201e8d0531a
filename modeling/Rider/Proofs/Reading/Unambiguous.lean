import Rider.Proofs.Reading.Exhaustive
import Rider.Proofs.Reading.Grammar
import Rider.Session

set_option autoImplicit false

/-!
No line spells statements of two shapes. No word is reserved, but an identifier is never a word, and
where the identifiers of a line stand tells the clause, the number of parameters and the output apart.
-/

namespace Rider

theorem Token.not_isIdent_of_isWord {t : Token} {w : String} (h : t.isWord w = true) :
    ¬ t.isIdent = true := by
  simp only [Token.isWord, Bool.and_eq_true, Bool.not_eq_true'] at h
  exact Bool.eq_false_iff.1 h.1

theorem Token.isWord_unique {t : Token} {v w : String} (hv : t.isWord v = true)
    (hw : t.isWord w = true) : v = w := by
  simp only [Token.isWord, Bool.and_eq_true, beq_iff_eq] at hv hw
  exact hv.2.symm.trans hw.2

theorem not_isIdent_of_mem_words {ws : List String} {ts : List Token} (h : WordsSpelt ws ts)
    {t : Token} (ht : t ∈ ts) : ¬ t.isIdent = true := by
  induction h with
  | nil => exact absurd ht List.not_mem_nil
  | cons hw _ ih =>
    rcases List.mem_cons.1 ht with rfl | ht
    · exact Token.not_isIdent_of_isWord hw
    · exact ih ht

theorem words_unique {ws vs : List String} {ts : List Token} (hw : WordsSpelt ws ts)
    (hv : WordsSpelt vs ts) : ws = vs := by
  have unique : Relator.LeftUnique fun w (t : Token) => t.isWord w = true := by
    intro v w t hv hw
    exact Token.isWord_unique hv hw
  exact List.left_unique_forall₂' unique hw hv

theorem phrase_unique {ws vs : List String} {p q o u : List Token} {x y : Option Token}
    (hp : WordsSpelt ws p) (hq : WordsSpelt vs q) (ho : OutputSpelt o x) (hu : OutputSpelt u y)
    (h : p ++ o = q ++ u) : ws = vs := by
  cases ho with
  | absent =>
    cases hu with
    | absent =>
      rw [List.append_nil, List.append_nil] at h
      exact words_unique hp (h ▸ hq)
    | @present a o i z _ _ _ hz =>
      rw [List.append_nil] at h
      have hmem : z ∈ p := by simp [h]
      exact absurd hz (not_isIdent_of_mem_words hp hmem)
  | @present a o i z _ _ _ hz =>
    cases hu with
    | absent =>
      rw [List.append_nil] at h
      have hmem : z ∈ q := by simp [← h]
      exact absurd hz (not_isIdent_of_mem_words hq hmem)
    | present =>
      have same : p = q := List.append_inj_left' h rfl
      exact words_unique hp (same ▸ hq)

theorem not_isIdent_of_phrase {ws : List String} {p o : List Token} {x : Option Token}
    (hne : ws ≠ []) (hp : WordsSpelt ws p) (ho : OutputSpelt o x) {i : Nat} (hi : i < 3)
    {t : Token} (ht : (p ++ o)[i]? = some t) : ¬ t.isIdent = true := by
  have hlen : 0 < p.length := by
    rw [← hp.length_eq]
    exact List.length_pos_iff.2 hne
  by_cases hip : i < p.length
  · rw [List.getElem?_append_left hip] at ht
    exact not_isIdent_of_mem_words hp (List.mem_of_getElem? ht)
  · rw [List.getElem?_append_right (by omega)] at ht
    have hk : i - p.length < 2 := by omega
    generalize i - p.length = k at ht hk
    cases ho with
    | absent => simp at ht
    | present ha ho =>
      obtain rfl | rfl : k = 0 ∨ k = 1 := by omega
      · exact Option.some.inj ht ▸ Token.not_isIdent_of_isWord ha
      · exact Option.some.inj ht ▸ Token.not_isIdent_of_isWord ho

/-- Blocks and a phrase can be told apart, and so can each name sent. -/
theorem sends_unique {bs cs : List (String × Token)} {ws vs : List String}
    {b c p q o u : List Token} {x y : Option Token} (hb : SendsSpelt bs b) (hc : SendsSpelt cs c)
    (hws : ws ≠ []) (hvs : vs ≠ []) (hp : WordsSpelt ws p) (hq : WordsSpelt vs q)
    (ho : OutputSpelt o x) (hu : OutputSpelt u y) (h : b ++ (p ++ o) = c ++ (q ++ u)) :
    bs.map Prod.fst = cs.map Prod.fst ∧ ws = vs := by
  induction hb generalizing cs c with
  | nil =>
    cases hc with
    | nil => exact ⟨rfl, phrase_unique hp hq ho hu h⟩
    | cons _ _ hz =>
      -- The third token of a block is an identifier; that of a phrase and what follows it is not.
      have := not_isIdent_of_phrase hws hp ho (by decide : 2 < 3) (congrArg (·[2]?) h)
      exact absurd hz this
  | cons _ hn hx _ _ ih =>
    cases hc with
    | nil =>
      have := not_isIdent_of_phrase hvs hq hu (by decide : 2 < 3) (congrArg (·[2]?) h.symm)
      exact absurd hx this
    | cons _ hm _ _ hc =>
      simp only [List.cons_append, List.cons.injEq] at h
      obtain ⟨-, rfl, -, -, h⟩ := h
      obtain ⟨hnames, hphrase⟩ := ih hc h
      exact ⟨by rw [List.map_cons, List.map_cons, hnames, Token.isWord_unique hn hm], hphrase⟩

/-- What may follow a clause: blocks, or else words at the places of a clause's identifier. -/
def Headed (ts : List Token) : Prop :=
  ∀ a b c rest, ts = a :: b :: c :: rest →
    a.isWord "send" = true ∨ (¬ b.isIdent = true ∧ ¬ c.isIdent = true)

theorem headed_of_spelt {bs : List (String × Token)} {ws : List String} {b p o : List Token}
    {x : Option Token} (hb : SendsSpelt bs b) (hne : ws ≠ []) (hp : WordsSpelt ws p)
    (ho : OutputSpelt o x) : Headed (b ++ (p ++ o)) := by
  intro t₀ t₁ t₂ rest h
  cases hb with
  | nil =>
    rw [List.nil_append] at h
    exact .inr ⟨not_isIdent_of_phrase hne hp ho (by decide : 1 < 3) (congrArg (·[1]?) h),
      not_isIdent_of_phrase hne hp ho (by decide : 2 < 3) (congrArg (·[2]?) h)⟩
  | cons hs =>
    simp only [List.cons_append, List.cons.injEq] at h
    exact .inl (h.1 ▸ hs)

theorem absent_of_headed {d : Clause} {us q vs : List Token} {y : Option Token} (hu : Headed us)
    (hd : ClauseSpelt d q y) (h : us = q ++ vs) : d = .absent := by
  cases hd with
  | absent => rfl
  | opening ho hx ha =>
    rcases hu _ _ _ _ h with hs | ⟨hi, -⟩
    · exact absurd (Token.isWord_unique hs ho) (by decide)
    · exact absurd hx hi
  | connecting hc ht hx ha =>
    rcases hu _ _ _ _ h with hs | ⟨-, hi⟩
    · exact absurd (Token.isWord_unique hs hc) (by decide)
    · exact absurd hx hi

theorem clause_unique {c d : Clause} {p q us vs : List Token} {x y : Option Token}
    (hc : ClauseSpelt c p x) (hd : ClauseSpelt d q y) (hu : Headed us) (hv : Headed vs)
    (h : p ++ us = q ++ vs) : c = d ∧ us = vs := by
  cases hc with
  | absent =>
    obtain rfl := absent_of_headed hu hd h
    cases hd
    exact ⟨rfl, h⟩
  | opening ho =>
    cases hd with
    | absent => exact absurd (absent_of_headed hv (.opening ho ‹_› ‹_›) h.symm) (by decide)
    | opening =>
      simp only [List.cons_append, List.cons.injEq] at h
      exact ⟨rfl, h.2.2.2⟩
    | connecting hc =>
      simp only [List.cons_append, List.cons.injEq] at h
      exact absurd (Token.isWord_unique ho (h.1 ▸ hc)) (by decide)
  | connecting hc =>
    cases hd with
    | absent => exact absurd (absent_of_headed hv (.connecting hc ‹_› ‹_› ‹_›) h.symm) (by decide)
    | opening ho =>
      simp only [List.cons_append, List.cons.injEq] at h
      exact absurd (Token.isWord_unique ho (h.1 ▸ hc)) (by decide)
    | connecting =>
      simp only [List.cons_append, List.cons.injEq] at h
      exact ⟨rfl, h.2.2.2.2⟩

theorem WordSet.eq_of_perm {s t : WordSet} (h : s.words.Perm t.words) : s = t := by
  obtain ⟨xs, hxs⟩ := s
  obtain ⟨ys, hys⟩ := t
  have same : xs = ys := h.eq_of_pairwise
    (fun a b _ _ hab hba => absurd hab (String.lt_asymm hba)) hxs hys
  subst same
  rfl

theorem Shape.spelt_unique {s t : Shape} (hs : s.phrase ≠ []) (ht : t.phrase ≠ [])
    {ts : List Token} {x o y u : Option Token} {bs cs : List (String × Token)}
    (h : s.Spelt ts x bs o) (g : t.Spelt ts y cs u) : s = t := by
  obtain ⟨clause, b, p, tail, hts, hc, hperm, hb, hp, ho⟩ := h
  obtain ⟨clause', c, q, tail', hts', hd, hperm', hb', hq, hu⟩ := g
  obtain ⟨hclause, hrest⟩ := clause_unique hc hd (headed_of_spelt hb hs hp ho)
    (headed_of_spelt hb' ht hq hu) (hts.symm.trans hts')
  obtain ⟨hnames, hphrase⟩ := sends_unique hb hb' hs ht hp hq ho hu hrest
  have hparams : s.params = t.params :=
    WordSet.eq_of_perm (hperm.symm.trans (hnames ▸ hperm'))
  cases s
  cases t
  simp only [Shape.mk.injEq]
  exact ⟨hclause, hparams, hphrase⟩

section
variable {H : Type} {r : Registry H} {line : TokenLine} {s t : Shape}

theorem Registry.valid_of_mem (hs : s ∈ r.shapes) : s.Valid := by
  obtain ⟨e, -, rfl⟩ := List.mem_map.1 hs
  exact e.definition.valid

theorem Registry.clean_unique (hs : s ∈ r.shapes) (ht : t ∈ r.shapes)
    (h : (s.reading line).mismatches = []) (g : (t.reading line).mismatches = []) : s = t := by
  obtain ⟨x, bs, o, hspelt⟩ := Shape.reading_clean_iff.1 h
  obtain ⟨y, cs, u, gspelt⟩ := Shape.reading_clean_iff.1 g
  exact Shape.spelt_unique (Registry.valid_of_mem hs).phrase_ne_nil
    (Registry.valid_of_mem ht).phrase_ne_nil hspelt gspelt

theorem Registry.filter_clean (hs : s ∈ r.shapes) (h : (s.reading line).mismatches = []) :
    (r.shapes.filter fun t => (t.reading line).mismatches.isEmpty) = [s] := by
  have hnodup : r.shapes.Nodup := r.distinct
  apply List.perm_singleton.1
  apply (List.perm_ext_iff_of_nodup (hnodup.filter _) (List.pairwise_singleton _ s)).2
  intro t
  rw [List.mem_filter, List.mem_singleton, List.isEmpty_iff]
  constructor
  · rintro ⟨ht, g⟩
    exact Registry.clean_unique ht hs g h
  · rintro rfl
    exact ⟨hs, h⟩

theorem Registry.readings_of_clean (hs : s ∈ r.shapes) (h : (s.reading line).mismatches = []) :
    (judge r.shapes line).readings = [s.reading line] := by
  rw [judge_readings_of_clean hs h, Registry.filter_clean hs h, List.map_singleton]

theorem Registry.readings_of_isMatch (h : (judge r.shapes line).isMatch = true) :
    ∃ c, (judge r.shapes line).readings = [c] := by
  obtain ⟨s, hs, hclean⟩ := (judge_isMatch_iff.1 h).2.2
  exact ⟨_, Registry.readings_of_clean hs hclean⟩

end

theorem Session.isMatch_of_parseTokens {σ : Type} {s : Session σ} {source : Source} {n : Nat}
    {line : TokenLine} {found : Located} (h : s.parseTokens source n line = .ok found) :
    (judge s.registry.shapes line).isMatch = true := by
  by_contra hn
  simp [Session.parseTokens, hn] at h

theorem Session.resolve_of_parseTokens {σ : Type} {s : Session σ} {source : Source} {n : Nat}
    {line : TokenLine} {found : Located} (h : s.parseTokens source n line = .ok found) :
    ∃ c cs, (judge s.registry.shapes line).readings = c :: cs ∧
      c.resolve = .ok found.statement := by
  have hmatch := Session.isMatch_of_parseTokens h
  simp only [Session.parseTokens, hmatch, if_true] at h
  split at h
  · rename_i phase c cs _ hreadings
    split at h
    · rename_i statement hresolve
      obtain rfl := Except.ok.inj h
      exact ⟨c, cs, hreadings, hresolve⟩
    · contradiction
  · contradiction

/-- Statements are never ambiguous: of the shapes of a registry at most one reads a line without a
mismatch, so a line that matches has one reading, and a session that takes the first drops none. -/
theorem registry_unambiguous {H σ : Type} (r : Registry H) (line : TokenLine) :
    (r.shapes.filter fun s => (s.reading line).mismatches.isEmpty).length ≤ 1 ∧
      ((judge r.shapes line).isMatch = true → ∃ c, (judge r.shapes line).readings = [c]) ∧
      ∀ (s : Session σ) (source : Source) (n : Nat) (found : Located),
        s.parseTokens source n line = .ok found →
          ∃ c, (judge s.registry.shapes line).readings = [c] ∧ c.resolve = .ok found.statement := by
  refine ⟨?_, Registry.readings_of_isMatch, ?_⟩
  · cases hclean : r.shapes.filter fun s => (s.reading line).mismatches.isEmpty with
    | nil => exact Nat.zero_le 1
    | cons s rest =>
      have hs : s ∈ r.shapes.filter fun s => (s.reading line).mismatches.isEmpty := by
        rw [hclean]
        exact List.mem_cons_self
      rw [List.mem_filter, List.isEmpty_iff] at hs
      rw [← hclean, Registry.filter_clean hs.1 hs.2]
      exact Nat.le_refl 1
  · intro s source n found h
    obtain ⟨c, hc⟩ := Registry.readings_of_isMatch (Session.isMatch_of_parseTokens h)
    obtain ⟨d, ds, hd, hresolve⟩ := Session.resolve_of_parseTokens h
    rw [hc, List.cons.injEq] at hd
    exact ⟨c, hc, hd.1 ▸ hresolve⟩

end Rider
