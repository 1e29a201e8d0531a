import Rider.Proofs.Token.Concatenation
import Rider.Proofs.Token.Segmentation

set_option autoImplicit false

namespace Rider

/-- The text is cut into tokens, and what comes after it does not belong to the last of them. -/
def Settled (line start : Nat) (s : List Char) : Prop :=
  ∃ ts, scan line start s = .ok ts ∧ ∀ t ∈ ts, t.stop = start + s.length → t.isIdent = true

section
variable {line start : Nat} {s : List Char}

theorem settled_nil : Settled line start [] := by
  refine ⟨[], ?_, List.forall_mem_nil _⟩
  rw [scan]

theorem Settled.blank {c : Char} (hblank : Text.isBlank c = true) (h : Settled line (start + 1) s) :
    Settled line start (c :: s) := by
  obtain ⟨ts, hts, hlast⟩ := h
  refine ⟨ts, ?_, ?_⟩
  · rw [scan, if_pos hblank, hts]
  · rwa [add_length_cons]

theorem Settled.quoted {inside rest : List Char} (hclosed : takeQuoted? (inside ++ rest) = some (inside, rest))
    (h : Settled line (start + 1 + inside.length) rest) : Settled line start ('\'' :: (inside ++ rest)) := by
  obtain ⟨ts, hts, hlast⟩ := h
  have hstop : start + ('\'' :: (inside ++ rest)).length = start + 1 + inside.length + rest.length := by
    rw [add_length_cons, List.length_append, ← Nat.add_assoc]
  refine ⟨.ofRaw ('\'' :: inside) line start :: ts, ?_, ?_⟩
  · rw [scan_quoted hclosed, add_length_cons, hts]
    rfl
  · rw [hstop]
    exact List.forall_mem_cons.2 ⟨fun _ => Token.isIdent_ofRaw.2 rfl, hlast⟩

theorem Settled.word {c : Char} {w rest : List Char} (hquote : c ≠ '\'')
    (hsolid : ∀ d ∈ c :: w, Text.isBlank d = false) (hgapped : Gapped rest) (hne : rest ≠ [])
    (h : Settled line (start + 1 + w.length) rest) : Settled line start (c :: (w ++ rest)) := by
  obtain ⟨ts, hts, hlast⟩ := h
  have hpos := List.length_pos_iff.2 hne
  have hstop : start + (c :: (w ++ rest)).length = start + 1 + w.length + rest.length := by
    rw [add_length_cons, List.length_append, ← Nat.add_assoc]
  refine ⟨.ofRaw (c :: w) line start :: ts, ?_, ?_⟩
  · rw [scan_word hquote hsolid hgapped, add_length_cons, hts]
    rfl
  · rw [hstop]
    refine List.forall_mem_cons.2 ⟨?_, hlast⟩
    intro hend
    change start + (c :: w).length = _ at hend
    rw [add_length_cons] at hend
    omega

end

theorem scan_eq_error_iff {line start : Nat} {s : List Char} {e : UnclosedQuote} :
    scan line start s = .error e ↔ ∃ before rest, s = before ++ '\'' :: rest ∧
      Settled line start before ∧ takeQuoted? rest = none ∧
      e = ⟨.ofRaw ('\'' :: rest) line (start + before.length)⟩ := by
  constructor
  · intro h
    fun_induction scan line start s with
    | case1 => contradiction
    | case2 start c r hblank ih =>
      obtain ⟨before, rest, rfl, hsettled, hopen, rfl⟩ := ih h
      refine ⟨c :: before, rest, rfl, hsettled.blank hblank, hopen, ?_⟩
      rw [add_length_cons]
    | case3 start r hopen =>
      exact ⟨[], r, rfl, settled_nil, hopen, (Except.error.inj h).symm⟩
    | case4 start r inside after hclosed hblank ih =>
      obtain ⟨before, rest, rfl, hsettled, hopen, rfl⟩ := ih (map_eq_error.1 h)
      have hr := takeQuoted?_append hclosed
      refine ⟨'\'' :: (inside ++ before), rest, ?_,
        hsettled.quoted (takeQuoted?_inside hclosed before), hopen, ?_⟩
      · rw [← hr, List.cons_append, List.append_assoc]
      · rw [add_length_cons, List.length_append, ← Nat.add_assoc]
    | case5 start c r hblank hquote ih =>
      obtain ⟨before, rest, hdrop, hsettled, hopen, rfl⟩ := ih (map_eq_error.1 h)
      have hr := takeWord_append_dropWord r
      have hgapped := gapped_dropWord r
      rw [hdrop] at hr hgapped
      -- A word ends at a blank, so the quote is not right behind it.
      have hne : before ≠ [] := by
        rintro rfl
        have hblank := hgapped '\'' rfl
        contradiction
      have hgap := (gapped_append_iff hne _).1 hgapped
      refine ⟨c :: (takeWord r ++ before), rest, ?_,
        hsettled.word hquote (takeWord_solid hblank r) hgap hne, hopen, ?_⟩
      · rw [List.cons_append, List.append_assoc, hr]
      · rw [add_length_cons, List.length_append, ← Nat.add_assoc]
  · rintro ⟨before, rest, rfl, ⟨ts, hts, hlast⟩, hopen, rfl⟩
    rw [scan_append hts rfl (.inr hlast), scan_unclosed hopen]
    rfl

theorem Token.Stands.isIdent {own : List Char} {number : Nat} {t : Token} (h : t.Stands own number)
    (hquote : own[t.start]? = some '\'') : t.isIdent = true := by
  obtain ⟨hlt, heq⟩ := List.getElem?_eq_some_iff.1 hquote
  obtain ⟨n, hn⟩ : ∃ n, t.stop - t.start = n + 1 := ⟨t.stop - t.start - 1, by have := h.start_lt; omega⟩
  have hraw : t.raw.toList = '\'' :: (own.drop (t.start + 1)).take n := by
    rw [h.raw_eq, List.extract_eq_take_drop, hn, List.drop_eq_getElem_cons hlt, heq, List.take_succ_cons]
  simp only [Token.isIdent, hraw]

theorem eq_of_stop_eq {ts : List Token} (hordered : ts.Pairwise fun t u => t.stop ≤ u.start)
    (hlt : ∀ t ∈ ts, t.start < t.stop) {t u : Token} (ht : t ∈ ts) (hu : u ∈ ts)
    (h : t.stop = u.stop) : t = u := by
  obtain ⟨i, hi, rfl⟩ := List.mem_iff_getElem.1 ht
  obtain ⟨j, hj, rfl⟩ := List.mem_iff_getElem.1 hu
  have hpairs := List.pairwise_iff_getElem.1 hordered
  have hti := hlt _ ht
  have huj := hlt _ hu
  rcases Nat.lt_trichotomy i j with hij | rfl | hij
  · have hle := hpairs i j hi hj hij
    omega
  · rfl
  · have hle := hpairs j i hj hi hij
    omega

theorem settled_iff {number : Nat} {s : List Char} :
    Settled number 0 s ↔ ∃ ts, scan number 0 s = .ok ts ∧
      (s = [] ∨ (∃ c, s[s.length - 1]? = some c ∧ Text.isBlank c = true) ∨
        ∃ t ∈ ts, t.isIdent = true ∧ t.stop = s.length) := by
  refine exists_congr fun ts => and_congr_right fun hts => ?_
  have hsegments : Segmentation s 0 (ts.map Token.span) :=
    (segmentation_iff_cutInto [] s number _).2 ⟨ts, hts, rfl⟩
  have htoken : ∀ t ∈ ts, TokenSpan s (t.start, t.stop) :=
    fun t ht => hsegments.token _ (List.mem_map_of_mem ht)
  rw [Nat.zero_add]
  constructor
  · intro hlast
    by_cases hs : s = []
    · exact .inl hs
    · have hpos := List.length_pos_iff.2 hs
      have hin : s.length - 1 < s.length := by omega
      obtain ⟨c, hc⟩ : ∃ c, s[s.length - 1]? = some c := ⟨_, List.getElem?_eq_getElem hin⟩
      refine .inr ?_
      by_cases hblank : Text.isBlank c = true
      · exact .inl ⟨c, hc, hblank⟩
      · obtain ⟨span, hspan, hle, hlt⟩ :=
          hsegments.held (Nat.zero_le _) hc (Bool.eq_false_iff.2 hblank)
        obtain ⟨t, ht, rfl⟩ := List.mem_map.1 hspan
        have hle := (htoken t ht).stop_le
        have hstop : t.stop = s.length := by
          simp only [Token.span] at hle hlt
          omega
        exact .inr ⟨t, ht, hlast t ht hstop, hstop⟩
  · intro hends t ht hstop
    have hlt := (htoken t ht).start_lt
    simp only at hlt
    rcases hends with rfl | ⟨c, hc, hblank⟩ | ⟨u, hu, hident, hend⟩
    · rw [List.length_nil] at hstop
      omega
    · rcases (htoken t ht).kind with hquoted | hword
      · exact (scan_stands hts t ht).isIdent hquoted.opens
      · have hsolid := hword.solid (s.length - 1) c (by simp only; omega) (by simp only; omega) hc
        rw [hblank] at hsolid
        contradiction
    · have hordered := List.pairwise_map.1 hsegments.ordered
      have hpos : ∀ t ∈ ts, t.start < t.stop := fun t ht => (htoken t ht).start_lt
      rw [eq_of_stop_eq hordered hpos ht hu (hstop.trans hend.symm)]
      exact hident

/-- The first `s` characters can be cut into tokens, and no plain word reaches up to the end of them. -/
def ClearBefore (src : String) (number s : Nat) : Prop :=
  ∃ line, tokenize (String.ofList (src.toList.take s)) number = .ok line ∧
    (s = 0 ∨ (∃ c, src.toList[s - 1]? = some c ∧ Text.isBlank c = true) ∨
      ∃ t ∈ line.tokens, t.isIdent = true ∧ t.stop = s)

/-- The cut comes to a quote at `s` and cannot go on, as each quote behind it is taken by a backslash. -/
structure UnclosedAt (src : String) (number s : Nat) : Prop where
  clear : ClearBefore src number s
  quote : src.toList[s]? = some '\''
  unclosed : ∀ j, ¬ FreeQuote (src.toList.drop (s + 1)) j

theorem settled_take_iff {src : String} {number s : Nat} (hs : s < src.toList.length) :
    Settled number 0 (src.toList.take s) ↔ ClearBefore src number s := by
  have hlength : (src.toList.take s).length = s := List.length_take_of_le (Nat.le_of_lt hs)
  rw [settled_iff, hlength]
  have hempty : src.toList.take s = [] ↔ s = 0 := by rw [← List.length_eq_zero_iff, hlength]
  have hends : ∀ ts : List Token,
      (src.toList.take s = [] ∨
        (∃ c, (src.toList.take s)[s - 1]? = some c ∧ Text.isBlank c = true) ∨
          ∃ t ∈ ts, t.isIdent = true ∧ t.stop = s) ↔
      (s = 0 ∨ (∃ c, src.toList[s - 1]? = some c ∧ Text.isBlank c = true) ∨
        ∃ t ∈ ts, t.isIdent = true ∧ t.stop = s) := by
    intro ts
    rw [hempty]
    by_cases hzero : s = 0
    · simp only [hzero, true_or]
    · rw [List.getElem?_take_of_lt (by omega)]
  constructor
  · rintro ⟨ts, hts, h⟩
    exact ⟨⟨ts, number⟩, tokenize_eq_ok.2 ⟨ts, by rwa [String.toList_ofList], rfl⟩, (hends ts).1 h⟩
  · rintro ⟨line, hline, h⟩
    obtain ⟨ts, hts, rfl⟩ := tokenize_eq_ok.1 hline
    rw [String.toList_ofList] at hts
    exact ⟨ts, hts, (hends ts).2 h⟩

theorem unclosedAt_iff {src : String} {number s : Nat} :
    UnclosedAt src number s ↔ ∃ before rest, src.toList = before ++ '\'' :: rest ∧ before.length = s ∧
      Settled number 0 before ∧ takeQuoted? rest = none := by
  constructor
  · intro h
    obtain ⟨hlt, hquote⟩ := List.getElem?_eq_some_iff.1 h.quote
    refine ⟨src.toList.take s, src.toList.drop (s + 1), ?_, ?_, ?_, ?_⟩
    · rw [← hquote, ← List.drop_eq_getElem_cons hlt, List.take_append_drop]
    · exact List.length_take_of_le (Nat.le_of_lt hlt)
    · exact (settled_take_iff hlt).2 h.clear
    · exact takeQuoted?_eq_none_iff.2 h.unclosed
  · rintro ⟨before, rest, hsrc, rfl, hsettled, hopen⟩
    have hlt : before.length < src.toList.length := by
      rw [hsrc, List.length_append, List.length_cons]
      omega
    refine ⟨(settled_take_iff hlt).1 ?_, ?_, ?_⟩
    · rwa [hsrc, List.take_left]
    · rw [hsrc, getElem?_past]
    · rw [hsrc, drop_past]
      exact not_freeQuote_of_takeQuoted? hopen

theorem UnclosedAt.tokenize_eq {src : String} {number s : Nat} (h : UnclosedAt src number s) :
    tokenize src number = .error ⟨.ofRaw (src.toList.drop s) number s⟩ := by
  obtain ⟨before, rest, hsrc, rfl, hsettled, hopen⟩ := unclosedAt_iff.1 h
  rw [tokenize_eq_error, hsrc, List.drop_left, scan_eq_error_iff]
  exact ⟨before, rest, rfl, hsettled, hopen, by rw [Nat.zero_add]⟩

theorem exists_unclosedAt {src : String} {number : Nat} {e : UnclosedQuote}
    (h : tokenize src number = .error e) : ∃ s, UnclosedAt src number s := by
  obtain ⟨before, rest, hsrc, hsettled, hopen, _⟩ := scan_eq_error_iff.1 (tokenize_eq_error.1 h)
  exact ⟨before.length, unclosedAt_iff.2 ⟨before, rest, hsrc, rfl, hsettled, hopen⟩⟩

/-- A line cannot be cut into tokens if and only if the cut comes to a quote that nothing closes. There is one such
quote then, and the error has the line from the quote on, whatever it ends in. -/
theorem tokenize_unclosed (src : String) (number : Nat) :
    ((∃ e, tokenize src number = .error e) ↔ ∃ s, UnclosedAt src number s) ∧
    (∀ s s', UnclosedAt src number s → UnclosedAt src number s' → s = s') ∧
    ∀ e s, tokenize src number = .error e → UnclosedAt src number s →
      e.token.start = s ∧ e.token.stop = src.toList.length ∧
        e.token.raw = String.ofList (src.toList.drop s) ∧ e.token.line = number := by
  refine ⟨⟨?_, ?_⟩, ?_, ?_⟩
  · rintro ⟨e, he⟩
    exact exists_unclosedAt he
  · rintro ⟨s, hs⟩
    exact ⟨_, hs.tokenize_eq⟩
  · intro s s' hs hs'
    have hsame := Except.error.inj (hs.tokenize_eq.symm.trans hs'.tokenize_eq)
    exact congrArg (fun e => e.token.start) hsame
  · intro e s he hs
    obtain rfl := Except.error.inj (he.symm.trans hs.tokenize_eq)
    have hend := (tokenize_unclosed_stands he).2
    exact ⟨rfl, hend, rfl, rfl⟩

-- The token goes to the end of the line even if a backslash there has nothing to take.
example : tokenize "a'b 'c''d\\" 7 = .error ⟨.ofRaw ['\'', 'd', '\\'] 7 7⟩ := by cbv

end Rider
