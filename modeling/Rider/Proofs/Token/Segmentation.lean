import Rider.Proofs.Token.Layout
import Rider.Source

set_option autoImplicit false

/-!
Lines cut into tokens, said without cutting them: spans in order, blanks outside the spans, and in each span an
identifier up to the quote that closes it or a word up to a blank. A line can be cut so in at most one way,
and the tokens are that way.
-/

namespace Rider

def Token.span (t : Token) : TextSpan := (t.start, t.stop)

theorem Token.ofRaw_span (c : Char) (s : List Char) (line start : Nat) :
    (Token.ofRaw (c :: s) line start).span = (start, start + 1 + s.length) := by
  rw [Token.span, Token.ofRaw, add_length_cons]

/-- The span of an identifier: a quote and what follows it up to the first quote that no backslash takes. -/
structure QuotedSpan (own : List Char) (span : TextSpan) : Prop where
  opens : own[span.1]? = some '\''
  closes : ∃ j, FirstFreeQuote (own.drop (span.1 + 1)) j ∧ span.2 = span.1 + j + 2

structure WordSpan (own : List Char) (span : TextSpan) : Prop where
  unquoted : own[span.1]? ≠ some '\''
  solid : ∀ i c, span.1 ≤ i → i < span.2 → own[i]? = some c → Text.isBlank c = false
  ends : ∀ c, own[span.2]? = some c → Text.isBlank c = true

structure TokenSpan (own : List Char) (span : TextSpan) : Prop where
  start_lt : span.1 < span.2
  stop_le : span.2 ≤ own.length
  kind : QuotedSpan own span ∨ WordSpan own span

/-- The spans cut up the line from `start` on. -/
structure Segmentation (own : List Char) (start : Nat) (spans : List TextSpan) : Prop where
  start_le : ∀ span ∈ spans, start ≤ span.1
  token : ∀ span ∈ spans, TokenSpan own span
  ordered : spans.Pairwise fun p q => p.2 ≤ q.1
  outside : ∀ i c, start ≤ i → own[i]? = some c →
    (∀ span ∈ spans, ¬ (span.1 ≤ i ∧ i < span.2)) → Text.isBlank c = true

section
variable {own : List Char} {start stop : Nat} {spans : List TextSpan}

theorem TokenSpan.solid (h : TokenSpan own (start, stop)) :
    ∃ c, own[start]? = some c ∧ Text.isBlank c = false := by
  have hlt : start < own.length := Nat.lt_of_lt_of_le h.start_lt h.stop_le
  refine ⟨own[start], List.getElem?_eq_getElem hlt, ?_⟩
  rcases h.kind with hquoted | hword
  · have hquote : own[start] = '\'' :=
      Option.some.inj ((List.getElem?_eq_getElem hlt).symm.trans hquoted.opens)
    rw [hquote]
    decide
  · exact hword.solid start _ (Nat.le_refl start) h.start_lt (List.getElem?_eq_getElem hlt)

theorem WordSpan.stop_le {stop' : Nat} (h : WordSpan own (start, stop))
    (h' : WordSpan own (start, stop')) (hlt : start < stop) (hle : stop' ≤ own.length) :
    stop' ≤ stop := by
  by_contra hgt
  have hin : stop < own.length := by omega
  have hget := List.getElem?_eq_getElem hin
  have hblank := h.ends _ hget
  have hsolid := h'.solid stop _ (Nat.le_of_lt hlt) (by omega) hget
  rw [hblank] at hsolid
  contradiction

theorem TokenSpan.stop_unique {stop' : Nat} (h : TokenSpan own (start, stop))
    (h' : TokenSpan own (start, stop')) : stop = stop' := by
  rcases h.kind with hquoted | hword <;> rcases h'.kind with hquoted' | hword'
  · obtain ⟨j, hj, hstop⟩ := hquoted.closes
    obtain ⟨j', hj', hstop'⟩ := hquoted'.closes
    have hjj := hj.unique hj'
    simp only at hstop hstop'
    omega
  · exact absurd hquoted.opens hword'.unquoted
  · exact absurd hquoted'.opens hword.unquoted
  · have hle := hword.stop_le hword' h.start_lt h'.stop_le
    have hge := hword'.stop_le hword h'.start_lt h.stop_le
    omega

theorem segmentation_nil_iff (h : own.length ≤ start) : Segmentation own start spans ↔ spans = [] := by
  constructor
  · intro hspans
    refine List.eq_nil_iff_forall_not_mem.2 ?_
    intro span hspan
    have hstart := hspans.start_le span hspan
    have htoken := hspans.token span hspan
    have hlt := Nat.lt_of_lt_of_le htoken.start_lt htoken.stop_le
    omega
  · rintro rfl
    refine ⟨List.forall_mem_nil _, List.forall_mem_nil _, .nil, ?_⟩
    intro i c hi hc
    rw [List.getElem?_eq_none (Nat.le_trans h hi)] at hc
    contradiction

theorem segmentation_blank_iff {c : Char} (hc : own[start]? = some c) (hblank : Text.isBlank c = true) :
    Segmentation own start spans ↔ Segmentation own (start + 1) spans := by
  constructor
  · intro h
    refine ⟨?_, h.token, h.ordered, fun i d hi => h.outside i d (by omega)⟩
    intro span hspan
    have hle := h.start_le span hspan
    -- No token begins with a blank.
    have hne : start ≠ span.1 := by
      intro heq
      obtain ⟨d, hd, hsolid⟩ := (h.token span hspan).solid
      rw [← heq, hc, Option.some.injEq] at hd
      rw [← hd, hblank] at hsolid
      contradiction
    omega
  · intro h
    refine ⟨?_, h.token, h.ordered, ?_⟩
    · intro span hspan
      have hle := h.start_le span hspan
      omega
    · intro i d hi hd hout
      by_cases heq : i = start
      · rw [heq, hc, Option.some.injEq] at hd
        rw [← hd, hblank]
      · exact h.outside i d (by omega) hd hout

theorem Segmentation.held {c : Char} {i : Nat} (h : Segmentation own start spans) (hi : start ≤ i)
    (hc : own[i]? = some c) (hsolid : Text.isBlank c = false) :
    ∃ span ∈ spans, span.1 ≤ i ∧ i < span.2 := by
  by_contra hnone
  have hout : ∀ span ∈ spans, ¬ (span.1 ≤ i ∧ i < span.2) :=
    fun span hspan hin => hnone ⟨span, hspan, hin⟩
  have hblank := h.outside i c hi hc hout
  rw [hsolid] at hblank
  contradiction

/-- The span that holds the first character, if that is no blank, is the first one and begins there. -/
theorem Segmentation.head {c : Char} (h : Segmentation own start spans) (hc : own[start]? = some c)
    (hsolid : Text.isBlank c = false) :
    ∃ stop rest, spans = (start, stop) :: rest ∧ TokenSpan own (start, stop) ∧
      Segmentation own stop rest := by
  obtain ⟨held, hmem, hle, hlt⟩ := h.held (Nat.le_refl start) hc hsolid
  cases spans with
  | nil => contradiction
  | cons span rest =>
    obtain ⟨hbefore, hordered⟩ := List.pairwise_cons.1 h.ordered
    have hstart := h.start_le span List.mem_cons_self
    have htoken := h.token span List.mem_cons_self
    have hfirst : span.1 = start := by
      rcases List.mem_cons.1 hmem with rfl | hrest
      · omega
      · have hafter := hbefore held hrest
        have hspan := htoken.start_lt
        omega
    obtain ⟨first, stop⟩ := span
    subst hfirst
    refine ⟨stop, rest, rfl, htoken, hbefore, ?_, hordered, ?_⟩
    · exact fun s hs => h.token s (List.mem_cons_of_mem _ hs)
    · intro i d hi hd hout
      have hpast : ¬ (first ≤ i ∧ i < stop) := by omega
      exact h.outside i d (by have := htoken.start_lt; omega) hd
        (List.forall_mem_cons.2 ⟨hpast, hout⟩)

theorem segmentation_token_iff (htoken : TokenSpan own (start, stop)) :
    Segmentation own start spans ↔ ∃ rest, spans = (start, stop) :: rest ∧ Segmentation own stop rest := by
  constructor
  · intro h
    obtain ⟨c, hc, hsolid⟩ := htoken.solid
    obtain ⟨stop', rest, hspans, htoken', hrest⟩ := h.head hc hsolid
    obtain rfl := htoken.stop_unique htoken'
    exact ⟨rest, hspans, hrest⟩
  · rintro ⟨rest, rfl, hrest⟩
    have hlt : start < stop := htoken.start_lt
    refine ⟨?_, List.forall_mem_cons.2 ⟨htoken, hrest.token⟩,
      List.pairwise_cons.2 ⟨hrest.start_le, hrest.ordered⟩, ?_⟩
    · refine List.forall_mem_cons.2 ⟨Nat.le_refl start, ?_⟩
      intro span hspan
      have hle := hrest.start_le span hspan
      omega
    · intro i c hi hc hout
      obtain ⟨hfirst, hlater⟩ := List.forall_mem_cons.1 hout
      exact hrest.outside i c (by simp only at hfirst; omega) hc hlater

end

section
variable {before rest : List Char} {c : Char}

theorem tokenSpan_quoted {inside after : List Char} (h : takeQuoted? rest = some (inside, after)) :
    TokenSpan (before ++ '\'' :: rest) (before.length, before.length + 1 + inside.length) := by
  have hlength : inside.length ≤ rest.length := by
    rw [← takeQuoted?_append h, List.length_append]
    omega
  obtain ⟨j, hj, hinside⟩ := firstFreeQuote_of_takeQuoted? h
  refine ⟨?_, ?_, .inl ⟨getElem?_past before rest '\'', j, ?_, ?_⟩⟩
  · simp only
    omega
  · simp only [List.length_append, List.length_cons]
    omega
  · rwa [drop_past]
  · simp only
    omega

theorem not_tokenSpan_unclosed (h : takeQuoted? rest = none) (stop : Nat) :
    ¬ TokenSpan (before ++ '\'' :: rest) (before.length, stop) := by
  intro htoken
  rcases htoken.kind with hquoted | hword
  · obtain ⟨j, hj, _⟩ := hquoted.closes
    rw [drop_past] at hj
    exact not_freeQuote_of_takeQuoted? h j hj.1
  · exact hword.unquoted (getElem?_past before rest '\'')

theorem tokenSpan_word (hc : ¬ Text.isBlank c = true) (hquote : c ≠ '\'') :
    TokenSpan (before ++ c :: rest) (before.length, before.length + 1 + (takeWord rest).length) := by
  have hsplit : before ++ c :: rest = (before ++ c :: takeWord rest) ++ dropWord rest := by
    rw [List.append_assoc, List.cons_append, takeWord_append_dropWord]
  have hstop : (before ++ c :: takeWord rest).length = before.length + 1 + (takeWord rest).length := by
    rw [List.length_append, add_length_cons]
  refine ⟨?_, ?_, .inr ⟨?_, ?_, ?_⟩⟩
  · simp only
    omega
  · rw [hsplit, List.length_append, hstop]
    exact Nat.le_add_right _ _
  · rw [getElem?_past]
    exact fun h => hquote (Option.some.inj h)
  · intro i d hi hlt hd
    simp only at hi hlt
    rw [hsplit, List.getElem?_append_left (by omega), List.getElem?_append_right hi] at hd
    exact takeWord_solid hc rest d (List.mem_of_getElem? hd)
  · intro d hd
    simp only at hd
    rw [← hstop, hsplit, List.getElem?_append_right (Nat.le_refl _), Nat.sub_self,
      ← List.head?_eq_getElem?] at hd
    exact gapped_dropWord rest d hd

end

def CutInto (r : Except UnclosedQuote (List Token)) (spans : List TextSpan) : Prop :=
  ∃ ts, r = .ok ts ∧ ts.map Token.span = spans

theorem cutInto_map_cons {r : Except UnclosedQuote (List Token)} {t : Token} {spans : List TextSpan} :
    CutInto (r.map (t :: ·)) spans ↔ ∃ rest, spans = t.span :: rest ∧ CutInto r rest := by
  constructor
  · rintro ⟨ts, hts, rfl⟩
    obtain ⟨us, hus, rfl⟩ := map_eq_ok.1 hts
    exact ⟨us.map Token.span, List.map_cons, us, hus, rfl⟩
  · rintro ⟨rest, rfl, us, hus, rfl⟩
    exact ⟨t :: us, map_eq_ok.2 ⟨us, hus, rfl⟩, List.map_cons⟩

theorem segmentation_iff_cutInto (before s : List Char) (number : Nat) (spans : List TextSpan) :
    Segmentation (before ++ s) before.length spans ↔ CutInto (scan number before.length s) spans := by
  generalize hstart : before.length = start
  fun_induction scan number start s generalizing before spans with
  | case1 =>
    rw [segmentation_nil_iff (by rw [List.append_nil, hstart])]
    constructor
    · rintro rfl
      exact ⟨[], rfl, rfl⟩
    · rintro ⟨ts, hts, rfl⟩
      rw [← Except.ok.inj hts, List.map_nil]
  | case2 start c rest hblank ih =>
    have hbefore : (before ++ [c]).length = start + 1 := by rw [List.length_append, hstart]; rfl
    subst hstart
    rw [segmentation_blank_iff (getElem?_past before rest c) hblank, ← ih (before ++ [c]) spans hbefore,
      ← List.append_cons]
  | case3 start rest hopen hblank =>
    subst hstart
    constructor
    · intro h
      obtain ⟨stop, _, _, htoken, _⟩ := h.head (getElem?_past before rest '\'') (by decide)
      exact absurd htoken (not_tokenSpan_unclosed hopen stop)
    · rintro ⟨ts, hts, _⟩
      contradiction
  | case4 start rest inside after hclosed hblank ih =>
    subst hstart
    have hlength : (before ++ '\'' :: inside).length = before.length + 1 + inside.length := by
      rw [List.length_append, add_length_cons]
    have hih := fun spans => ih (before ++ '\'' :: inside) spans hlength
    rw [List.append_assoc, List.cons_append, takeQuoted?_append hclosed] at hih
    rw [segmentation_token_iff (tokenSpan_quoted hclosed), cutInto_map_cons, Token.ofRaw_span]
    exact exists_congr fun later => and_congr_right fun _ => hih later
  | case5 start c rest hblank hquote ih =>
    subst hstart
    have hlength : (before ++ c :: takeWord rest).length =
        before.length + 1 + (takeWord rest).length := by
      rw [List.length_append, add_length_cons]
    have hih := fun spans => ih (before ++ c :: takeWord rest) spans hlength
    rw [List.append_assoc, List.cons_append, takeWord_append_dropWord] at hih
    rw [segmentation_token_iff (tokenSpan_word hblank hquote), cutInto_map_cons, Token.ofRaw_span]
    exact exists_congr fun later => and_congr_right fun _ => hih later

/-- A line is cut into tokens if and only if there is a way to cut it up, and the tokens are that way. Each of
them is the characters of its span and bears their lower-cased form as its name. -/
theorem tokenize_segmentation (src : String) (number : Nat) :
    (∀ line, tokenize src number = .ok line → line.number = number ∧
      Segmentation src.toList 0 (line.tokens.map Token.span) ∧
      ∀ t ∈ line.tokens, t.Stands src.toList number ∧
        t.name = String.ofList (Text.lowerCase t.raw.toList)) ∧
    ∀ spans, Segmentation src.toList 0 spans →
      ∃ line, tokenize src number = .ok line ∧ line.tokens.map Token.span = spans := by
  have hcut := segmentation_iff_cutInto [] src.toList number
  rw [List.nil_append, List.length_nil] at hcut
  refine ⟨?_, ?_⟩
  · intro line h
    obtain ⟨hnumber, hstands⟩ := tokenize_stands h
    obtain ⟨ts, hts, rfl⟩ := tokenize_eq_ok.1 h
    refine ⟨rfl, (hcut _).2 ⟨ts, hts, rfl⟩, ?_⟩
    intro t ht
    obtain ⟨_, start, hof⟩ := scan_lexemes hts t ht
    exact ⟨hstands t ht, congrArg Token.name hof⟩
  · intro spans h
    obtain ⟨ts, hts, hspans⟩ := (hcut spans).1 h
    exact ⟨⟨ts, number⟩, tokenize_eq_ok.2 ⟨ts, hts, rfl⟩, hspans⟩

-- An identifier ends where it is closed, also in front of a word; a quote inside a word is part of the
-- word.
example : (tokenize "'it\\'s'x a'b c'" 1).map (·.tokens.map Token.span) =
    .ok [(0, 7), (7, 8), (9, 12), (13, 15)] := by cbv

end Rider
