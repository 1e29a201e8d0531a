import Rider.Proofs.Lists
import Rider.Proofs.Reading.Acceptance
import Rider.Proofs.Statement.Resolution

set_option autoImplicit false

namespace Rider

/-- A fault without what it tells. -/
inductive FaultKind
  | unclosed
  | mismatched
  | unresolved
  | unknownLine
  | unregistered
  | handler
  | interpreter
deriving DecidableEq

def Fault.kind : Fault → FaultKind
  | .unclosed .. => .unclosed
  | .mismatched .. => .mismatched
  | .unresolved .. => .unresolved
  | .unknownLine .. => .unknownLine
  | .unregistered .. => .unregistered
  | .handler .. => .handler
  | .interpreter .. => .interpreter

theorem Source.line?_eq_none {source : Source} {n : Nat} :
    source.line? n = none ↔ n = 0 ∨ source.size < n := by
  cases n with
  | zero => simp [line?]
  | succ n =>
    rw [line?, List.getElem?_eq_none_iff, size]
    omega

theorem Source.bounds_of_line? {source : Source} {n : Nat} {own : List Char}
    (h : source.line? n = some own) : 1 ≤ n ∧ n ≤ source.size := by
  have hn : ¬(n = 0 ∨ source.size < n) := by
    rw [← line?_eq_none, h]
    exact Option.some_ne_none own
  omega

namespace Session

variable {σ : Type}

/-- What parsing an ignored line can give, and when. -/
inductive Parsed (s : Session σ) (source : Source) (entry : Ignored) : Except Fault Located → Prop
  | unknownLine : source.line? entry.line = none →
      Parsed s source entry (.error (.unknownLine entry.line source.size entry.text))
  | unclosed {own : List Char} {e : UnclosedQuote} : source.line? entry.line = some own →
      tokenize (chosenText own entry.text) entry.line = .error e →
      Parsed s source entry
        (.error (.unclosed entry.line e (Report.unclosed source e s.config.contextLines)))
  | mismatched {own : List Char} {tokens : TokenLine} : source.line? entry.line = some own →
      tokenize (chosenText own entry.text) entry.line = .ok tokens →
      (judge s.registry.shapes tokens).isMatch = false →
      Parsed s source entry
        (.error (.mismatched entry.line (judge s.registry.shapes tokens).mismatches
          (Report.mismatched source (judge s.registry.shapes tokens) s.config.contextLines)))
  | statement {own : List Char} {tokens : TokenLine} {phase : Phase} {c : Reading}
      {statement : Statement} : source.line? entry.line = some own →
      tokenize (chosenText own entry.text) entry.line = .ok tokens →
      (judge s.registry.shapes tokens).isMatch = true →
      (judge s.registry.shapes tokens).phase = some phase →
      (judge s.registry.shapes tokens).readings = [c] → c.resolve = .ok statement →
      statement.shape ∈ s.registry.shapes →
      Parsed s source entry (.ok ⟨entry.line, phase, statement⟩)

theorem parseTokens_of_isMatch {s : Session σ} {tokens : TokenLine}
    (h : (judge s.registry.shapes tokens).isMatch = true) (source : Source) (n : Nat) :
    ∃ phase c statement, (judge s.registry.shapes tokens).phase = some phase ∧
      (judge s.registry.shapes tokens).readings = [c] ∧ c.resolve = .ok statement ∧
      statement.shape ∈ s.registry.shapes ∧
      s.parseTokens source n tokens = .ok ⟨n, phase, statement⟩ := by
  obtain ⟨c, hc⟩ := Registry.readings_of_isMatch h
  have hparts := h
  simp only [Verdict.isMatch, hc, Bool.and_eq_true, Option.isSome_iff_exists, List.any_cons,
    List.any_nil, Bool.or_false, List.isEmpty_iff] at hparts
  obtain ⟨⟨⟨phase, hphase⟩, -⟩, hclean⟩ := hparts
  obtain ⟨hs, statement, hresolve, hshape⟩ :=
    Registry.resolve_of_clean (hc ▸ List.mem_singleton_self c) hclean
  refine ⟨phase, c, statement, hphase, hc, hresolve, hshape ▸ hs, ?_⟩
  simp only [parseTokens, h, if_true, hphase, hc, hresolve]

theorem parsed_of_parse {s : Session σ} {source : Source} {entry : Ignored}
    {r : Except Fault Located} (h : s.parse source entry = r) : s.Parsed source entry r := by
  subst h
  cases hown : source.line? entry.line with
  | none =>
    simp only [parse, hown]
    exact .unknownLine hown
  | some own =>
    cases htokens : tokenize (chosenText own entry.text) entry.line with
    | error e =>
      simp only [parse, hown, htokens]
      exact .unclosed hown htokens
    | ok tokens =>
      by_cases hmatch : (judge s.registry.shapes tokens).isMatch = true
      · -- The one reading of a matching line resolves, so no fourth fault is left.
        obtain ⟨phase, c, statement, hphase, hc, hresolve, hshape, hparse⟩ :=
          parseTokens_of_isMatch hmatch source entry.line
        simp only [parse, hown, htokens, hparse]
        exact .statement hown htokens hmatch hphase hc hresolve hshape
      · simp only [parse, hown, htokens, parseTokens, hmatch, Bool.false_eq_true, if_false]
        exact .mismatched hown htokens (Bool.not_eq_true _ ▸ hmatch)

variable {s : Session σ} {source : Source} {entry : Ignored}

theorem line_of_parse {l : Located} (h : s.parse source entry = .ok l) : l.line = entry.line := by
  cases parsed_of_parse h
  rfl

theorem registered_of_parse {l : Located} (h : s.parse source entry = .ok l) :
    l.statement.shape ∈ s.registry.shapes := by
  cases parsed_of_parse h
  assumption

/-- The line of a contract that an ignored line stands for begins with the word of the phase. -/
def BeginsWith (source : Source) (entry : Ignored) (phase : Phase) : Prop :=
  ∃ own line first rest, source.line? entry.line = some own ∧
    tokenize (chosenText own entry.text) entry.line = .ok line ∧ line.tokens = first :: rest ∧
    (phase = .before ∧ first.name = "given" ∨ phase = .after ∧ first.name = "then")

theorem beginsWith_of_parse {l : Located} (h : s.parse source entry = .ok l) :
    BeginsWith source entry l.phase := by
  cases parsed_of_parse h with
  | @statement own tokens phase _ _ hown htokens _ hphase =>
    obtain ⟨first, hfirst, hword⟩ := openingPhase_eq_ok.1 (judge_phase.1 hphase)
    have hname : first.name = phase.word := by
      simp only [Token.isWord, Bool.and_eq_true, beq_iff_eq] at hword
      exact hword.2
    obtain ⟨rest, hrest⟩ : ∃ rest, tokens.tokens = first :: rest := by
      rw [← List.head?_eq_getElem?] at hfirst
      exact ⟨_, (List.cons_head?_tail hfirst).symm⟩
    refine ⟨own, tokens, first, rest, hown, htokens, hrest, ?_⟩
    cases phase with
    | before => exact .inl ⟨rfl, hname⟩
    | after => exact .inr ⟨rfl, hname⟩

/-- What becomes of an ignored line depends on the first check that it fails. -/
theorem parse_iff (s : Session σ) (source : Source) (entry : Ignored) :
    ((∃ f, s.parse source entry = .error f ∧ f.kind = .unknownLine) ↔
      entry.line = 0 ∨ source.size < entry.line) ∧
    ((∃ f, s.parse source entry = .error f ∧ f.kind = .unclosed) ↔
      ∃ own e, source.line? entry.line = some own ∧
        tokenize (chosenText own entry.text) entry.line = .error e) ∧
    ((∃ f, s.parse source entry = .error f ∧ f.kind = .mismatched) ↔
      ∃ own tokens, source.line? entry.line = some own ∧
        tokenize (chosenText own entry.text) entry.line = .ok tokens ∧
        (judge s.registry.shapes tokens).isMatch = false) ∧
    ((∃ l, s.parse source entry = .ok l) ↔
      ∃ own tokens, source.line? entry.line = some own ∧
        tokenize (chosenText own entry.text) entry.line = .ok tokens ∧
        (judge s.registry.shapes tokens).isMatch = true) := by
  rw [← Source.line?_eq_none]
  generalize hr : s.parse source entry = r
  cases parsed_of_parse hr with
  | unknownLine hown => simp [Fault.kind, hown]
  | unclosed hown htokens => simp [Fault.kind, hown, htokens]
  | mismatched hown htokens hmatch => simp [Fault.kind, hown, htokens, hmatch]
  | statement hown htokens hmatch => simp [hown, htokens, hmatch]

theorem line?_of_parse {f : Fault} (h : s.parse source entry = .error f) :
    f.kind ∈ [.unknownLine, .unclosed, .mismatched] ∧ f.line? = some entry.line ∧
      (f.kind ≠ .unknownLine → 1 ≤ entry.line ∧ entry.line ≤ source.size) := by
  cases parsed_of_parse h with
  | unknownLine => exact ⟨by simp [Fault.kind], rfl, fun hne => absurd rfl hne⟩
  | unclosed hown => exact ⟨by simp [Fault.kind], rfl, fun _ => Source.bounds_of_line? hown⟩
  | mismatched hown => exact ⟨by simp [Fault.kind], rfl, fun _ => Source.bounds_of_line? hown⟩

theorem parseAll_eq_ok {entries : List Ignored} {statements : List Located} :
    s.parseAll source entries = .ok statements ↔
      List.Forall₂ (fun entry l => s.parse source entry = .ok l) entries statements := by
  induction entries generalizing statements with
  | nil => simp [parseAll, eq_comm]
  | cons entry entries ih =>
    -- A list of statements comes out exactly if its head and its tail do.
    rw [parseAll, List.forall₂_cons_left_iff]
    simp only [← ih]
    cases s.parse source entry with
    | error f => simp
    | ok l =>
      simp only [map_eq_ok]
      simp [eq_comm]

theorem parseAll_eq_error {entries : List Ignored} {f : Fault} :
    s.parseAll source entries = .error f ↔ ∃ done entry rest, entries = done ++ entry :: rest ∧
      (∀ d ∈ done, ∃ l, s.parse source d = .ok l) ∧ s.parse source entry = .error f := by
  rw [exists_comm]
  induction entries with
  | nil => simp [parseAll]
  | cons first entries ih =>
    -- Either the first entry has the fault, or it is a statement and a later one has it.
    simp only [exists_cut_cons, exists_or, exists_eq_left', exists_and_left, ← ih]
    cases hfirst : s.parse source first with
    | error g => simp [parseAll, hfirst]
    | ok l => simp [parseAll, hfirst, map_eq_error]

end Session

end Rider
