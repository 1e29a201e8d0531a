import Rider.Context
import Rider.Proofs.Lists

set_option autoImplicit false

namespace Rider

namespace Json

/-- The texts that a value gives: itself, or its items in their order. -/
inductive Gives : Json → List String → Prop
  | one (s : String) : Gives (.text s) [s]
  | several (ss : List String) : Gives (.list (ss.map .text)) ss

theorem ofText?_eq_some {v : Json} {s : String} : v.ofText? = some s ↔ v = .text s := by
  cases v <;> simp [ofText?]

theorem mapM_ofText?_eq_some {items : List Json} {texts : List String} :
    items.mapM ofText? = some texts ↔ items = texts.map .text := by
  induction items generalizing texts with
  | nil => simp [eq_comm]
  | cons item items ih =>
    constructor
    · intro h
      rw [List.mapM_cons] at h
      obtain ⟨s, hs, h⟩ := Option.bind_eq_some_iff.1 h
      obtain ⟨rest, hrest, h⟩ := Option.bind_eq_some_iff.1 h
      obtain rfl := Option.some.inj h
      rw [List.map_cons, ofText?_eq_some.1 hs, ih.1 hrest]
    · intro h
      cases texts with
      | nil => contradiction
      | cons s rest =>
        obtain ⟨rfl, hrest⟩ := List.cons.inj h
        rw [List.mapM_cons, ih.2 hrest]
        rfl

theorem texts?_eq_some {v : Json} {texts : List String} : v.texts? = some texts ↔ v.Gives texts := by
  constructor
  · intro h
    cases v with
    | text s =>
      obtain rfl := Option.some.inj h
      exact .one s
    | list items =>
      rw [mapM_ofText?_eq_some.1 h]
      exact .several texts
    | _ => contradiction
  · intro h
    cases h with
    | one s => rfl
    | several ss => exact mapM_ofText?_eq_some.2 rfl

theorem not_gives_of_item {before after : List Json} {item : Json} (h : ∀ s, item ≠ .text s)
    (texts : List String) : ¬ Gives (.list (before ++ item :: after)) texts := by
  intro hgives
  have hitems := mapM_ofText?_eq_some.1 (texts?_eq_some.2 hgives)
  have hmem : item ∈ texts.map Json.text := hitems ▸ List.mem_append_right _ List.mem_cons_self
  obtain ⟨s, -, hs⟩ := List.mem_map.1 hmem
  exact h s hs.symm

end Json

namespace Context

variable (c : Context)

/-- The answer to a handler that asks for the targets of a clause. -/
structure Answers (clause : Clause) (keyword : String)
    (answer : Except ContextError (List String)) : Prop where
  ok : ∀ texts, answer = .ok texts ↔ c.statement.clause = clause ∧ ∃ target value,
    c.statement.target = some target ∧ c.data.get? target = some value ∧ value.Gives texts
  error : ∀ e, answer = .error e ↔
    (e = .missingTarget keyword ∧ (c.statement.clause ≠ clause ∨ c.statement.target = none)) ∨
      ∃ target, e = .invalidTarget keyword target ∧ c.statement.clause = clause ∧
        c.statement.target = some target ∧
        ∀ value texts, c.data.get? target = some value → ¬ value.Gives texts
  oneItem : ∀ target before item after, c.statement.clause = clause →
    c.statement.target = some target →
    c.data.get? target = some (.list (before ++ item :: after)) → (∀ s, item ≠ .text s) →
    answer = .error (.invalidTarget keyword target)

theorem targets_eq_ok {clause : Clause} {texts : List String} :
    c.targets clause = .ok texts ↔ c.statement.clause = clause ∧ ∃ target,
      c.statement.target = some target ∧ (c.data.get? target).bind Json.texts? = some texts := by
  unfold targets
  cases c.statement.target with
  | none => simp
  | some target =>
    by_cases hclause : c.statement.clause = clause
    · cases htexts : (c.data.get? target).bind Json.texts? <;> simp [hclause, htexts]
    · simp [hclause]

theorem targets_eq_error {clause : Clause} {e : ContextError} :
    c.targets clause = .error e ↔
      (e = .missingTarget (clause.keyword?.getD "open") ∧
        (c.statement.clause ≠ clause ∨ c.statement.target = none)) ∨
      ∃ target, e = .invalidTarget (clause.keyword?.getD "open") target ∧
        c.statement.clause = clause ∧ c.statement.target = some target ∧
        (c.data.get? target).bind Json.texts? = none := by
  unfold targets
  cases c.statement.target with
  | none => simp [@eq_comm _ e]
  | some target =>
    by_cases hclause : c.statement.clause = clause
    · simp only [if_pos hclause]
      cases htexts : (c.data.get? target).bind Json.texts? with
      | some texts =>
        refine ⟨nofun, ?_⟩
        rintro (⟨-, hother | hnone⟩ | ⟨t, -, -, ht, hnone⟩)
        · exact absurd hclause hother
        · contradiction
        · obtain rfl := Option.some.inj ht
          exact absurd (htexts.symm.trans hnone) nofun
      | none =>
        rw [Except.error.injEq]
        constructor
        · rintro rfl
          exact .inr ⟨target, rfl, hclause, rfl, htexts⟩
        · rintro (⟨-, hother | hnone⟩ | ⟨t, rfl, -, ht, -⟩)
          · exact absurd hclause hother
          · contradiction
          · rw [Option.some.inj ht]
    · simp [hclause, @eq_comm _ e]

theorem bind_texts?_eq_some {target : String} {texts : List String} :
    (c.data.get? target).bind Json.texts? = some texts ↔
      ∃ value, c.data.get? target = some value ∧ value.Gives texts := by
  simp only [Option.bind_eq_some_iff, Json.texts?_eq_some]

theorem bind_texts?_eq_none {target : String} :
    (c.data.get? target).bind Json.texts? = none ↔
      ∀ value texts, c.data.get? target = some value → ¬ value.Gives texts := by
  simp only [Option.eq_none_iff_forall_ne_some, ne_eq, c.bind_texts?_eq_some, not_exists, not_and]
  exact forall_comm

theorem answers_targets (clause : Clause) :
    c.Answers clause (clause.keyword?.getD "open") (c.targets clause) where
  ok texts := by
    simp only [c.targets_eq_ok, c.bind_texts?_eq_some, exists_and_left]
  error e := by
    simp only [c.targets_eq_error, c.bind_texts?_eq_none]
  oneItem target before item after hclause htarget hvalue hitem := by
    refine c.targets_eq_error.2 (.inr ⟨target, rfl, hclause, htarget, ?_⟩)
    refine c.bind_texts?_eq_none.2 fun value texts hget => ?_
    obtain rfl := Option.some.inj (hvalue.symm.trans hget)
    exact Json.not_gives_of_item hitem texts

theorem get?_eq_some {name : String} {v : Json} :
    c.get? name = some v ↔
      ∃ key, c.statement.bindings.get? name = some key ∧ c.data.get? key = some v :=
  Option.bind_eq_some_iff

theorem fetch_eq_ok {name : String} {v : Json} : c.fetch name = .ok v ↔ c.get? name = some v := by
  unfold fetch
  cases c.get? name <;> simp

theorem fetch_eq_error {name : String} {e : ContextError} :
    c.fetch name = .error e ↔ e = .missingParam name ∧ c.get? name = none := by
  unfold fetch
  cases c.get? name <;> simp [eq_comm]

section
variable {α : Type} (d : Json.Decoder α)

def required (name : String) : Option α → Except ContextError α
  | some a => .ok a
  | none => .error (.missingParam name)

theorem getAs_of_none {name : String} (h : c.get? name = none) : c.getAs d name = .ok none := by
  simp only [getAs, h]

theorem getAs_of_some {name : String} {v : Json} (h : c.get? name = some v) :
    c.getAs d name = (decodeParam d name v).map some := by
  simp only [getAs, h]

theorem fetchAs_of_none {name : String} (h : c.get? name = none) :
    c.fetchAs d name = .error (.missingParam name) := by
  simp only [fetchAs, c.fetch_eq_error.2 ⟨rfl, h⟩]

theorem fetchAs_of_some {name : String} {v : Json} (h : c.get? name = some v) :
    c.fetchAs d name = decodeParam d name v := by
  simp only [fetchAs, c.fetch_eq_ok.2 h]

theorem fetchAs_eq_required (name : String) :
    c.fetchAs d name = (c.getAs d name).bind (required name) := by
  cases h : c.get? name with
  | none =>
    rw [c.fetchAs_of_none d h, c.getAs_of_none d h]
    rfl
  | some v =>
    rw [c.fetchAs_of_some d h, c.getAs_of_some d h]
    cases decodeParam d name v <;> rfl

theorem decodeParam_of_ok {name : String} {v : Json} {a : α} (h : d v = .ok a) :
    decodeParam d name v = .ok a := by
  simp only [decodeParam, h]

theorem decodeParam_of_error {name : String} {v : Json} {e : Json.Misfit} (h : d v = .error e) :
    decodeParam d name v = .error (.wrongType name e.message) := by
  simp only [decodeParam, h]

theorem decodeParam_ne_missing (name other : String) (v : Json) :
    decodeParam d name v ≠ .error (.missingParam other) := by
  cases h : d v with
  | ok a => simp [decodeParam_of_ok d h]
  | error e => simp [decodeParam_of_error d h]

theorem getAs_eq_none {name : String} : c.getAs d name = .ok none ↔ c.get? name = none := by
  cases h : c.get? name with
  | none => simp [c.getAs_of_none d h]
  | some v =>
    rw [c.getAs_of_some d h]
    simp [map_eq_ok]

theorem fetchAs_eq_missing {name : String} :
    c.fetchAs d name = .error (.missingParam name) ↔ c.get? name = none := by
  cases h : c.get? name with
  | none => simp [c.fetchAs_of_none d h]
  | some v => simp [c.fetchAs_of_some d h, decodeParam_ne_missing]

end

/-- Of a clause, a handler gets all targets or the reason why not: the statement lacks the clause or its data
key, or what stands there is neither a text nor a list of nothing but texts. A statement has one clause, so
asking for the targets of both never gives both. A parameter stands for the value under the data key that
was sent for it. Where there is none, a required parameter fails and an optional one is absent, and this is
the only difference between them: a value of null is a value. -/
theorem targets_and_params_resolve (c : Context) :
    c.Answers .opening "open" c.openTargets ∧
    c.Answers .connecting "connect" c.connectTargets ∧
    (∀ texts others, ¬ (c.openTargets = .ok texts ∧ c.connectTargets = .ok others)) ∧
    ∀ name,
      (∀ v, c.get? name = some v ↔
        ∃ key, c.statement.bindings.get? name = some key ∧ c.data.get? key = some v) ∧
      (∀ v, c.fetch name = .ok v ↔ c.get? name = some v) ∧
      (∀ e, c.fetch name = .error e ↔ e = .missingParam name ∧ c.get? name = none) ∧
      ∀ (α : Type) (d : Json.Decoder α),
        c.fetchAs d name = (c.getAs d name).bind (required name) ∧
        (c.getAs d name = .ok none ↔ c.get? name = none) ∧
        (c.fetchAs d name = .error (.missingParam name) ↔ c.get? name = none) ∧
        (∀ v a, c.get? name = some v → d v = .ok a →
          c.getAs d name = .ok (some a) ∧ c.fetchAs d name = .ok a) ∧
        ∀ v e, c.get? name = some v → d v = .error e →
          c.getAs d name = .error (.wrongType name e.message) ∧
            c.fetchAs d name = .error (.wrongType name e.message) := by
  refine ⟨c.answers_targets .opening, c.answers_targets .connecting, ?_, fun name =>
    ⟨fun v => c.get?_eq_some, fun v => c.fetch_eq_ok, fun e => c.fetch_eq_error, fun α d =>
      ⟨c.fetchAs_eq_required d name, c.getAs_eq_none d, c.fetchAs_eq_missing d, ?_, ?_⟩⟩⟩
  · rintro texts others ⟨hopen, hconnect⟩
    have hopening := (c.targets_eq_ok.1 hopen).1
    have hconnecting := (c.targets_eq_ok.1 hconnect).1
    rw [hopening] at hconnecting
    contradiction
  · intro v a hv ha
    rw [c.getAs_of_some d hv, c.fetchAs_of_some d hv, decodeParam_of_ok d ha]
    exact ⟨rfl, rfl⟩
  · intro v e hv he
    rw [c.getAs_of_some d hv, c.fetchAs_of_some d hv, decodeParam_of_error d he]
    exact ⟨rfl, rfl⟩

-- A null that was sent is there, and nothing where an optional text is wanted.
example :
    let c : Context := ⟨⟨.absent, none, [("path", "file")], "tick", none⟩, [("file", .null)]⟩
    c.getAs (.optional .text) "path" = .ok (some none) ∧ c.getAs .text "other" = .ok none :=
  ⟨rfl, rfl⟩

end Context

end Rider
