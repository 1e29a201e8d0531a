import Rider.Plugin
import Rider.Proofs.Shape.Identity

set_option autoImplicit false

namespace Rider

structure Registration (H : Type) where
  clause : Clause
  params : List String
  phrase : String
  handler : H

variable {H : Type}

namespace Registration

def made (c : Registration H) : Except RegistryError { s : Shape // s.Valid } :=
  Shape.make c.clause c.params c.phrase

def shape? (c : Registration H) : Option Shape :=
  match c.made with
  | .ok s => some s.1
  | .error _ => none

/-- The same arguments, but for the handlers and for the order of the parameters. -/
structure Agrees (b c : Registration H) : Prop where
  clause_eq : b.clause = c.clause
  params_perm : b.params.Perm c.params
  phrase_eq : b.phrase = c.phrase

/-- Why a registration fails on a plugin of the given name: its arguments are invalid, or they agree with
those of a registration before it, so that the plugin holds their shape. -/
inductive Refused (name : String) (before : List (Registration H)) (c : Registration H) :
    RegistryError → Prop
  | invalid {e : RegistryError} : c.made = .error e → Refused name before c e
  | again {s : { s : Shape // s.Valid }} {b : Registration H} : c.made = .ok s → b ∈ before →
      b.Agrees c → Refused name before c (.duplicate s.1 name name)

variable {b c : Registration H} {s : { s : Shape // s.Valid }}

theorem shape?_of_made (h : c.made = .ok s) : c.shape? = some s.1 := by
  rw [shape?, h]

theorem shape?_of_invalid {e : RegistryError} (h : c.made = .error e) : c.shape? = none := by
  rw [shape?, h]

theorem made_of_shape? {t : Shape} (h : c.shape? = some t) : ∃ ht, c.made = .ok ⟨t, ht⟩ := by
  rw [shape?] at h
  split at h
  · rename_i s hs
    obtain rfl := Option.some.inj h
    exact ⟨s.2, hs⟩
  · contradiction

theorem shape?_eq_iff_agrees (hc : c.made = .ok s) : b.shape? = some s.1 ↔ b.Agrees c := by
  obtain ⟨hclause, hparams, hphrase⟩ := Shape.make_eq_ok.1 hc
  constructor
  · intro h
    obtain ⟨_, hb⟩ := made_of_shape? h
    obtain ⟨hclause', hparams', hphrase'⟩ := Shape.make_eq_ok.1 hb
    exact ⟨hclause'.trans hclause.symm, hparams'.trans hparams.symm, hphrase'.trans hphrase.symm⟩
  · intro h
    have hb : b.made = .ok s := Shape.make_eq_ok.2
      ⟨h.clause_eq.trans hclause, h.params_perm.trans hparams, h.phrase_eq.trans hphrase⟩
    exact shape?_of_made hb

def shapesOf (calls : List (Registration H)) : List Shape := (calls.filterMap shape?).eraseDups

def first? (calls : List (Registration H)) (t : Shape) : Option (Registration H) :=
  calls.find? fun c => c.shape? = some t

variable {calls : List (Registration H)} {t : Shape}

theorem mem_shapesOf : t ∈ shapesOf calls ↔ ∃ b ∈ calls, b.shape? = some t := by
  rw [shapesOf, List.mem_eraseDups, List.mem_filterMap]

theorem first?_eq_none : first? calls t = none ↔ t ∉ shapesOf calls := by
  simp only [first?, List.find?_eq_none, mem_shapesOf, decide_eq_true_eq, not_exists, not_and]

theorem shapesOf_concat_of_old (h : ∀ t, c.shape? = some t → t ∈ shapesOf calls) :
    shapesOf (calls ++ [c]) = shapesOf calls := by
  cases hc : c.shape? with
  | none => simp [shapesOf, hc]
  | some t =>
    have ht : t ∈ calls.filterMap shape? := List.mem_eraseDups.1 (h t hc)
    rw [shapesOf, List.filterMap_append, List.eraseDups_append]
    simp [hc, List.cons_removeAll, ht, shapesOf]

theorem shapesOf_concat_of_new (hc : c.shape? = some t) (h : t ∉ shapesOf calls) :
    shapesOf (calls ++ [c]) = shapesOf calls ++ [t] := by
  have ht : t ∉ calls.filterMap shape? := mt List.mem_eraseDups.2 h
  rw [shapesOf, List.filterMap_append, List.eraseDups_append]
  simp [hc, List.cons_removeAll, ht, shapesOf, List.eraseDups_cons]

theorem first?_concat_of_mem (h : t ∈ shapesOf calls) (c : Registration H) :
    first? (calls ++ [c]) t = first? calls t := by
  obtain ⟨b, hb⟩ := Option.ne_none_iff_exists'.1 (mt first?_eq_none.1 (not_not_intro h))
  rw [first?, List.find?_append, ← first?, hb, Option.some_or]

theorem first?_concat_of_new (hc : c.shape? = some t) (h : t ∉ shapesOf calls) :
    first? (calls ++ [c]) t = some c := by
  rw [first?, List.find?_append, ← first?, first?_eq_none.2 h]
  simp [hc]

end Registration

namespace Plugin

def call (p : Plugin H) (c : Registration H) : Except RegistryError Unit × Plugin H :=
  p.register c.clause c.params c.phrase c.handler

def registerAll (p : Plugin H) : List (Registration H) → List (Except RegistryError Unit) × Plugin H
  | [] => ([], p)
  | c :: cs =>
    let here := p.call c
    let rest := here.2.registerAll cs
    (here.1 :: rest.1, rest.2)

/-- The plugin holds what the registrations named. -/
structure Holds (p : Plugin H) (name : String) (calls : List (Registration H)) : Prop where
  name_eq : p.name = name
  shapes_eq : p.shapes = Registration.shapesOf calls
  handler_eq : ∀ d ∈ p.definitions,
    (Registration.first? calls d.shape).map Registration.handler = some d.handler

variable {p : Plugin H} {c : Registration H} {name : String} {before : List (Registration H)}
  {s : { s : Shape // s.Valid }} {e : RegistryError}

theorem holds_named (name : String) : (named name : Plugin H).Holds name [] where
  name_eq := rfl
  shapes_eq := rfl
  handler_eq _ hd := absurd hd List.not_mem_nil

theorem Holds.mem_shapes (hp : p.Holds name before) (hc : c.made = .ok s) :
    s.1 ∈ p.shapes ↔ ∃ b ∈ before, b.Agrees c := by
  rw [hp.shapes_eq, Registration.mem_shapesOf]
  simp only [Registration.shape?_eq_iff_agrees hc]

theorem Holds.first?_concat {d : Definition H} (hp : p.Holds name before) (hd : d ∈ p.definitions) :
    Registration.first? (before ++ [c]) d.shape = Registration.first? before d.shape := by
  have hshape : d.shape ∈ p.shapes := List.mem_map_of_mem hd
  exact Registration.first?_concat_of_mem (hp.shapes_eq ▸ hshape) c

theorem call_of_invalid (p : Plugin H) (hc : c.made = .error e) : p.call c = (.error e, p) := by
  rw [Registration.made] at hc
  rw [call, register, hc]

theorem call_of_held (hc : c.made = .ok s) (hs : s.1 ∈ p.shapes) :
    p.call c = (.error (.duplicate s.1 p.name p.name), p) := by
  rw [Registration.made] at hc
  rw [call, register, hc]
  simp only [dif_pos hs]

theorem call_of_new (hc : c.made = .ok s) (hs : s.1 ∉ p.shapes) :
    ∃ q, p.call c = (.ok (), q) ∧ q.name = p.name ∧
      q.definitions = p.definitions ++ [⟨s.1, s.2, c.handler⟩] := by
  rw [Registration.made] at hc
  rw [call, register, hc]
  simp only [dif_neg hs]
  exact ⟨_, rfl, rfl, rfl⟩

theorem call_unchanged (h : (p.call c).1 = .error e) : (p.call c).2 = p := by
  cases hc : c.made with
  | error f => rw [p.call_of_invalid hc]
  | ok s =>
    by_cases hs : s.1 ∈ p.shapes
    · rw [call_of_held hc hs]
    · obtain ⟨q, hq, -⟩ := call_of_new hc hs
      rw [hq] at h
      contradiction

theorem call_of_refused (hp : p.Holds name before) (h : c.Refused name before e) :
    p.call c = (.error e, p) := by
  cases h with
  | invalid hc => exact p.call_of_invalid hc
  | again hc hb hagrees =>
    rw [call_of_held hc ((hp.mem_shapes hc).2 ⟨_, hb, hagrees⟩), hp.name_eq]

theorem refused_or_new (hp : p.Holds name before) (c : Registration H) :
    (∃ e, c.Refused name before e) ∨ ∃ s, c.made = .ok s ∧ s.1 ∉ p.shapes := by
  cases hc : c.made with
  | error e => exact .inl ⟨e, .invalid hc⟩
  | ok s =>
    by_cases hs : s.1 ∈ p.shapes
    · obtain ⟨b, hb, hagrees⟩ := (hp.mem_shapes hc).1 hs
      exact .inl ⟨_, .again hc hb hagrees⟩
    · exact .inr ⟨s, rfl, hs⟩

theorem call_eq_error (hp : p.Holds name before) :
    (p.call c).1 = .error e ↔ c.Refused name before e := by
  constructor
  · intro h
    rcases refused_or_new hp c with ⟨f, hf⟩ | ⟨s, hc, hs⟩
    · rw [call_of_refused hp hf] at h
      obtain rfl := Except.error.inj h
      exact hf
    · obtain ⟨q, hq, -⟩ := call_of_new hc hs
      rw [hq] at h
      contradiction
  · intro h
    rw [call_of_refused hp h]

theorem Holds.of_refused (hp : p.Holds name before) (h : c.Refused name before e) :
    p.Holds name (before ++ [c]) := by
  -- What is refused names no shape at all, or one that an earlier registration named.
  have old : ∀ t, c.shape? = some t → t ∈ Registration.shapesOf before := by
    intro t ht
    cases h with
    | invalid hc => exact absurd ((Registration.shape?_of_invalid hc).symm.trans ht) nofun
    | again hc hb hagrees =>
      rw [← hp.shapes_eq]
      obtain rfl := Option.some.inj ((Registration.shape?_of_made hc).symm.trans ht)
      exact (hp.mem_shapes hc).2 ⟨_, hb, hagrees⟩
  refine ⟨hp.name_eq, hp.shapes_eq.trans (Registration.shapesOf_concat_of_old old).symm, ?_⟩
  intro d hd
  rw [hp.first?_concat hd]
  exact hp.handler_eq d hd

theorem Holds.of_new {q : Plugin H} (hp : p.Holds name before) (hc : c.made = .ok s)
    (hs : s.1 ∉ p.shapes) (hname : q.name = p.name)
    (hq : q.definitions = p.definitions ++ [⟨s.1, s.2, c.handler⟩]) :
    q.Holds name (before ++ [c]) := by
  have hshape := Registration.shape?_of_made hc
  have hnew : s.1 ∉ Registration.shapesOf before := hp.shapes_eq ▸ hs
  refine ⟨hname.trans hp.name_eq, ?_, fun d hd => ?_⟩
  · rw [shapes, hq, List.map_append, ← shapes, hp.shapes_eq]
    exact (Registration.shapesOf_concat_of_new hshape hnew).symm
  · rw [hq] at hd
    rcases List.mem_append.1 hd with hd | hd
    · rw [hp.first?_concat hd]
      exact hp.handler_eq d hd
    · obtain rfl := List.mem_singleton.1 hd
      rw [Registration.first?_concat_of_new hshape hnew]
      rfl

theorem Holds.call (hp : p.Holds name before) (c : Registration H) :
    (p.call c).2.Holds name (before ++ [c]) := by
  rcases refused_or_new hp c with ⟨e, he⟩ | ⟨s, hc, hs⟩
  · rw [call_of_refused hp he]
    exact hp.of_refused he
  · obtain ⟨q, hq, hname, hdefinitions⟩ := call_of_new hc hs
    rw [hq]
    exact hp.of_new hc hs hname hdefinitions

theorem Holds.registerAll (hp : p.Holds name before) (calls : List (Registration H)) :
    (p.registerAll calls).2.Holds name (before ++ calls) := by
  induction calls generalizing p before with
  | nil => rwa [Plugin.registerAll, List.append_nil]
  | cons c cs ih =>
    rw [Plugin.registerAll, List.append_cons]
    exact ih (hp.call c)

theorem registerAll_append (p : Plugin H) (xs ys : List (Registration H)) :
    p.registerAll (xs ++ ys) =
      ((p.registerAll xs).1 ++ ((p.registerAll xs).2.registerAll ys).1,
        ((p.registerAll xs).2.registerAll ys).2) := by
  induction xs generalizing p with
  | nil => rfl
  | cons x xs ih => simp only [List.cons_append, registerAll, ih]

theorem length_registerAll (p : Plugin H) (calls : List (Registration H)) :
    (p.registerAll calls).1.length = calls.length := by
  induction calls generalizing p with
  | nil => rfl
  | cons c cs ih => simp only [registerAll, List.length_cons, ih]

theorem getElem?_registerAll (p : Plugin H) (before after : List (Registration H)) (c : Registration H) :
    (p.registerAll (before ++ c :: after)).1[before.length]? =
      some (((p.registerAll before).2.call c).1) := by
  rw [registerAll_append]
  simp [length_registerAll, registerAll]

theorem registerAll_of_unchanged {before after : List (Registration H)}
    (h : ((p.registerAll before).2.call c).2 = (p.registerAll before).2) :
    p.registerAll (before ++ after) =
      ((p.registerAll (before ++ c :: after)).1.eraseIdx before.length,
        (p.registerAll (before ++ c :: after)).2) := by
  have hlength := length_registerAll p before
  rw [registerAll_append, registerAll_append, registerAll]
  simp only [h]
  rw [List.eraseIdx_append_of_length_le (Nat.le_of_eq hlength), hlength, Nat.sub_self,
    List.eraseIdx_cons_zero]

end Plugin

/-- A run of registrations on a new plugin. The plugin then holds the shapes of the valid ones, each once, in
the order in which they came first and with the handler that came first. A registration fails exactly if its
arguments are invalid or agree with earlier ones; what it leaves behind is the plugin as it was, and the others
are undisturbed. -/
theorem registrations_accounted (name : String) (calls : List (Registration H)) :
    let final := (Plugin.named name).registerAll calls
    final.2.Holds name calls ∧ final.1.length = calls.length ∧
    ∀ before c after, calls = before ++ c :: after →
      let held := ((Plugin.named name).registerAll before).2
      (∀ s, c.made = .ok s → (s.1 ∈ held.shapes ↔ ∃ b ∈ before, b.Agrees c)) ∧
      (∀ e, final.1[before.length]? = some (.error e) ↔ c.Refused name before e) ∧
      final.1[before.length]? = some (held.register c.clause c.params c.phrase c.handler).1 ∧
      ((Plugin.named name).registerAll (before ++ [c])).2 =
        (held.register c.clause c.params c.phrase c.handler).2 ∧
      ∀ e, (held.register c.clause c.params c.phrase c.handler).1 = .error e →
        (held.register c.clause c.params c.phrase c.handler).2 = held ∧
        (Plugin.named name).registerAll (before ++ after) =
          (final.1.eraseIdx before.length, final.2) := by
  intro final
  refine ⟨(Plugin.holds_named name).registerAll calls, Plugin.length_registerAll _ calls, ?_⟩
  intro before c after hcalls held
  have hheld : held.Holds name before := (Plugin.holds_named name).registerAll before
  have answer : final.1[before.length]? = some (held.call c).1 := by
    simp only [final, hcalls, Plugin.getElem?_registerAll, held]
  refine ⟨fun s hs => hheld.mem_shapes hs, ?_, answer, ?_, ?_⟩
  · intro e
    rw [answer, Option.some.injEq, Plugin.call_eq_error hheld]
  · rw [Plugin.registerAll_append]
    rfl
  · intro e he
    have hunchanged : (held.call c).2 = held := Plugin.call_unchanged he
    refine ⟨hunchanged, ?_⟩
    rw [Plugin.registerAll_of_unchanged hunchanged, ← hcalls]

section Bar

-- Two shapes that a plugin takes, and between them a bad phrase and the first shape once more.

def teaCall : Registration Nat := ⟨.absent, ["milk", "sugar"], "make tea", 1⟩

def capitalCall : Registration Nat := ⟨.absent, [], "Make tea", 2⟩

def sweeterCall : Registration Nat := ⟨.absent, ["sugar", "milk"], "make tea", 3⟩

def coffeeCall : Registration Nat := ⟨.absent, [], "make coffee", 4⟩

def barCalls : List (Registration Nat) := [teaCall, capitalCall, sweeterCall, coffeeCall]

def teaShape : Shape := ⟨.absent, ⟨["milk", "sugar"], by decide⟩, ["make", "tea"]⟩

def coffeeShape : Shape := ⟨.absent, .empty, ["make", "coffee"]⟩

theorem teaCall_made : teaCall.made = .ok ⟨teaShape, by decide⟩ :=
  Shape.make_eq_ok.2 ⟨rfl, .refl _, by decide⟩

theorem capitalCall_made : capitalCall.made = .error (.invalidPhrase "Make tea" (.badChar 'M')) := by
  decide

theorem sweeterCall_made : sweeterCall.made = .ok ⟨teaShape, by decide⟩ :=
  Shape.make_eq_ok.2 ⟨rfl, .swap _ _ _, by decide⟩

theorem coffeeCall_made : coffeeCall.made = .ok ⟨coffeeShape, by decide⟩ :=
  Shape.make_eq_ok.2 ⟨rfl, .refl _, by decide⟩

theorem registrations_accounted_bar :
    let final := (Plugin.named "bar").registerAll barCalls
    let held := ((Plugin.named "bar").registerAll [teaCall, capitalCall]).2
    final.2.shapes = [teaShape, coffeeShape] ∧
    final.1[1]? = some (.error (.invalidPhrase "Make tea" (.badChar 'M'))) ∧
    final.1[2]? = some (.error (.duplicate teaShape "bar" "bar")) ∧
    (held.register .absent ["sugar", "milk"] "make tea" 3).2 = held ∧
    (Plugin.named "bar").registerAll [teaCall, capitalCall, coffeeCall] =
      (final.1.eraseIdx 2, final.2) := by
  intro final held
  obtain ⟨hholds, -, hcalls⟩ := registrations_accounted "bar" barCalls
  obtain ⟨-, hcapital, -⟩ := hcalls [teaCall] capitalCall [sweeterCall, coffeeCall] rfl
  obtain ⟨-, hsweeter, hanswer, -, hunaffected⟩ :=
    hcalls [teaCall, capitalCall] sweeterCall [coffeeCall] rfl
  have hagain : final.1[2]? = some (.error (.duplicate teaShape "bar" "bar")) :=
    (hsweeter _).2 (.again sweeterCall_made List.mem_cons_self ⟨rfl, .swap _ _ _, rfl⟩)
  obtain ⟨hunchanged, hothers⟩ := hunaffected _ (Option.some.inj (hanswer.symm.trans hagain))
  refine ⟨?_, (hcapital _).2 (.invalid capitalCall_made), hagain, hunchanged, hothers⟩
  have hshapes : barCalls.filterMap Registration.shape? = [teaShape, teaShape, coffeeShape] := by
    simp [barCalls, Registration.shape?_of_made teaCall_made,
      Registration.shape?_of_invalid capitalCall_made, Registration.shape?_of_made sweeterCall_made,
      Registration.shape?_of_made coffeeCall_made]
  rw [hholds.shapes_eq, Registration.shapesOf, hshapes]
  decide

end Bar

end Rider
