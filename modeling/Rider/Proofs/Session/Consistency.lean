import Rider.Proofs.Registry.Merging
import Rider.Proofs.Session.Outcome

set_option autoImplicit false

namespace Rider

/-- A registry never contradicts itself: a reading without mismatches is a statement of the same shape, which
the index leads to the one entry with the shape, of a plugin that the registry was made from; a reading with
mismatches is none; and so no run ends with a reading that is no statement, or with a statement that has no
handler. -/
theorem registry_consistent {H σ : Type} (r : Registry H) (line : TokenLine) :
    (∀ c ∈ (judge r.shapes line).readings, c.mismatches = [] →
      ∃ statement, c.resolve = .ok statement ∧ statement.shape = c.shape ∧
        ∃ i e, r.index.lookup statement.shape = some i ∧ r.entries[i]? = some e ∧ e.shape = c.shape ∧
          (∀ d ∈ r.entries, d.shape = c.shape → d = e) ∧
          r.lookup statement.shape = some e.handler ∧
          ∀ plugins, Registry.ofPlugins plugins = .ok r →
            ∃ p ∈ plugins, e.plugin = p.name ∧ e.definition ∈ p.definitions) ∧
    (∀ c ∈ (judge r.shapes line).readings, c.mismatches ≠ [] →
      c.resolve = .error (.mismatched c.shape.phraseText c.mismatches.length)) ∧
    ∀ (s : Session σ) (contract : String) (scope : Scope) (state : σ) (f : Fault),
      (s.run contract scope state).1 = .error f →
        f.kind ≠ .unresolved ∧ f.kind ≠ .unregistered := by
  refine ⟨?_, fun c _ hc => Reading.resolve_of_mismatches hc, ?_⟩
  · intro c hc hclean
    obtain ⟨hs, statement, hresolve, hshape⟩ := Registry.resolve_of_clean hc hclean
    obtain ⟨e, he, heq⟩ := List.mem_map.1 hs
    obtain ⟨i, hi⟩ := List.mem_iff_getElem?.1 he
    have hstatement : statement.shape = e.shape := hshape.trans heq.symm
    refine ⟨statement, hresolve, hshape, i, e, ?_, hi, heq, ?_, ?_, ?_⟩
    · rw [hstatement, Registry.index_of_getElem? hi]
    · intro d hd hdeq
      exact List.inj_on_of_nodup_map r.distinct hd he (hdeq.trans heq.symm)
    · rw [hstatement, Registry.lookup_of_mem he]
    · intro plugins hplugins
      exact (Registry.mem_entries (Registry.entries_of_ofPlugins hplugins)).1 he
  · intro s contract scope state f hf
    rcases Session.kind_of_run hf with hkind | ⟨entry, -, herror⟩
    · constructor <;> rintro heq <;> simp [heq] at hkind
    · have hkind := (Session.line?_of_parse herror).1
      constructor <;> rintro heq <;> simp [heq] at hkind

section Brew

-- Two plugins with three statements, two of them with the same phrase.

def brewShape : Shape := ⟨.connecting, ⟨["cup", "milk"], by decide⟩, ["brew", "tea"]⟩

def plainBrewShape : Shape := ⟨.absent, .empty, ["brew", "tea"]⟩

def pourShape : Shape := ⟨.opening, ⟨["cup"], by decide⟩, ["pour"]⟩

def pourPlugin : Plugin Nat :=
  ⟨"pouring", [⟨pourShape, by decide, 1⟩, ⟨plainBrewShape, by decide, 2⟩], by decide⟩

def brewPlugin : Plugin Nat := ⟨"brewing", [⟨brewShape, by decide, 3⟩], by decide⟩

def brewText : String :=
  "Given I connect to 'pot' and send milk 'm' and send cup 'c' and brew tea and output into 'mug'"

def brewReading : Reading where
  shape := brewShape
  bindings := [("milk", .ofRaw ['\'', 'm', '\''] 7 39), ("cup", .ofRaw ['\'', 'c', '\''] 7 56)]
  target := some (.ofRaw ['\'', 'p', 'o', 't', '\''] 7 19)
  output := some (.ofRaw ['\'', 'm', 'u', 'g', '\''] 7 89)
  mismatches := []

def coffeeReading : Reading where
  shape := plainBrewShape
  bindings := []
  target := none
  output := none
  mismatches := [.wrong (.ofRaw ['c', 'o', 'f', 'f', 'e', 'e'] 8 13) ["tea"]]

theorem brew_readings :
    let shapes := [pourShape, plainBrewShape, brewShape]
    (∃ line, tokenize brewText 7 = .ok line ∧ (judge shapes line).readings = [brewReading]) ∧
      ∃ line, tokenize "Given I brew coffee" 8 = .ok line ∧ (judge shapes line).readings = [coffeeReading] := by
  intro shapes
  have read {text : String} {n : Nat} {c : Reading}
      (h : (tokenize text n).map (fun line => (judge shapes line).readings) = .ok [c]) :
      ∃ line, tokenize text n = .ok line ∧ (judge shapes line).readings = [c] := by
    cases hline : tokenize text n with
    | error e =>
      rw [hline] at h
      contradiction
    | ok line =>
      rw [hline] at h
      exact ⟨line, rfl, Except.ok.inj h⟩
  exact ⟨read (by decide +kernel), read (by decide +kernel)⟩

theorem registry_consistent_brew :
    ∃ r, Registry.ofPlugins [pourPlugin, brewPlugin] = .ok r ∧
      (∃ line, tokenize brewText 7 = .ok line ∧ brewReading ∈ (judge r.shapes line).readings ∧
        brewReading.mismatches = [] ∧
        ∃ statement, brewReading.resolve = .ok statement ∧
          statement.bindings = [("cup", "c"), ("milk", "m")] ∧ statement.shape = brewShape ∧
          r.index.lookup statement.shape = some 2 ∧ r.lookup statement.shape = some 3) ∧
      ∃ line, tokenize "Given I brew coffee" 8 = .ok line ∧
        coffeeReading ∈ (judge r.shapes line).readings ∧ coffeeReading.mismatches ≠ [] ∧
        coffeeReading.resolve = .error (.mismatched "brew tea" 1) := by
  obtain ⟨r, hr, hentries⟩ := Registry.ofPlugins_of_apart
    (Plugin.apart_iff.2 (by decide) : Plugin.Apart [pourPlugin, brewPlugin])
  have hshapes : r.shapes = [pourShape, plainBrewShape, brewShape] := by
    rw [Registry.shapes, hentries]
    rfl
  obtain ⟨⟨line, hline, hread⟩, coffeeLine, hcoffeeLine, hcoffeeRead⟩ := brew_readings
  rw [← hshapes] at hread hcoffeeRead
  have hmem : brewReading ∈ (judge r.shapes line).readings := hread ▸ List.mem_singleton_self _
  have hcoffee : coffeeReading ∈ (judge r.shapes coffeeLine).readings :=
    hcoffeeRead ▸ List.mem_singleton_self _
  have hfaulty : coffeeReading.mismatches ≠ [] := List.cons_ne_nil _ _
  obtain ⟨statement, hresolve, hshape, i, e, hindex, he, -, -, hlookup, -⟩ :=
    (@registry_consistent Nat Nat r line).1 brewReading hmem rfl
  have hplace : i = 2 := by
    have htwo := (r.indexed brewShape 2).2 (by rw [hentries]; rfl)
    rw [hshape] at hindex
    exact Option.some.inj (hindex.symm.trans htwo)
  rw [hplace] at hindex he
  have hhandler : e.handler = 3 := by
    rw [hentries] at he
    rw [← Option.some.inj he]
    rfl
  have hbindings : statement.bindings = [("cup", "c"), ("milk", "m")] := by
    have hresolved : brewReading.resolve.map Statement.bindings = .ok [("cup", "c"), ("milk", "m")] := by
      decide +kernel
    rw [hresolve] at hresolved
    exact Except.ok.inj hresolved
  exact ⟨r, hr, ⟨line, hline, hmem, rfl, statement, hresolve, hbindings, hshape, hindex, hhandler ▸ hlookup⟩,
    coffeeLine, hcoffeeLine, hcoffee, hfaulty,
    (@registry_consistent Nat Nat r coffeeLine).2.1 coffeeReading hcoffee hfaulty⟩

end Brew

end Rider
