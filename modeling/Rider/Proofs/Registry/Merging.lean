import Mathlib.Algebra.GroupWithZero.Nat
import Mathlib.Data.List.Flatten
import Mathlib.Data.List.Induction
import Mathlib.Data.List.Nodup
import Rider.Proofs.Lists
import Rider.Proofs.Statement.Resolution

set_option autoImplicit false

namespace Rider

variable {H : Type}

def Plugin.entries (p : Plugin H) : List (Entry H) := p.definitions.map fun d => ⟨p.name, d⟩

theorem Plugin.entries_shapes (p : Plugin H) : p.entries.map Entry.shape = p.shapes := by
  rw [entries, List.map_map]
  rfl

theorem Plugin.mem_entries {p : Plugin H} {e : Entry H} :
    e ∈ p.entries ↔ e.plugin = p.name ∧ e.definition ∈ p.definitions := by
  constructor
  · intro he
    obtain ⟨d, hd, rfl⟩ := List.mem_map.1 he
    exact ⟨rfl, hd⟩
  · rintro ⟨hname, hd⟩
    exact List.mem_map.2 ⟨e.definition, hd, by rw [← hname]⟩

namespace Registry

def enter (r : Registry H) : List (Entry H) → Except RegistryError (Registry H)
  | [] => .ok r
  | e :: es => match r.add e.plugin e.definition with
    | .error f => .error f
    | .ok r => r.enter es

theorem addAll_eq_enter (r : Registry H) (name : String) (ds : List (Definition H)) :
    r.addAll name ds = r.enter (ds.map fun d => ⟨name, d⟩) := by
  induction ds generalizing r with
  | nil => rfl
  | cons d ds ih =>
    rw [addAll, List.map_cons, enter]
    cases r.add name d with
    | error f => rfl
    | ok q => exact ih q

theorem enter_append (r : Registry H) (xs ys : List (Entry H)) :
    r.enter (xs ++ ys) = match r.enter xs with
      | .error f => .error f
      | .ok q => q.enter ys := by
  induction xs generalizing r with
  | nil => rfl
  | cons x xs ih =>
    rw [List.cons_append, enter, enter]
    cases r.add x.plugin x.definition with
    | error f => rfl
    | ok q => exact ih q

theorem merge_eq_enter (r : Registry H) (plugins : List (Plugin H)) :
    r.merge plugins = r.enter (plugins.flatMap Plugin.entries) := by
  induction plugins generalizing r with
  | nil => rfl
  | cons p ps ih =>
    rw [merge, List.flatMap_cons, enter_append, addAll_eq_enter, ← Plugin.entries]
    cases r.enter p.entries with
    | error f => rfl
    | ok q => exact ih q

variable {r q : Registry H} {e x : Entry H} {es front back : List (Entry H)} {f : RegistryError}

theorem add_of_held (hx : x ∈ r.entries) (hshape : x.shape = e.shape) :
    r.add e.plugin e.definition = .error (.duplicate e.shape e.plugin x.plugin) := by
  obtain ⟨i, hi⟩ := List.mem_iff_getElem?.1 hx
  have hindex := index_of_getElem? hi
  rw [hshape] at hindex
  unfold add
  split
  · rename_i j hj
    obtain rfl := Option.some.inj (hindex.symm.trans hj)
    obtain ⟨hlt, rfl⟩ := List.getElem?_eq_some_iff.1 hi
    rfl
  · rename_i hnone
    exact absurd (hindex.symm.trans hnone) nofun

theorem add_of_new (hnew : e.shape ∉ r.shapes) :
    ∃ q, r.add e.plugin e.definition = .ok q ∧ q.entries = r.entries ++ [e] := by
  have hfree : r.index.lookup e.definition.shape = none := index_eq_none.2 hnew
  unfold add
  split
  · rename_i i hi
    exact absurd (hfree.symm.trans hi) nofun
  · exact ⟨_, rfl, rfl⟩

theorem enter_of_nodup (h : ((r.entries ++ es).map Entry.shape).Nodup) :
    ∃ q, r.enter es = .ok q ∧ q.entries = r.entries ++ es := by
  induction es generalizing r with
  | nil => exact ⟨r, rfl, (List.append_nil _).symm⟩
  | cons e es ih =>
    have hnew : e.shape ∉ r.shapes := by
      rw [List.map_append, List.map_cons] at h
      exact fun hmem => (List.nodup_append.1 h).2.2 _ hmem _ List.mem_cons_self rfl
    obtain ⟨q, hadd, hq⟩ := add_of_new hnew
    rw [enter, hadd]
    have hsplit : r.entries ++ e :: es = q.entries ++ es := by
      rw [hq, List.append_assoc, List.singleton_append]
    rw [hsplit] at h ⊢
    exact ih h

/-- The first entry with a shape that is held already ends it, and both are named. -/
theorem enter_of_held (h : ((r.entries ++ front).map Entry.shape).Nodup)
    (hx : x ∈ r.entries ++ front) (hshape : x.shape = e.shape) :
    r.enter (front ++ e :: back) = .error (.duplicate e.shape e.plugin x.plugin) := by
  obtain ⟨q, hfront, hq⟩ := enter_of_nodup h
  rw [enter_append, hfront]
  simp only [enter, add_of_held (hq ▸ hx : x ∈ q.entries) hshape]

end Registry

def Plugin.Apart (plugins : List (Plugin H)) : Prop :=
  plugins.Pairwise fun p q => p.shapes.Disjoint q.shapes

theorem Plugin.flatMap_entries_shapes (plugins : List (Plugin H)) :
    (plugins.flatMap Plugin.entries).map Entry.shape = plugins.flatMap Plugin.shapes := by
  simp only [List.map_flatMap, Plugin.entries_shapes]

theorem Plugin.apart_iff {plugins : List (Plugin H)} :
    Plugin.Apart plugins ↔ (plugins.flatMap Plugin.shapes).Nodup := by
  rw [List.nodup_flatMap]
  exact (and_iff_right fun p _ => p.distinct).symm

/-- The error of the first shape, in the order of merging, that an earlier plugin has too. -/
inductive FirstClash (plugins : List (Plugin H)) : RegistryError → Prop
  | intro {earlier later : List (Plugin H)} {p q : Plugin H} {before after : List (Definition H)}
      {d : Definition H} : plugins = earlier ++ p :: later → p.definitions = before ++ d :: after →
      (earlier.flatMap Plugin.shapes ++ before.map Definition.shape).Nodup →
      q ∈ earlier → d.shape ∈ q.shapes → FirstClash plugins (.duplicate d.shape p.name q.name)

theorem exists_plugin_split {plugins : List (Plugin H)} {front back : List (Entry H)} {y : Entry H}
    (h : plugins.flatMap Plugin.entries = front ++ y :: back) :
    ∃ earlier p later before d after, plugins = earlier ++ p :: later ∧
      p.definitions = before ++ d :: after ∧ y = ⟨p.name, d⟩ ∧
      front = earlier.flatMap Plugin.entries ++ before.map fun d => ⟨p.name, d⟩ := by
  induction plugins generalizing front with
  | nil => simp at h
  | cons p ps ih =>
    have later : ∀ more, front = p.entries ++ more → ps.flatMap Plugin.entries = more ++ y :: back →
        ∃ earlier q later before d after, p :: ps = earlier ++ q :: later ∧
          q.definitions = before ++ d :: after ∧ y = ⟨q.name, d⟩ ∧
          front = earlier.flatMap Plugin.entries ++ before.map fun d => ⟨q.name, d⟩ := by
      intro more hfront hrest
      obtain ⟨earlier, q, later, before, d, after, rfl, hq, hy, hmore⟩ := ih hrest
      refine ⟨p :: earlier, q, later, before, d, after, rfl, hq, hy, ?_⟩
      rw [hfront, hmore, List.flatMap_cons, List.append_assoc]
    rw [List.flatMap_cons] at h
    rcases List.append_eq_append_iff.1 h with ⟨more, hfront, hrest⟩ | ⟨more, hp, hrest⟩
    · exact later more hfront hrest
    · cases more with
      | nil =>
        rw [List.append_nil] at hp
        exact later [] (by rw [hp, List.append_nil]) hrest.symm
      | cons z more =>
        obtain ⟨rfl, -⟩ := List.cons.inj hrest
        obtain ⟨before, rest, hds, hfront, hmore⟩ := List.map_eq_append_iff.1 hp
        obtain ⟨d, after, rfl, hy, -⟩ := List.map_eq_cons_iff.1 hmore
        exact ⟨[], p, ps, before, d, after, rfl, hds, hy.symm, hfront.symm⟩

def entriesBefore (earlier : List (Plugin H)) (name : String) (before : List (Definition H)) :
    List (Entry H) :=
  earlier.flatMap Plugin.entries ++ before.map fun d => ⟨name, d⟩

theorem entriesBefore_shapes (earlier : List (Plugin H)) (name : String) (before : List (Definition H)) :
    (entriesBefore earlier name before).map Entry.shape =
      earlier.flatMap Plugin.shapes ++ before.map Definition.shape := by
  rw [entriesBefore, List.map_append, Plugin.flatMap_entries_shapes, List.map_map]
  rfl

theorem exists_firstClash {plugins : List (Plugin H)} (h : ¬ Plugin.Apart plugins) :
    ∃ e, FirstClash plugins e := by
  rw [Plugin.apart_iff, ← Plugin.flatMap_entries_shapes] at h
  obtain ⟨front, x, y, back, hsplit, hfront, hx, hxy⟩ := exists_first_repeated h
  obtain ⟨earlier, p, later, before, d, after, hplugins, hp, rfl, rfl⟩ := exists_plugin_split hsplit
  rw [← entriesBefore, entriesBefore_shapes] at hfront
  rcases List.mem_append.1 hx with hx | hx
  · obtain ⟨q, hq, hx⟩ := List.mem_flatMap.1 hx
    have hshape : d.shape ∈ q.shapes := by
      rw [← q.entries_shapes]
      exact List.mem_map.2 ⟨x, hx, hxy⟩
    exact ⟨_, .intro hplugins hp hfront hq hshape⟩
  · -- A plugin has no shape twice, so the shape did not occur in the plugin itself.
    obtain ⟨c, hc, rfl⟩ := List.mem_map.1 hx
    have hdistinct := p.distinct
    rw [hp, List.map_append, List.map_cons] at hdistinct
    exact absurd hxy ((List.nodup_append.1 hdistinct).2.2 _ (List.mem_map_of_mem hc) _ List.mem_cons_self)

namespace Registry

theorem ofPlugins_of_apart {plugins : List (Plugin H)} (h : Plugin.Apart plugins) :
    ∃ r, ofPlugins plugins = .ok r ∧ r.entries = plugins.flatMap Plugin.entries := by
  rw [Plugin.apart_iff, ← Plugin.flatMap_entries_shapes] at h
  rw [ofPlugins, merge_eq_enter]
  exact enter_of_nodup (r := empty) h

theorem ofPlugins_of_firstClash {plugins : List (Plugin H)} {f : RegistryError}
    (h : FirstClash plugins f) : ofPlugins plugins = .error f := by
  obtain ⟨rfl, hp, hnodup, hq, hshape⟩ := h
  rename_i earlier later p q before after d
  obtain ⟨c, hc, hcd⟩ := List.mem_map.1 hshape
  have hsplit : (earlier ++ p :: later).flatMap Plugin.entries =
      entriesBefore earlier p.name before ++ ⟨p.name, d⟩ ::
        (after.map (fun d => ⟨p.name, d⟩) ++ later.flatMap Plugin.entries) := by
    simp only [List.flatMap_append, List.flatMap_cons, Plugin.entries, hp, entriesBefore,
      List.map_append, List.map_cons, List.append_assoc, List.cons_append]
  have hheld : (⟨q.name, c⟩ : Entry H) ∈ entriesBefore earlier p.name before :=
    List.mem_append_left _ (List.mem_flatMap.2 ⟨q, hq, List.mem_map_of_mem hc⟩)
  rw [ofPlugins, merge_eq_enter, hsplit]
  rw [← entriesBefore_shapes earlier p.name] at hnodup
  exact enter_of_held (r := empty) hnodup hheld hcd

theorem entries_of_ofPlugins {plugins : List (Plugin H)} {r : Registry H} (h : ofPlugins plugins = .ok r) :
    r.entries = plugins.flatMap Plugin.entries := by
  by_cases hapart : Plugin.Apart plugins
  · obtain ⟨q, hq, hentries⟩ := ofPlugins_of_apart hapart
    obtain rfl := Except.ok.inj (hq.symm.trans h)
    exact hentries
  · obtain ⟨e, he⟩ := exists_firstClash hapart
    exact absurd ((ofPlugins_of_firstClash he).symm.trans h) nofun

/-- The registry holds what the plugins define, in their order, and its index leads to the definition of each
shape and the plugin that it came from. -/
structure Merges (r : Registry H) (plugins : List (Plugin H)) : Prop where
  places : ∀ s i, r.index.lookup s = some i ↔ (plugins.flatMap Plugin.shapes)[i]? = some s
  reached : ∀ s i, r.index.lookup s = some i →
    ∃ p ∈ plugins, ∃ d ∈ p.definitions, d.shape = s ∧ r.entries[i]? = some ⟨p.name, d⟩
  shapes_eq : r.shapes = plugins.flatMap Plugin.shapes
  nodup : r.shapes.Nodup
  size_eq : r.size = (plugins.map Plugin.size).sum
  lookup_isSome : ∀ s, (r.lookup s).isSome = true ↔ s ∈ r.shapes
  lookup_eq : ∀ s h, r.lookup s = some h ↔
    ∃ p ∈ plugins, ∃ d ∈ p.definitions, d.shape = s ∧ d.handler = h
  pluginOf_eq : ∀ s name, r.pluginOf s = some name ↔ ∃ p ∈ plugins, s ∈ p.shapes ∧ p.name = name

theorem mem_entries {r : Registry H} {plugins : List (Plugin H)} {e : Entry H}
    (h : r.entries = plugins.flatMap Plugin.entries) :
    e ∈ r.entries ↔ ∃ p ∈ plugins, e.plugin = p.name ∧ e.definition ∈ p.definitions := by
  simp only [h, List.mem_flatMap, Plugin.mem_entries]

theorem merges_of_entries {r : Registry H} {plugins : List (Plugin H)}
    (h : r.entries = plugins.flatMap Plugin.entries) : r.Merges plugins where
  places s i := by rw [r.indexed, h, Plugin.flatMap_entries_shapes]
  reached s i hi := by
    have hs := (r.indexed s i).1 hi
    rw [List.getElem?_map, Option.map_eq_some_iff] at hs
    obtain ⟨e, he, rfl⟩ := hs
    obtain ⟨p, hp, hname, hd⟩ := (mem_entries h).1 (List.mem_of_getElem? he)
    exact ⟨p, hp, e.definition, hd, rfl, by rw [he, ← hname]⟩
  shapes_eq := by rw [shapes, h, Plugin.flatMap_entries_shapes]
  nodup := r.distinct
  size_eq := by
    have hsize : (fun p : Plugin H => p.entries.length) = Plugin.size :=
      funext fun p => List.length_map _
    rw [size, h, List.length_flatMap, hsize]
  lookup_isSome s := by
    rw [lookup, Option.isSome_map, Option.isSome_iff_exists, shapes, List.mem_map]
    simp only [entry?_eq_some]
  lookup_eq s handler := by
    simp only [lookup, Option.map_eq_some_iff, entry?_eq_some, mem_entries h]
    constructor
    · rintro ⟨e, ⟨⟨p, hp, -, hd⟩, hshape⟩, hhandler⟩
      exact ⟨p, hp, e.definition, hd, hshape, hhandler⟩
    · rintro ⟨p, hp, d, hd, hshape, hhandler⟩
      exact ⟨⟨p.name, d⟩, ⟨⟨p, hp, rfl, hd⟩, hshape⟩, hhandler⟩
  pluginOf_eq s name := by
    simp only [pluginOf, Option.map_eq_some_iff, entry?_eq_some, mem_entries h]
    constructor
    · rintro ⟨e, ⟨⟨p, hp, hname, hd⟩, rfl⟩, rfl⟩
      exact ⟨p, hp, List.mem_map_of_mem hd, hname.symm⟩
    · rintro ⟨p, hp, hs, rfl⟩
      obtain ⟨d, hd, rfl⟩ := List.mem_map.1 hs
      exact ⟨⟨p.name, d⟩, ⟨⟨p, hp, rfl, hd⟩, rfl⟩, rfl⟩

end Registry

/-- Merging plugins loses nothing and reports every collision. It succeeds exactly if no shape is of two
plugins; then the registry holds their shapes in order, its index has the place of each and nothing else, and
a look-up finds the handler and the plugin of the shape. It fails with an error exactly if that is the error of
the first shape that an earlier plugin has too. -/
theorem merging_accounted (plugins : List (Plugin H)) :
    ((∃ r, Registry.ofPlugins plugins = .ok r) ↔ Plugin.Apart plugins) ∧
    (∀ r, Registry.ofPlugins plugins = .ok r → r.Merges plugins) ∧
    ∀ f, Registry.ofPlugins plugins = .error f ↔ FirstClash plugins f := by
  have hmerges : ∀ r, Registry.ofPlugins plugins = .ok r → r.Merges plugins :=
    fun r hr => Registry.merges_of_entries (Registry.entries_of_ofPlugins hr)
  by_cases h : Plugin.Apart plugins
  · obtain ⟨r, hr, -⟩ := Registry.ofPlugins_of_apart h
    refine ⟨⟨fun _ => h, fun _ => ⟨r, hr⟩⟩, hmerges, fun f => ?_⟩
    constructor
    · intro hf
      exact absurd (hr.symm.trans hf) nofun
    · intro hclash
      exact absurd (hr.symm.trans (Registry.ofPlugins_of_firstClash hclash)) nofun
  · obtain ⟨e, he⟩ := exists_firstClash h
    have herror := Registry.ofPlugins_of_firstClash he
    refine ⟨⟨fun ⟨r, hr⟩ => ?_, fun hapart => absurd hapart h⟩, hmerges, fun f => ?_⟩
    · exact absurd (herror.symm.trans hr) nofun
    · constructor
      · intro hf
        obtain rfl := Except.error.inj (herror.symm.trans hf)
        exact he
      · exact Registry.ofPlugins_of_firstClash

section Drinks

-- Two plugins of one name and one without statements, and a plugin whose second shape was there before.

def drinkShape (name : String) : Shape := ⟨.absent, .empty, [name]⟩

def teaPlugin : Plugin Nat := ⟨"drinks", [⟨drinkShape "tea", by decide, 1⟩], by decide⟩

def coffeePlugin : Plugin Nat := ⟨"drinks", [⟨drinkShape "coffee", by decide, 2⟩], by decide⟩

def barPlugin : Plugin Nat :=
  ⟨"bar", [⟨drinkShape "milk", by decide, 3⟩, ⟨drinkShape "tea", by decide, 4⟩], by decide⟩

theorem merging_accounted_drinks :
    (∃ r, Registry.ofPlugins [teaPlugin, .named "none", coffeePlugin] = .ok r ∧
      r.Merges [teaPlugin, .named "none", coffeePlugin] ∧
      r.index.lookup (drinkShape "coffee") = some 1 ∧ r.index.lookup (drinkShape "milk") = none ∧
      r.lookup (drinkShape "coffee") = some 2) ∧
    Registry.ofPlugins [teaPlugin, .named "none", barPlugin, coffeePlugin] =
      .error (.duplicate (drinkShape "tea") "bar" "drinks") := by
  obtain ⟨hok, hmerges, -⟩ := merging_accounted [teaPlugin, .named "none", coffeePlugin]
  obtain ⟨-, -, herror⟩ := merging_accounted [teaPlugin, .named "none", barPlugin, coffeePlugin]
  constructor
  · obtain ⟨r, hr⟩ := hok.2 (Plugin.apart_iff.2 (by decide))
    have hcoffee := ((hmerges r hr).lookup_eq (drinkShape "coffee") 2).2
      ⟨coffeePlugin, by simp, _, List.mem_singleton_self _, rfl, rfl⟩
    have hplace := ((hmerges r hr).places (drinkShape "coffee") 1).2 rfl
    have hmilk : drinkShape "milk" ∉ r.shapes := by
      rw [(hmerges r hr).shapes_eq]
      decide
    exact ⟨r, hr, hmerges r hr, hplace, Registry.index_eq_none.2 hmilk, hcoffee⟩
  · have hclash : FirstClash [teaPlugin, .named "none", barPlugin, coffeePlugin]
        (.duplicate (drinkShape "tea") barPlugin.name teaPlugin.name) :=
      @FirstClash.intro Nat _ [teaPlugin, .named "none"] [coffeePlugin] barPlugin teaPlugin
        [⟨drinkShape "milk", by decide, 3⟩] [] ⟨drinkShape "tea", by decide, 4⟩ rfl rfl (by decide)
        List.mem_cons_self (by decide)
    exact (herror _).2 hclash

end Drinks

end Rider
