import Rider.Plugin
set_option autoImplicit false

/-!
Registries: the definitions of several plugins merged in order, no shape twice. Entries are kept in a list, and
an index leads from each shape to the place of its entry.
-/

namespace Rider

structure Entry (H : Type) where
  plugin : String
  definition : Definition H

namespace Entry

variable {H : Type}

def shape (e : Entry H) : Shape := e.definition.shape

def handler (e : Entry H) : H := e.definition.handler

end Entry

/-- Places by shape. Of two pairs with one shape the first counts. -/
abbrev ShapeIndex := List (Shape × Nat)

structure Registry (H : Type) where
  entries : List (Entry H)
  index : ShapeIndex
  -- The index has the place of every entry, and no other.
  indexed : ∀ s i, index.lookup s = some i ↔ (entries.map Entry.shape)[i]? = some s

namespace Registry

variable {H : Type}

def empty : Registry H := ⟨[], [], fun s i => by simp⟩

def shapes (r : Registry H) : List Shape := r.entries.map Entry.shape

def size (r : Registry H) : Nat := r.entries.length

theorem lt_of_lookup (r : Registry H) {s : Shape} {i : Nat} (h : r.index.lookup s = some i) :
    i < r.entries.length := by
  obtain ⟨hi, -⟩ := List.getElem?_eq_some_iff.1 ((r.indexed s i).1 h)
  simpa using hi

def entry? (r : Registry H) (s : Shape) : Option (Entry H) :=
  match h : r.index.lookup s with
  | some i => some (r.entries.get ⟨i, r.lt_of_lookup h⟩)
  | none => none

def lookup (r : Registry H) (s : Shape) : Option H := (r.entry? s).map Entry.handler

def pluginOf (r : Registry H) (s : Shape) : Option String := (r.entry? s).map Entry.plugin

theorem indexed_concat (r : Registry H) {e : Entry H} (h : r.index.lookup e.shape = none) (s : Shape)
    (i : Nat) :
    ((e.shape, r.entries.length) :: r.index).lookup s = some i ↔
      ((r.entries ++ [e]).map Entry.shape)[i]? = some s := by
  have hlength : (r.entries.map Entry.shape).length = r.entries.length := List.length_map _
  rw [List.lookup_cons, List.map_append, List.map_cons, List.map_nil, List.getElem?_append, hlength]
  by_cases hs : s = e.shape
  · subst hs
    have hfree : (r.entries.map Entry.shape)[i]? ≠ some e.shape := by
      rw [ne_eq, ← r.indexed, h]
      exact nofun
    grind
  · have hne : (s == e.shape) = false := beq_eq_false_iff_ne.2 hs
    have hold := r.indexed s i
    grind

def push (r : Registry H) (e : Entry H) (h : r.index.lookup e.shape = none) : Registry H where
  entries := r.entries ++ [e]
  index := (e.shape, r.entries.length) :: r.index
  indexed := r.indexed_concat h

/-- Adds a definition of `plugin`, if the index does not have its shape yet. -/
def add (plugin : String) (r : Registry H) (d : Definition H) : Except RegistryError (Registry H) :=
  match h : r.index.lookup d.shape with
  | some i => .error (.duplicate d.shape plugin (r.entries.get ⟨i, r.lt_of_lookup h⟩).plugin)
  | none => .ok (r.push ⟨plugin, d⟩ h)

def addAll (plugin : String) (r : Registry H) : List (Definition H) → Except RegistryError (Registry H)
  | [] => .ok r
  | d :: ds => match r.add plugin d with
    | .error e => .error e
    | .ok r => r.addAll plugin ds

def merge (r : Registry H) : List (Plugin H) → Except RegistryError (Registry H)
  | [] => .ok r
  | p :: ps => match r.addAll p.name p.definitions with
    | .error e => .error e
    | .ok r => r.merge ps

/-- The merged definitions of `plugins`; a shape of two plugins is an error that names both. -/
def ofPlugins (plugins : List (Plugin H)) : Except RegistryError (Registry H) := empty.merge plugins

def display (r : Registry H) : String :=
  "[" ++ String.intercalate ", " (r.shapes.map fun s => "\"" ++ s.display ++ "\"") ++ "]"

end Registry

end Rider
