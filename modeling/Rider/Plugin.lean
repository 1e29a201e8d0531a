import Rider.Shape.Valid
set_option autoImplicit false

namespace Rider

structure Definition (H : Type) where
  shape : Shape
  valid : shape.Valid
  handler : H

/-- A named group of definitions, in the order of their registration. -/
structure Plugin (H : Type) where
  name : String
  definitions : List (Definition H)
  distinct : (definitions.map Definition.shape).Nodup

namespace Plugin

variable {H : Type}

def named (name : String) : Plugin H := ⟨name, [], List.nodup_nil⟩

def shapes (p : Plugin H) : List Shape := p.definitions.map Definition.shape

def size (p : Plugin H) : Nat := p.definitions.length

theorem distinct_concat (p : Plugin H) {d : Definition H} (h : d.shape ∉ p.shapes) :
    ((p.definitions ++ [d]).map Definition.shape).Nodup := by
  rw [List.map_append, List.nodup_append]
  refine ⟨p.distinct, by simp, ?_⟩
  rintro s hs t ht rfl
  exact h (List.mem_singleton.1 ht ▸ hs)

/-- Registers a statement of the given clause, parameters and phrase. The call answers with an error or
with nothing, and leaves a plugin behind. -/
def register (p : Plugin H) (clause : Clause) (params : List String) (phrase : String) (handler : H) :
    Except RegistryError Unit × Plugin H :=
  match Shape.make clause params phrase with
  | .error e => (.error e, p)
  | .ok s =>
    if h : s.1 ∈ p.shapes then (.error (.duplicate s.1 p.name p.name), p)
    else
      (.ok (), { p with
        definitions := p.definitions ++ [⟨s.1, s.2, handler⟩]
        distinct := p.distinct_concat h })

end Plugin

end Rider
