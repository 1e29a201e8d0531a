set_option autoImplicit false

namespace Rider

abbrev Members (α : Type) := List (String × α)

namespace Members

variable {α : Type}

def put (name : String) (value : α) : Members α → Members α
  | [] => [(name, value)]
  | (n, v) :: rest =>
    if name < n then (name, value) :: (n, v) :: rest
    else if name = n then (name, value) :: rest
    else (n, v) :: put name value rest

def get? (m : Members α) (name : String) : Option α := m.lookup name

def names (m : Members α) : List String := m.map Prod.fst

/-- Writes the pairs one after the other, so that the last value of a name stays. -/
def putAll (pairs : List (String × α)) (m : Members α) : Members α :=
  pairs.foldl (fun m p => put p.1 p.2 m) m

def ofList (pairs : List (String × α)) : Members α := putAll pairs []

theorem get?_cons (n other : String) (v : α) (m : Members α) :
    get? ((n, v) :: m) other = if other = n then some v else m.get? other := by
  by_cases h : other = n
  · subst h
    simp [get?]
  · have hb : (other == n) = false := beq_eq_false_iff_ne.2 h
    simp [get?, List.lookup_cons, hb, h]

theorem get?_put (name other : String) (value : α) (m : Members α) :
    (put name value m).get? other = if other = name then some value else m.get? other := by
  induction m with
  | nil => simp only [put, get?_cons]
  | cons p rest ih =>
    obtain ⟨n, v⟩ := p
    simp only [put]
    split
    · rw [get?_cons]
    · split
      · rename_i h
        subst h
        simp only [get?_cons]
        split <;> rfl
      · rename_i hn
        simp only [get?_cons, ih]
        by_cases h : other = n
        · subst h; simp [Ne.symm hn]
        · simp [h]

end Members

end Rider
