/-!
# Association lists

Tables that keep the order in which their keys were first entered. A later entry for a key that is
already there changes the value and not the place. Keys are compared by `==`.
-/

namespace Condense.Assoc

variable {κ α : Type} [BEq κ]

/-- The value entered for a key. -/
def get? (key : κ) : List (κ × α) → Option α
  | [] => none
  | (k, v) :: rest => if k == key then some v else get? key rest

/-- Enters a value for a key. -/
def put (key : κ) (value : α) : List (κ × α) → List (κ × α)
  | [] => [(key, value)]
  | (k, v) :: rest => if k == key then (k, value) :: rest else (k, v) :: put key value rest

def erase (key : κ) (table : List (κ × α)) : List (κ × α) :=
  table.filter fun entry => !(entry.1 == key)

def has (key : κ) (table : List (κ × α)) : Bool := (get? key table).isSome

/-- The table that results from entering the pairs one after the other. -/
def ofList (pairs : List (κ × α)) : List (κ × α) :=
  pairs.foldl (fun table pair => put pair.1 pair.2 table) []

theorem get?_put_of_beq {key : κ} (h : (key == key) = true) (value : α) (table : List (κ × α)) :
    get? key (put key value table) = some value := by
  induction table with
  | nil => exact if_pos h
  | cons entry rest ih =>
    rw [put]
    split
    case isTrue hsame => exact if_pos hsame
    case isFalse hother => exact (if_neg hother).trans ih

section Key

/-! A key that is compared by `==` with others is taken for itself only. -/

variable {key : κ} (hkey : ∀ other, (other == key) = true → other = key)

include hkey

theorem get?_put_of_not_beq {other : κ} (h : ¬(key == other) = true) (value : α)
    (table : List (κ × α)) : get? other (put key value table) = get? other table := by
  induction table with
  | nil => exact if_neg h
  | cons entry rest ih =>
    rw [put]
    split
    case isTrue hsame =>
      have hentry : ¬(entry.1 == other) = true := hkey _ hsame ▸ h
      rw [get?, get?, if_neg hentry, if_neg hentry]
    case isFalse => rw [get?, get?, ih]

/-- Entering a value adds no entry but its own. -/
theorem mem_put {value : α} {table : List (κ × α)} {entry : κ × α}
    (h : entry ∈ put key value table) : entry = (key, value) ∨ entry ∈ table := by
  induction table with
  | nil => exact Or.inl (List.mem_singleton.mp h)
  | cons first rest ih =>
    rw [put] at h
    split at h
    case isTrue hsame =>
      rcases List.mem_cons.mp h with hnew | hrest
      · exact Or.inl (by rw [hnew, hkey _ hsame])
      · exact Or.inr (List.mem_cons_of_mem first hrest)
    case isFalse =>
      rcases List.mem_cons.mp h with hfirst | hrest
      · exact Or.inr (hfirst ▸ List.mem_cons_self)
      · exact (ih hrest).imp id (List.mem_cons_of_mem first)

/-- A value is entered behind the others if its key is new. -/
theorem put_of_not_mem (value : α) {table : List (κ × α)} (h : key ∉ table.map (·.1)) :
    put key value table = table ++ [(key, value)] := by
  induction table with
  | nil => rfl
  | cons first rest ih =>
    rw [List.map_cons, List.mem_cons, not_or] at h
    have hother : ¬(first.1 == key) = true := fun hsame => h.1 (hkey _ hsame).symm
    rw [put, if_neg hother, ih h.2]
    rfl

end Key

theorem get?_put_self [ReflBEq κ] (key : κ) (value : α) (table : List (κ × α)) :
    get? key (put key value table) = some value :=
  get?_put_of_beq BEq.rfl value table

theorem get?_put_of_ne [LawfulBEq κ] {key other : κ} (value : α) (table : List (κ × α))
    (h : other ≠ key) : get? other (put key value table) = get? other table :=
  get?_put_of_not_beq (fun _ => eq_of_beq) (fun hsame => h (eq_of_beq hsame).symm) value table

end Condense.Assoc
