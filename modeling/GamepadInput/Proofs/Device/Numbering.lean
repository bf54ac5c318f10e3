import Mathlib.Algebra.Order.Ring.Nat

/-!
# Items that take several places

Items stand one behind the other, each with as many places as it is wide: fields with their buttons,
controls with their slots.  The places are numbered through, and each of them belongs to one item
(`existsUnique_isPlace`).
-/

namespace GamepadInput

variable {α β : Type} {width : α → Nat} {first item : α} {items : List α}
variable {number offset place : Nat}

/-- The first place of an item: there are so many before it. -/
def firstPlace (width : α → Nat) (items : List α) (number : Nat) : Nat :=
  ((items.take number).map width).sum

@[simp] theorem firstPlace_zero (width : α → Nat) (items : List α) :
    firstPlace width items 0 = 0 := rfl

@[simp] theorem firstPlace_cons_succ (width : α → Nat) (first : α) (items : List α) (number : Nat) :
    firstPlace width (first :: items) (number + 1) =
      width first + firstPlace width items number := by
  simp [firstPlace]

theorem firstPlace_congr {others : List β} {width' : β → Nat}
    (same : items.map width = others.map width') (number : Nat) :
    firstPlace width items number = firstPlace width' others number := by
  rw [firstPlace, firstPlace, List.map_take, List.map_take, same]

/-- The place at `offset` among those of the item with this number. -/
structure IsPlace (width : α → Nat) (items : List α) (number offset place : Nat) : Prop where
  inside : ∃ item, items[number]? = some item ∧ offset < width item
  place_eq : firstPlace width items number + offset = place

theorem isPlace_cons_zero :
    IsPlace width (first :: items) 0 offset place ↔ offset < width first ∧ offset = place := by
  constructor
  · rintro ⟨⟨item, ⟨⟩, inside⟩, rfl⟩
    exact ⟨inside, (Nat.zero_add offset).symm⟩
  · rintro ⟨inside, rfl⟩
    exact ⟨⟨first, rfl, inside⟩, Nat.zero_add offset⟩

theorem isPlace_cons_succ :
    IsPlace width (first :: items) (number + 1) offset place ↔
      width first ≤ place ∧ IsPlace width items number offset (place - width first) := by
  constructor
  · rintro ⟨inside, rfl⟩
    rw [firstPlace_cons_succ]
    exact ⟨by omega, inside, by omega⟩
  · rintro ⟨behind, inside, same⟩
    exact ⟨inside, by rw [firstPlace_cons_succ]; omega⟩

theorem exists_isPlace (inside : place < (items.map width).sum) :
    ∃ number offset, IsPlace width items number offset place := by
  induction items generalizing place with
  | nil => simp at inside
  | cons first rest ih =>
    rw [List.map_cons, List.sum_cons] at inside
    by_cases own : place < width first
    · exact ⟨0, place, isPlace_cons_zero.mpr ⟨own, rfl⟩⟩
    · have later : place - width first < (rest.map width).sum := by omega
      obtain ⟨number, offset, isPlace⟩ := ih later
      exact ⟨number + 1, offset, isPlace_cons_succ.mpr ⟨by omega, isPlace⟩⟩

/-- Different items have no place in common. -/
theorem IsPlace.unique {number' offset' : Nat} (one : IsPlace width items number offset place)
    (other : IsPlace width items number' offset' place) : number = number' ∧ offset = offset' := by
  induction items generalizing number number' place with
  | nil =>
    obtain ⟨⟨item, absent, -⟩, -⟩ := one
    simp at absent
  | cons first rest ih =>
    cases number with
    | zero =>
      obtain ⟨inside, rfl⟩ := isPlace_cons_zero.mp one
      cases number' with
      | zero => exact ⟨rfl, (isPlace_cons_zero.mp other).2.symm⟩
      | succ number' =>
        have behind := (isPlace_cons_succ.mp other).1
        omega
    | succ number =>
      obtain ⟨behind, later⟩ := isPlace_cons_succ.mp one
      cases number' with
      | zero =>
        obtain ⟨inside, rfl⟩ := isPlace_cons_zero.mp other
        omega
      | succ number' =>
        obtain ⟨rfl, same⟩ := ih later (isPlace_cons_succ.mp other).2
        exact ⟨rfl, same⟩

/-- Every place is one of exactly one item. -/
theorem existsUnique_isPlace (inside : place < (items.map width).sum) :
    ∃! owner : Nat × Nat, IsPlace width items owner.1 owner.2 place := by
  obtain ⟨number, offset, isPlace⟩ := exists_isPlace inside
  exact ⟨(number, offset), isPlace, fun _ other =>
    Prod.ext (other.unique isPlace).1 (other.unique isPlace).2⟩

/-- What stands in the places of all items, and what in those of one. -/
theorem getElem?_flatMap_firstPlace {f : α → List β} (wide : ∀ item, (f item).length = width item)
    (here : items[number]? = some item) (inside : offset < width item) :
    (items.flatMap f)[firstPlace width items number + offset]? = (f item)[offset]? := by
  induction items generalizing number with
  | nil => simp at here
  | cons first rest ih =>
    rw [List.flatMap_cons]
    cases number with
    | zero =>
      cases here
      rw [firstPlace_zero, Nat.zero_add, List.getElem?_append_left (by rw [wide]; exact inside)]
    | succ number =>
      rw [firstPlace_cons_succ, Nat.add_assoc, ← wide first,
        List.getElem?_append_right (Nat.le_add_right _ _), Nat.add_sub_cancel_left]
      exact ih here

theorem length_flatMap_eq_sum {f : α → List β} (wide : ∀ item, (f item).length = width item)
    (items : List α) : (items.flatMap f).length = (items.map width).sum := by
  rw [List.length_flatMap]
  simp only [wide]

/-- What stands in a place is what stands there among the places of some item. -/
theorem exists_of_getElem?_flatMap {f : α → List β} (wide : ∀ item, (f item).length = width item)
    {entry : β} (here : (items.flatMap f)[place]? = some entry) :
    ∃ number offset item, place = firstPlace width items number + offset ∧
      items[number]? = some item ∧ (f item)[offset]? = some entry := by
  have inside := (List.getElem?_eq_some_iff.mp here).1
  rw [length_flatMap_eq_sum wide] at inside
  obtain ⟨number, offset, ⟨item, listed, within⟩, rfl⟩ := exists_isPlace inside
  exact ⟨number, offset, item, rfl, listed,
    (getElem?_flatMap_firstPlace wide listed within).symm.trans here⟩

end GamepadInput
