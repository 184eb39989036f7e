import Mathlib.Data.List.Basic

namespace Table
variable {Item : Type*}

/-- An item of a longer list is an old one or the last one. -/
theorem concat_iff {items : List Item} {last item : Item} {i : Nat} :
    (items ++ [last])[i]? = some item ↔ items[i]? = some item ∨ i = items.length ∧ item = last := by
  rw [List.getElem?_append]
  split
  · next inside =>
      constructor
      · exact .inl
      · rintro (old | ⟨same, -⟩)
        · exact old
        · omega
  · next outside =>
      have old : items[i]? = none := List.getElem?_eq_none (by omega)
      rw [List.getElem?_singleton, old]
      split
      · next zero =>
          have same : i = items.length := by omega
          simp [same, eq_comm]
      · next positive =>
          have other : i ≠ items.length := by omega
          simp [other]

/-- An item keeps its place in a longer list. -/
theorem append_of {items more : List Item} {item : Item} {i : Nat}
    (found : items[i]? = some item) : (items ++ more)[i]? = some item := by
  rw [List.getElem?_append_left (List.getElem?_eq_some_iff.mp found).1, found]

/-- An item of a table with one changed place is the changed one or an old one elsewhere. -/
theorem modify_cases {items : List Item} {change : Item → Item} {i j : Nat} {after : Item}
    (found : (items.modify i change)[j]? = some after) :
    (∃ before, items[j]? = some before ∧ i = j ∧ after = change before) ∨
      items[j]? = some after ∧ i ≠ j := by
  rw [List.getElem?_modify] at found
  obtain ⟨before, was, same⟩ := Option.map_eq_some_iff.mp found
  subst same
  split
  · next same => exact .inl ⟨before, was, same, rfl⟩
  · next other => exact .inr ⟨was, other⟩

/-- The changed place holds the changed item. -/
theorem modify_self {items : List Item} {change : Item → Item} {i : Nat} {item : Item}
    (found : items[i]? = some item) : (items.modify i change)[i]? = some (change item) := by
  rw [List.getElem?_modify_eq, found]
  rfl

/-- A change that keeps a part of every item keeps the list of these parts. -/
theorem map_modify {Part : Type*} {part : Item → Part} {change : Item → Item}
    (keeps : ∀ item, part (change item) = part item) (items : List Item) (i : Nat) :
    (items.modify i change).map part = items.map part := by
  apply List.ext_getElem?
  intro j
  rw [List.getElem?_map, List.getElem?_map, List.getElem?_modify]
  cases items[j]? with
  | none => rfl
  | some item =>
      change some (part (if i = j then change item else item)) = some (part item)
      split
      · rw [keeps]
      · rfl

end Table
