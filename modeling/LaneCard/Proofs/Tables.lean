/-!
# Tables of numbered entries

A table is an array whose entries are named by their places: an entry is replaced or changed in its place, and
new ones come behind the last. What holds of all entries holds of all afterwards, if it holds of the one that is
new. Work in different places is done in any order.
-/

namespace LaneCard.Table

variable {α γ : Type} {xs : Array α} {P : Nat → α → Prop} {i j : Nat} {x : α}

/-! ## What holds of all entries -/

/-- What holds of all other entries, and of the one that replaces an entry, holds of all afterwards. -/
theorem forall_setIfInBounds_of_ne (hall : ∀ k y, k ≠ i → xs[k]? = some y → P k y) (hx : P i x) :
    ∀ k y, (xs.setIfInBounds i x)[k]? = some y → P k y := by
  intro k y hy
  rw [Array.getElem?_setIfInBounds] at hy
  split at hy
  · rename_i hik
    split at hy
    · obtain rfl := Option.some.inj hy
      exact hik ▸ hx
    · contradiction
  · rename_i hik
    exact hall k y (Ne.symm hik) hy

/-- What holds of all entries still holds when one is replaced by another of which it holds. -/
theorem forall_setIfInBounds (hall : ∀ k y, xs[k]? = some y → P k y) (hx : P i x) :
    ∀ k y, (xs.setIfInBounds i x)[k]? = some y → P k y :=
  forall_setIfInBounds_of_ne (fun k y _ => hall k y) hx

/-- What holds of all entries still holds when one is changed in a way that keeps it. -/
theorem forall_modify {change : α → α} (hall : ∀ k y, xs[k]? = some y → P k y)
    (hchange : ∀ k y, P k y → P k (change y)) :
    ∀ k y, (xs.modify i change)[k]? = some y → P k y := by
  intro k y hy
  rw [Array.getElem?_modify] at hy
  split at hy
  · obtain ⟨x, hx, rfl⟩ := Option.map_eq_some_iff.mp hy
    exact hchange k x (hall k x hx)
  · exact hall k y hy

/-- What holds of all entries still holds when another is added of which it holds. -/
theorem forall_push (hall : ∀ k y, xs[k]? = some y → P k y) (hx : P xs.size x) :
    ∀ k y, (xs.push x)[k]? = some y → P k y := by
  intro k y hy
  rw [Array.getElem?_push] at hy
  split at hy
  · rename_i hk
    obtain rfl := Option.some.inj hy
    exact hk ▸ hx
  · exact hall k y hy

/-! ## Replacing and changing an entry -/

/-- An entry that replaces another is found in its place. -/
theorem getElem?_setIfInBounds_self (y : α) (hx : xs[i]? = some x) : (xs.setIfInBounds i y)[i]? = some y :=
  Array.getElem?_setIfInBounds_self_of_lt (Array.getElem?_eq_some_iff.mp hx).1

/-- Changing an entry is putting the changed one in its place. -/
theorem modify_eq (change : α → α) (hx : xs[i]? = some x) :
    xs.modify i change = xs.setIfInBounds i (change x) := by
  apply Array.ext_getElem?
  intro k
  rw [Array.getElem?_modify, Array.getElem?_setIfInBounds]
  by_cases hk : i = k
  · subst hk
    have hi := (Array.getElem?_eq_some_iff.mp hx).1
    rw [if_pos rfl, if_pos rfl, if_pos hi, hx, Option.map_some]
  · rw [if_neg hk, if_neg hk]

/-- Putting an entry in its place changes nothing. -/
theorem setIfInBounds_self (hx : xs[i]? = some x) : xs.setIfInBounds i x = xs := by
  apply Array.ext_getElem?
  intro k
  rw [Array.getElem?_setIfInBounds]
  split
  · rename_i hk
    subst hk
    rw [if_pos (Array.getElem?_eq_some_iff.mp hx).1, hx]
  · rfl

/-- Replacing an entry by one of which the same comes changes nothing of what comes of all. -/
theorem flatMap_setIfInBounds {y : α} (hx : xs[i]? = some x) (f : α → List γ) (hsame : f y = f x) :
    (xs.setIfInBounds i y).toList.flatMap f = xs.toList.flatMap f := by
  have hmap : (xs.setIfInBounds i y).map f = xs.map f := by
    rw [Array.map_setIfInBounds, hsame]
    exact setIfInBounds_self (by rw [Array.getElem?_map, hx, Option.map_some])
  rw [List.flatMap_def, ← Array.toList_map, hmap, Array.toList_map, List.flatMap_def]

/-- Of two entries put in one place the second stays. -/
theorem modify_setIfInBounds (y : α) (change : α → α) (hx : xs[i]? = some x) :
    (xs.setIfInBounds i y).modify i change = xs.setIfInBounds i (change y) := by
  rw [modify_eq change (getElem?_setIfInBounds_self y hx), Array.setIfInBounds_setIfInBounds]

/-- An entry that is replaced need not have been changed before. -/
theorem setIfInBounds_modify (change : α → α) (y : α) :
    (xs.modify i change).setIfInBounds i y = xs.setIfInBounds i y := by
  apply Array.ext_getElem?
  intro k
  simp only [Array.getElem?_setIfInBounds, Array.getElem?_modify, Array.size_modify]
  split <;> rfl

/-- Entries in different places are changed in any order. -/
theorem setIfInBounds_modify_of_ne (hj : j ≠ i) (change : α → α) (y : α) :
    (xs.modify i change).setIfInBounds j y = (xs.setIfInBounds j y).modify i change := by
  apply Array.ext_getElem?
  intro k
  simp only [Array.getElem?_setIfInBounds, Array.getElem?_modify, Array.size_modify]
  by_cases hjk : j = k
  · subst hjk
    simp only [if_pos, if_neg (Ne.symm hj)]
  · simp only [if_neg hjk]

/-- An entry is changed before another is added, or afterwards. -/
theorem modify_push (hi : i < xs.size) (change : α → α) (y : α) :
    (xs.modify i change).push y = (xs.push y).modify i change := by
  apply Array.ext_getElem?
  intro k
  simp only [Array.getElem?_push, Array.getElem?_modify, Array.size_modify]
  by_cases hik : i = k
  · subst hik
    simp only [if_pos, if_neg (Nat.ne_of_lt hi)]
  · simp only [if_neg hik]

/-- Changes that commute are made in any order. -/
theorem modify_modify_of_comm (change change' : α → α)
    (hcomm : ∀ x, change (change' x) = change' (change x)) :
    (xs.modify i change').modify j change = (xs.modify j change).modify i change' := by
  apply Array.ext_getElem?
  intro k
  simp only [Array.getElem?_modify]
  by_cases hik : i = k <;> by_cases hjk : j = k <;> simp [hik, hjk, Function.comp_def, hcomm]

/-- What is the same of a changed entry is the same of all. -/
theorem map_modify_of_same (xs : Array α) (j : Nat) (change : α → α) (p : α → γ)
    (hsame : ∀ x, p (change x) = p x) : (xs.modify j change).map p = xs.map p := by
  apply Array.ext_getElem?
  intro k
  rw [Array.getElem?_map, Array.getElem?_map, Array.getElem?_modify]
  split
  · rw [Option.map_map]
    exact congrFun (congrArg Option.map (funext hsame)) _
  · rfl

end LaneCard.Table
