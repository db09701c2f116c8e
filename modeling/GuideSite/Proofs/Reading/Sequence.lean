import Mathlib.Data.List.Forall2

/-!
# Readings one after the other

A reading gives a value or ends with an error, and a sequence of readings ends with the first error. So a sequence that
gives a value says that each of its readings does, and what every reading promises holds of all its values.

* `bind_eq_ok`, `bind_eq_error`: a sequence of two readings.
* `forall₂_of_mapM`, `mem_of_mapM`: the parts of a list that was read.
* `exists_of_mapM_eq_error`: the part that ends the reading of a list.
* `foldlM_invariant`: what the reading of each part keeps.
-/

namespace GuideSite

variable {ε α β : Type}

/-- A sequence of two readings succeeds just if both do. -/
theorem bind_eq_ok {x : Except ε α} {f : α → Except ε β} {b : β} :
    x >>= f = .ok b ↔ ∃ a, x = .ok a ∧ f a = .ok b := by
  cases x <;> simp [bind, Except.bind]

/-- A sequence of two readings fails if the first does, or the second. -/
theorem bind_eq_error {x : Except ε α} {f : α → Except ε β} {e : ε} :
    x >>= f = .error e ↔ x = .error e ∨ ∃ a, x = .ok a ∧ f a = .error e := by
  cases x <;> simp [bind, Except.bind]

theorem bind_of_ok {x : Except ε α} {f : α → Except ε β} {a : α} (h : x = .ok a) : x >>= f = f a := by
  rw [h]
  rfl

theorem bind_of_error {x : Except ε α} {f : α → Except ε β} {e : ε} (h : x = .error e) : x >>= f = .error e := by
  rw [h]
  rfl

/-- To give an error in other words changes no value. -/
theorem mapError_eq_ok {ε' : Type} {x : Except ε α} {f : ε → ε'} {a : α} : x.mapError f = .ok a ↔ x = .ok a := by
  cases x <;> simp [Except.mapError]

/-! ## Lists -/

/-- What every part of a list gives, the list gives. -/
theorem mapM_eq_ok_map {f : α → Except ε β} {g : α → β} {xs : List α} (h : ∀ x ∈ xs, f x = .ok (g x)) :
    xs.mapM f = .ok (xs.map g) := by
  induction xs with
  | nil => rfl
  | cons x xs ih =>
    obtain ⟨hx, hxs⟩ := List.forall_mem_cons.1 h
    rw [List.mapM_cons, hx, ih hxs]
    rfl

/-- A list is read in another way to the same end if each of its parts is. -/
theorem mapM_eq_ok_imp {f g : α → Except ε β} {xs : List α} {ys : List β}
    (hfg : ∀ x ∈ xs, ∀ y, f x = .ok y → g x = .ok y) (h : xs.mapM f = .ok ys) : xs.mapM g = .ok ys := by
  induction xs generalizing ys with
  | nil => exact h
  | cons x xs ih =>
    obtain ⟨hfirst, hothers⟩ := List.forall_mem_cons.1 hfg
    rw [List.mapM_cons] at h ⊢
    obtain ⟨y, hx, h⟩ := bind_eq_ok.1 h
    obtain ⟨rest, hrest, h⟩ := bind_eq_ok.1 h
    rw [bind_of_ok (hfirst y hx), bind_of_ok (ih hothers hrest)]
    exact h

theorem forall₂_of_mapM {f : α → Except ε β} {xs : List α} {ys : List β} (h : xs.mapM f = .ok ys) :
    List.Forall₂ (fun x y => f x = .ok y) xs ys := by
  induction xs generalizing ys with
  | nil =>
    obtain rfl : [] = ys := Except.ok.inj h
    exact .nil
  | cons x xs ih =>
    rw [List.mapM_cons] at h
    obtain ⟨y, hx, h⟩ := bind_eq_ok.1 h
    obtain ⟨rest, hrest, h⟩ := bind_eq_ok.1 h
    obtain rfl := Except.ok.inj h
    exact .cons hx (ih hrest)

/-- Every value of a list that was read comes from one of its parts. -/
theorem mem_of_mapM {f : α → Except ε β} {xs : List α} {ys : List β} (h : xs.mapM f = .ok ys) {y : β} (hy : y ∈ ys) :
    ∃ x ∈ xs, f x = .ok y := by
  have hforall := forall₂_of_mapM h
  clear h
  induction hforall with
  | nil => cases hy
  | cons hx _ ih =>
    obtain rfl | hy := List.mem_cons.1 hy
    · exact ⟨_, List.mem_cons_self, hx⟩
    · obtain ⟨x, hmem, hx⟩ := ih hy
      exact ⟨x, List.mem_cons_of_mem _ hmem, hx⟩

/-- Every part of a list that was read has its value there. -/
theorem exists_of_mapM {f : α → Except ε β} {xs : List α} {ys : List β} (h : xs.mapM f = .ok ys) {x : α} (hx : x ∈ xs) :
    ∃ y ∈ ys, f x = .ok y := by
  have hforall := forall₂_of_mapM h
  clear h
  induction hforall with
  | nil => cases hx
  | cons hfirst _ ih =>
    obtain rfl | hx := List.mem_cons.1 hx
    · exact ⟨_, List.mem_cons_self, hfirst⟩
    · obtain ⟨y, hmem, hy⟩ := ih hx
      exact ⟨y, List.mem_cons_of_mem _ hmem, hy⟩

/-- A list that cannot be read has a first part that cannot. -/
theorem exists_of_mapM_eq_error {f : α → Except ε β} {e : ε} {xs : List α} (h : xs.mapM f = .error e) :
    ∃ before x after, xs = before ++ x :: after ∧ f x = .error e ∧ ∀ y ∈ before, ∃ b, f y = .ok b := by
  induction xs with
  | nil => cases h
  | cons x xs ih =>
    rw [List.mapM_cons] at h
    obtain hx | ⟨b, hx, h⟩ := bind_eq_error.1 h
    · exact ⟨[], x, xs, rfl, hx, nofun⟩
    · obtain hxs | ⟨ys, -, h⟩ := bind_eq_error.1 h
      · obtain ⟨before, y, after, rfl, hy, hbefore⟩ := ih hxs
        exact ⟨x :: before, y, after, rfl, hy, List.forall_mem_cons.2 ⟨⟨b, hx⟩, hbefore⟩⟩
      · cases h

/-- The same, for a list that is read together with the positions of its parts. -/
theorem exists_of_mapM_zipIdx_eq_error {f : α × Nat → Except ε β} {e : ε} {xs : List α}
    (h : xs.zipIdx.mapM f = .error e) :
    ∃ i x, xs[i]? = some x ∧ f (x, i) = .error e ∧ ∀ j < i, ∀ y, xs[j]? = some y → ∃ b, f (y, j) = .ok b := by
  obtain ⟨before, ⟨x, i⟩, after, hsplit, hx, hbefore⟩ := exists_of_mapM_eq_error h
  have hget : ∀ j, (before ++ (x, i) :: after)[j]? = (xs[j]?).map fun y => (y, 0 + j) := fun j => by
    rw [← hsplit, List.getElem?_zipIdx]
  have hlast := hget before.length
  rw [List.getElem?_append_right (Nat.le_refl _), Nat.sub_self, List.getElem?_cons_zero, eq_comm,
    Option.map_eq_some_iff] at hlast
  obtain ⟨y, hy, heq⟩ := hlast
  obtain ⟨rfl, hi⟩ := Prod.mk.inj heq
  obtain rfl : before.length = i := by omega
  refine ⟨before.length, y, hy, hx, fun j hj z hz => hbefore (z, j) ?_⟩
  have hfound := hget j
  rw [List.getElem?_append_left hj, hz] at hfound
  exact List.mem_of_getElem? (hfound.trans (by simp))

/-- What the reading of each part keeps, the reading of the list keeps. -/
theorem foldlM_invariant {f : β → α → Except ε β} {P : β → Prop} {xs : List α}
    (hstep : ∀ x ∈ xs, ∀ b b', f b x = .ok b' → P b → P b') {b b' : β} (h : xs.foldlM f b = .ok b') (hb : P b) :
    P b' := by
  induction xs generalizing b with
  | nil =>
    obtain rfl : b = b' := Except.ok.inj h
    exact hb
  | cons x xs ih =>
    obtain ⟨hx, hxs⟩ := List.forall_mem_cons.1 hstep
    rw [List.foldlM_cons] at h
    obtain ⟨b₁, hfirst, h⟩ := bind_eq_ok.1 h
    exact ih hxs h (hx b b₁ hfirst hb)

/-- A list without values to give is read just if each of its parts is. -/
theorem forM_eq_ok {f : α → Except ε Unit} {xs : List α} : xs.forM f = .ok () ↔ ∀ x ∈ xs, f x = .ok () := by
  induction xs with
  | nil => exact iff_of_true rfl nofun
  | cons x xs ih =>
    rw [List.forM, bind_eq_ok, List.forall_mem_cons, ← ih]
    exact ⟨fun ⟨_, hx, hxs⟩ => ⟨hx, hxs⟩, fun ⟨hx, hxs⟩ => ⟨(), hx, hxs⟩⟩

/-- A list without values to give ends with the error of one of its parts. -/
theorem exists_of_forM_eq_error {f : α → Except ε Unit} {e : ε} {xs : List α} (h : xs.forM f = .error e) :
    ∃ x ∈ xs, f x = .error e := by
  induction xs with
  | nil => cases h
  | cons x xs ih =>
    rw [List.forM] at h
    obtain hx | ⟨-, -, h⟩ := bind_eq_error.1 h
    · exact ⟨x, List.mem_cons_self, hx⟩
    · obtain ⟨y, hmem, hy⟩ := ih h
      exact ⟨y, List.mem_cons_of_mem _ hmem, hy⟩

end GuideSite
