import Mathlib.Data.List.Forall2

set_option autoImplicit false

/-! # Lists converted element by element

A list whose elements are converted one after the other has one result for each element, in order
(`Traversal.forall₂_of_mapM`). So what holds of the conversion of an element can be said of every
result. What is listed for the elements and their positions is told of by the positions
(`Traversal.mem_numbered`). -/

namespace ItemTable

namespace Traversal

variable {α β ε : Type}

theorem map_eq_ok {r : Except ε α} {f : α → β} {b : β} (h : r.map f = .ok b) :
    ∃ a, r = .ok a ∧ f a = b := by
  cases r with
  | error e => cases h
  | ok a => exact ⟨a, rfl, Except.ok.inj h⟩

theorem bind_eq_ok {r : Except ε α} {f : α → Except ε β} {b : β} (h : r >>= f = .ok b) :
    ∃ a, r = .ok a ∧ f a = .ok b := by
  cases r with
  | error e => cases h
  | ok a => exact ⟨a, rfl, h⟩

/-- The results of two functions on a list are related if they are for each element. -/
theorem forall₂_map_map {γ : Type} {R : β → γ → Prop} {f : α → β} {g : α → γ} {xs : List α} :
    List.Forall₂ R (xs.map f) (xs.map g) ↔ ∀ x ∈ xs, R (f x) (g x) := by
  rw [List.forall₂_map_left_iff, List.forall₂_map_right_iff, List.forall₂_same]

/-- Each result is that of the element in its place. -/
theorem forall₂_of_mapM {f : α → Except ε β} {xs : List α} {ys : List β}
    (h : xs.mapM f = .ok ys) : List.Forall₂ (fun x y => f x = .ok y) xs ys := by
  induction xs generalizing ys with
  | nil =>
    cases h
    exact .nil
  | cons x xs ih =>
    rw [List.mapM_cons] at h
    cases hx : f x with
    | error e =>
      rw [hx] at h
      cases h
    | ok y =>
      cases hxs : xs.mapM f with
      | error e =>
        rw [hx, hxs] at h
        cases h
      | ok ys' =>
        rw [hx, hxs] at h
        cases h
        exact .cons hx (ih hxs)

/-- A list is converted to the results of its elements. -/
theorem mapM_of_forall₂ {f : α → Except ε β} {xs : List α} {ys : List β}
    (h : List.Forall₂ (fun x y => f x = .ok y) xs ys) : xs.mapM f = .ok ys := by
  induction h with
  | nil => rfl
  | cons hxy _ ih =>
    rw [List.mapM_cons, hxy, ih]
    rfl

/-- A list is converted to the images of its elements exactly if each element is to its own. -/
theorem mapM_eq_ok_map_iff {f : α → Except ε β} {g : α → β} {xs : List α} :
    xs.mapM f = .ok (xs.map g) ↔ ∀ x ∈ xs, f x = .ok (g x) := by
  have hmap : xs.mapM f = .ok (xs.map g) ↔
      List.Forall₂ (fun x y => f x = .ok y) xs (xs.map g) := ⟨forall₂_of_mapM, mapM_of_forall₂⟩
  rw [hmap, List.forall₂_map_right_iff, List.forall₂_same]

theorem map_eq_ok_iff {r : Except ε α} {f : α → β} (hf : ∀ a a', f a = f a' → a = a') {a : α} :
    r.map f = .ok (f a) ↔ r = .ok a := by
  constructor
  · intro h
    obtain ⟨a', ha', heq⟩ := map_eq_ok h
    rw [ha', hf _ _ heq]
  · rintro rfl
    rfl

theorem forall₂_imp_of_mem {R S : α → β → Prop} {xs : List α} {ys : List β}
    (h : List.Forall₂ R xs ys) (himp : ∀ x ∈ xs, ∀ y, R x y → S x y) : List.Forall₂ S xs ys := by
  induction h with
  | nil => exact .nil
  | cons hxy _ ih =>
    obtain ⟨hfirst, hrest⟩ := List.forall_mem_cons.1 himp
    exact .cons (hfirst _ hxy) (ih hrest)

theorem exists_of_mem_right {R : α → β → Prop} {xs : List α} {ys : List β}
    (h : List.Forall₂ R xs ys) : ∀ y ∈ ys, ∃ x ∈ xs, R x y := by
  induction h with
  | nil => simp
  | cons hxy _ ih =>
    intro y hy
    rcases List.mem_cons.1 hy with rfl | hy
    · exact ⟨_, .head _, hxy⟩
    · obtain ⟨x, hx, hR⟩ := ih y hy
      exact ⟨x, .tail _ hx, hR⟩

/-- Each result comes from the element at its place. -/
theorem getElem?_of_forall₂ {R : α → β → Prop} {xs : List α} {ys : List β}
    (h : List.Forall₂ R xs ys) {i : Nat} {y : β} (hy : ys[i]? = some y) :
    ∃ x, xs[i]? = some x ∧ R x y := by
  induction h generalizing i with
  | nil => simp at hy
  | cons hxy _ ih =>
    cases i with
    | zero =>
      cases hy
      exact ⟨_, rfl, hxy⟩
    | succ i => exact ih hy

theorem exists_of_mem_left {R : α → β → Prop} {xs : List α} {ys : List β}
    (h : List.Forall₂ R xs ys) : ∀ x ∈ xs, ∃ y ∈ ys, R x y := by
  induction h with
  | nil => simp
  | cons hxy _ ih =>
    intro x hx
    rcases List.mem_cons.1 hx with rfl | hx
    · exact ⟨_, .head _, hxy⟩
    · obtain ⟨y, hy, hR⟩ := ih x hx
      exact ⟨y, .tail _ hy, hR⟩

/-- Where a result has one element, results repeat only with their elements. -/
theorem nodup_of_forall₂ {R : α → β → Prop} (hR : ∀ x x' y, R x y → R x' y → x = x')
    {xs : List α} {ys : List β} (h : List.Forall₂ R xs ys) (hxs : xs.Nodup) : ys.Nodup := by
  induction h with
  | nil => exact List.nodup_nil
  | cons hxy hrest ih =>
    obtain ⟨hx, hxs⟩ := List.nodup_cons.1 hxs
    refine List.nodup_cons.2 ⟨?_, ih hxs⟩
    intro hy
    obtain ⟨x', hx', hxy'⟩ := exists_of_mem_right hrest _ hy
    exact hx (hR _ _ _ hxy hxy' ▸ hx')

/-- A result is that of some element. -/
theorem exists_of_mem_mapM {f : α → Except ε β} {xs : List α} {ys : List β}
    (h : xs.mapM f = .ok ys) : ∀ y ∈ ys, ∃ x ∈ xs, f x = .ok y :=
  exists_of_mem_right (forall₂_of_mapM h)

/-- A list is converted exactly if each of its elements is. -/
theorem exists_mapM_iff {f : α → Except ε β} {xs : List α} :
    (∃ ys, xs.mapM f = .ok ys) ↔ ∀ x ∈ xs, ∃ y, f x = .ok y := by
  constructor
  · rintro ⟨ys, hys⟩ x hx
    obtain ⟨y, -, hy⟩ := exists_of_mem_left (forall₂_of_mapM hys) x hx
    exact ⟨y, hy⟩
  · intro h
    induction xs with
    | nil => exact ⟨[], rfl⟩
    | cons x xs ih =>
      obtain ⟨⟨y, hy⟩, hxs⟩ := List.forall_mem_cons.1 h
      obtain ⟨ys, hys⟩ := ih hxs
      refine ⟨y :: ys, ?_⟩
      rw [List.mapM_cons, hy, hys]
      rfl

theorem exists_of_isOk {r : Except ε α} (h : r.isOk = true) : ∃ a, r = .ok a := by
  cases r with
  | ok a => exact ⟨a, rfl⟩
  | error => cases h

theorem exists_map_eq_ok_iff {r : Except ε α} {f : α → β} :
    (∃ b, r.map f = .ok b) ↔ ∃ a, r = .ok a := by
  constructor
  · rintro ⟨b, hb⟩
    obtain ⟨a, ha, -⟩ := map_eq_ok hb
    exact ⟨a, ha⟩
  · rintro ⟨a, rfl⟩
    exact ⟨f a, rfl⟩

/-- What looks up every element of a list still does so if it finds more. -/
theorem mapM_mono {f g : α → Option β} (h : ∀ x y, f x = some y → g x = some y) {xs : List α}
    {ys : List β} (hf : xs.mapM f = some ys) : xs.mapM g = some ys := by
  induction xs generalizing ys with
  | nil => exact hf
  | cons x xs ih =>
    rw [List.mapM_cons] at hf
    obtain ⟨y, hy, hf⟩ := Option.bind_eq_some_iff.1 hf
    obtain ⟨rest, hrest, hf⟩ := Option.bind_eq_some_iff.1 hf
    rw [List.mapM_cons, h x y hy, ih hrest]
    exact hf

/-- What a walk through a list lists for the elements, each with its position from a first one on,
it lists for one of them. -/
theorem mem_numbered (f : Nat → List α → List β) (g : Nat → α → List β)
    (hnil : ∀ first, f first [] = [])
    (hcons : ∀ first x xs, f first (x :: xs) = g first x ++ f (first + 1) xs) {first : Nat}
    {xs : List α} {y : β} :
    y ∈ f first xs ↔ ∃ (i : Nat) (x : α), xs[i]? = some x ∧ y ∈ g (first + i) x := by
  induction xs generalizing first with
  | nil => simp [hnil]
  | cons x₀ xs ih =>
    rw [hcons, List.mem_append, ih]
    constructor
    · rintro (hfirst | ⟨i, x, hx, hy⟩)
      · exact ⟨0, x₀, rfl, hfirst⟩
      · rw [Nat.add_right_comm, Nat.add_assoc] at hy
        exact ⟨i + 1, x, hx, hy⟩
    · rintro ⟨i, x, hx, hy⟩
      cases i with
      | zero =>
        obtain rfl : x₀ = x := Option.some.inj hx
        exact .inl hy
      | succ i =>
        refine .inr ⟨i, x, hx, ?_⟩
        rwa [Nat.add_right_comm, Nat.add_assoc]

end Traversal

end ItemTable
