import ItemTable.Error

set_option autoImplicit false

/-! # The shared resource

A place for the one resource that a whole program shares. It is installed once and never replaced.
-/

namespace ItemTable

/-- A place for one resource. -/
structure Shared (α : Type) where
  installed : Option α

namespace Shared

variable {α : Type}

/-- The place before anything is installed. -/
def empty : Shared α := ⟨none⟩

/-- The resource that is installed. -/
def current (shared : Shared α) : Except Error α :=
  match shared.installed with
  | some resource => .ok resource
  | none => .error (.config .globalMissing)

/-- Installs a resource; only the first one is taken. -/
def install (shared : Shared α) (resource : α) : Except Error α × Shared α :=
  match shared.installed with
  | some _ => (.error (.config .globalPresent), shared)
  | none => (.ok resource, ⟨some resource⟩)

/-- What is installed before an installation is there after it; otherwise the new resource is. -/
theorem installed_install (shared : Shared α) (resource : α) :
    (shared.install resource).2.installed = shared.installed.or (some resource) := by
  unfold install
  cases hinstalled : shared.installed with
  | none => rfl
  | some first => exact hinstalled

/-- However many resources are installed one after the other, the first one stays. -/
theorem installed_foldl_install (shared : Shared α) (resources : List α) :
    (resources.foldl (fun place resource => (place.install resource).2) shared).installed =
      shared.installed.or resources.head? := by
  induction resources generalizing shared with
  | nil => exact (Option.or_none).symm
  | cons resource rest ih =>
    rw [List.foldl_cons, ih, installed_install, Option.or_assoc, Option.some_or, List.head?_cons]

end Shared

end ItemTable
