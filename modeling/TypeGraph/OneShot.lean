/-
A cell that is filled once.

The first computation that succeeds fills the cell; from then on its content is
handed out and nothing is computed again.
-/
namespace TypeGraph

/-- A cell that is empty or holds its one content. -/
structure OneShot (α : Type) where
  content : Option α
  deriving Inhabited

namespace OneShot

variable {α : Type}

/-- The empty cell. -/
def empty : OneShot α := ⟨none⟩

/-- Whether the cell has been filled. -/
def isFilled (cell : OneShot α) : Bool := cell.content.isSome

/-- Fills the cell, unless it is filled. -/
def set (cell : OneShot α) (a : α) : OneShot α := ⟨some (cell.content.getD a)⟩

/-- The content of the cell, computed if there is none yet, and the cell afterwards.  A
computation that fails leaves no new cell. -/
def getOrCompute {m : Type → Type} [Monad m] (cell : OneShot α) (compute : m α) :
    m (α × OneShot α) :=
  match cell.content with
  | some a => pure (a, cell)
  | none => do
    let a ← compute
    pure (a, cell.set a)

@[simp] theorem content_set_of_some {cell : OneShot α} {a : α} (h : cell.content = some a)
    (b : α) : (cell.set b).content = some a := by
  simp [set, h]

end OneShot

end TypeGraph
