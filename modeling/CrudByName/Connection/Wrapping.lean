import CrudByName.Connection

/-!
# Wrapped connections

A connection may be lent out or held in a box, and either may be wrapped again.  A wrapper keeps
the state of what it wraps in a layer of its own and forwards every call, the spelling of
placeholders included; `Wrapping.connection` does so for any nesting.
-/

namespace CrudByName

/-- The state of a connection that is used on loan. -/
structure Lent (σ : Type) where
  inner : σ

/-- The state of a connection that is kept in a box. -/
structure Boxed (σ : Type) where
  inner : σ

namespace Connection

/-- A connection on loan. -/
def lent (c : Connection σ) : Connection (Lent σ) where
  style s := c.style s.inner
  execute sql params s := (c.execute sql params s.inner).map id Lent.mk
  query sql params s := (c.query sql params s.inner).map id Lent.mk
  lastInsertId s := (c.lastInsertId s.inner).map id Lent.mk

/-- A connection in a box. -/
def boxed (c : Connection σ) : Connection (Boxed σ) where
  style s := c.style s.inner
  execute sql params s := (c.execute sql params s.inner).map id Boxed.mk
  query sql params s := (c.query sql params s.inner).map id Boxed.mk
  lastInsertId s := (c.lastInsertId s.inner).map id Boxed.mk

/-- The same connection with the default spelling of placeholders. -/
def plain (c : Connection σ) : Connection σ where
  execute := c.execute
  query := c.query
  lastInsertId := c.lastInsertId

end Connection

/-- Layers around a connection, the outermost first. -/
inductive Wrapping where
  | direct
  | lent (inside : Wrapping)
  | boxed (inside : Wrapping)
  deriving DecidableEq, Repr

namespace Wrapping

/-- The state under all layers, with each of them around it. -/
def State (σ : Type) : Wrapping → Type
  | direct => σ
  | lent inside => Lent (inside.State σ)
  | boxed inside => Boxed (inside.State σ)

/-- The connection with all layers around it. -/
def connection (c : Connection σ) : (w : Wrapping) → Connection (w.State σ)
  | direct => c
  | lent inside => (inside.connection c).lent
  | boxed inside => (inside.connection c).boxed

/-- A state with all layers around it. -/
def wrap (s : σ) : (w : Wrapping) → w.State σ
  | direct => s
  | lent inside => ⟨inside.wrap s⟩
  | boxed inside => ⟨inside.wrap s⟩

/-- The state of the innermost connection. -/
def unwrap : (w : Wrapping) → w.State σ → σ
  | direct, s => s
  | lent inside, s => inside.unwrap s.inner
  | boxed inside, s => inside.unwrap s.inner

theorem unwrap_wrap (s : σ) (w : Wrapping) : w.unwrap (w.wrap s) = s := by
  induction w with
  | direct => rfl
  | lent inside ih => exact ih
  | boxed inside ih => exact ih

theorem wrap_unwrap (w : Wrapping) (s : w.State σ) : w.wrap (w.unwrap s) = s := by
  induction w with
  | direct => rfl
  | lent inside ih => exact congrArg Lent.mk (ih s.inner)
  | boxed inside ih => exact congrArg Boxed.mk (ih s.inner)

end Wrapping

end CrudByName
