/-!
# Collisions

No hash is assumed to be free of collisions. A statement that would need one to be injective names the two inputs that
collide if it fails.
-/

namespace ShieldedPool

variable {α β : Type} {f : α → β}

/-- Two different inputs of a function that have the same value. -/
structure Collision (f : α → β) (x y : α) : Prop where
  ne : x ≠ y
  eq : f x = f y

theorem eq_or_collision {x y : α} (h : f x = f y) : x = y ∨ Collision f x y := by
  by_cases e : x = y
  · exact Or.inl e
  · exact Or.inr ⟨e, h⟩

/-- One of the inputs in `P` collides with one of those in `Q`. -/
def Collides (f : α → β) (P Q : α → Prop) : Prop := ∃ x y, P x ∧ Q y ∧ Collision f x y

theorem Collides.mono {P P' Q Q' : α → Prop} (hP : ∀ x, P x → P' x) (hQ : ∀ y, Q y → Q' y) (h : Collides f P Q) :
    Collides f P' Q' := by
  obtain ⟨x, y, hx, hy, hc⟩ := h
  exact ⟨x, y, hP x hx, hQ y hy, hc⟩

end ShieldedPool
