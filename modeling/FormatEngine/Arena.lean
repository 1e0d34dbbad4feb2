import FormatEngine.Error
/-!
# The scratch arena

A bump arena of fixed capacity. Allocations are handed out contiguously from the offset, which
never passes the capacity (`offset_le`); an allocation larger than the room left fails and
changes nothing, and a reset gives all the room back.
-/
namespace FormatEngine

/-- A bump arena: its capacity and how much of it is handed out. -/
structure Arena where
  capacity : Nat
  offset : Nat
  offset_le : offset ≤ capacity

namespace Arena

/-- The capacity of an arena made without one. -/
def defaultCapacity : Nat := 1024

def new (capacity : Nat) : Arena := ⟨capacity, 0, Nat.zero_le _⟩

instance : Inhabited Arena := ⟨new 0⟩

def remaining (a : Arena) : Nat := a.capacity - a.offset

def exhausted (a : Arena) : Bool := a.remaining == 0

/-- Hands out the next `size` bytes as the range `[start, start + size)`. -/
def alloc (a : Arena) (size : Nat) : Except FmtError ((Nat × Nat) × Arena) :=
  if h : size ≤ a.capacity - a.offset then
    .ok ((a.offset, a.offset + size), ⟨a.capacity, a.offset + size, by have := a.offset_le; omega⟩)
  else .error (.arenaExhausted size a.remaining)

def reset (a : Arena) : Arena := new a.capacity

theorem alloc_eq_ok_iff (a : Arena) (size : Nat) (r : (Nat × Nat) × Arena) :
    a.alloc size = .ok r ↔ size ≤ a.remaining ∧ r.1 = (a.offset, a.offset + size) ∧
      r.2.capacity = a.capacity ∧ r.2.offset = a.offset + size := by
  unfold alloc remaining
  split
  · constructor
    · intro h; cases h; simp_all
    · rintro ⟨_, h1, h2, h3⟩
      obtain ⟨r1, ⟨c, o, p⟩⟩ := r
      simp_all
  · simp only [reduceCtorEq, false_iff, not_and]
    intro h; omega

end Arena
end FormatEngine
