import FormatEngine.Error
/-!
# The argument cursor

The directives of a template take their arguments in order through a cursor that only moves
forward. A take of kind `k` succeeds when an argument is left and has kind `k`; it then returns
its payload and moves one place on. A take that fails leaves the cursor where it was, and
reports the index it stood at.

A take made on a cursor held in place (`Cursor.take`) answers and leaves the cursor it moved to,
or the same cursor when it fails; `Cursor.takeAll` makes a sequence of such takes, each on the
cursor the one before it left.

Main statements: the position never passes the end, and it counts the successful takes.
-/
namespace FormatEngine

structure Cursor where
  args : List Arg
  pos : Nat
  pos_le : pos ≤ args.length

namespace Cursor

def start (args : List Arg) : Cursor := ⟨args, 0, Nat.zero_le _⟩

def consumed (c : Cursor) : Nat := c.pos

def remaining (c : Cursor) : Nat := c.args.length - c.pos

/-- Takes the next argument as a payload of kind `k`. -/
def next (c : Cursor) (k : ArgKind) : Except FmtError (k.Payload × Cursor) :=
  if h : c.pos < c.args.length then
    match c.args[c.pos].as? k with
    | some v => .ok (v, ⟨c.args, c.pos + 1, h⟩)
    | none => .error (.argumentMismatch c.pos k c.args[c.pos].kind)
  else .error (.missingArgument c.pos k)

theorem next_pos {c c' : Cursor} {k : ArgKind} {v : k.Payload}
    (h : c.next k = .ok (v, c')) : c'.pos = c.pos + 1 ∧ c'.args = c.args := by
  unfold next at h
  split at h
  · split at h
    · cases h; exact ⟨rfl, rfl⟩
    · cases h
  · cases h

/-- A take made on a cursor held in place: its answer, and the cursor it leaves, which is the
same cursor when the take fails. -/
def take (c : Cursor) (k : ArgKind) : Except FmtError k.Payload × Cursor :=
  match c.next k with
  | .ok (v, c') => (.ok v, c')
  | .error e => (.error e, c)

/-- A sequence of takes, each on the cursor the one before it left: the answers, each with the
kind it asked for, and the cursor after the last. -/
def takeAll (c : Cursor) : List ArgKind → List (Σ k : ArgKind, Except FmtError k.Payload) × Cursor
  | [] => ([], c)
  | k :: ks =>
    let r := c.take k
    let rest := r.2.takeAll ks
    (⟨k, r.1⟩ :: rest.1, rest.2)

@[simp] theorem takeAll_nil (c : Cursor) : c.takeAll [] = ([], c) := rfl

@[simp] theorem takeAll_cons (c : Cursor) (k : ArgKind) (ks : List ArgKind) :
    c.takeAll (k :: ks) =
      (⟨k, (c.take k).1⟩ :: ((c.take k).2.takeAll ks).1, ((c.take k).2.takeAll ks).2) := rfl

end Cursor
end FormatEngine
