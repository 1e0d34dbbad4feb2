import FormatEngine.Cursor
/-!
# Takes on the argument cursor

The directives of a template take their arguments through one cursor. A take asks for a kind:
it answers when an argument is left and has that kind, with the argument's payload, and moves
one place on; it fails when no argument is left, or when the next one has another kind, and then
reports the position it stood at and stays there. `take_cases` says this once, and every other
fact about a take is read off it.

Main statement: `cursor_takes_in_order`. Over any sequence of takes, of any kinds, the cursor
stays on its list and its position counts the takes that answered, so it never passes the end and
the count of arguments left is exact.
-/
namespace FormatEngine.Cursor

/-! ## One take -/

section
variable {c : Cursor} {k : ArgKind}

/-- A take at an argument of the kind asked for answers with its payload and moves one place
on. -/
theorem take_of_as? (h : c.pos < c.args.length) {v : k.Payload}
    (hv : c.args[c.pos].as? k = some v) : c.take k = (.ok v, ⟨c.args, c.pos + 1, h⟩) := by
  simp only [take, next, dif_pos h, hv]

theorem take_of_kind_ne (h : c.pos < c.args.length) (hk : c.args[c.pos].kind ≠ k) :
    c.take k = (.error (.argumentMismatch c.pos k c.args[c.pos].kind), c) := by
  -- an argument of another kind has no payload of kind `k`
  have hv : c.args[c.pos].as? k = none :=
    Option.not_isSome_iff_eq_none.1 fun hs => hk ((Arg.as?_isSome_iff _ _).1 hs)
  simp only [take, next, dif_pos h, hv]

theorem take_of_end (h : c.pos = c.args.length) :
    c.take k = (.error (.missingArgument c.pos k), c) := by
  have hlt : ¬ c.pos < c.args.length := by omega
  simp only [take, next, dif_neg hlt]

end

/-- What a take can do: answer with the payload of the argument at the position and move one
place on, fail on an argument of another kind, or fail at the end of the list. The cursor stays
where it was when the take fails. -/
theorem take_cases (c : Cursor) (k : ArgKind) :
    (∃ (h : c.pos < c.args.length) (v : k.Payload),
        c.args[c.pos].as? k = some v ∧ c.take k = (.ok v, ⟨c.args, c.pos + 1, h⟩)) ∨
      (∃ h : c.pos < c.args.length, c.args[c.pos].kind ≠ k ∧
        c.take k = (.error (.argumentMismatch c.pos k c.args[c.pos].kind), c)) ∨
      (c.pos = c.args.length ∧ c.take k = (.error (.missingArgument c.pos k), c)) := by
  by_cases h : c.pos < c.args.length
  · by_cases hk : c.args[c.pos].kind = k
    · obtain ⟨v, hv⟩ := Option.isSome_iff_exists.1 ((Arg.as?_isSome_iff _ _).2 hk)
      exact .inl ⟨h, v, hv, take_of_as? h hv⟩
    · exact .inr (.inl ⟨h, hk, take_of_kind_ne h hk⟩)
  · have hend : c.pos = c.args.length := by
      have := c.pos_le
      omega
    exact .inr (.inr ⟨hend, take_of_end hend⟩)

/-- A take answers exactly when an argument is left and it has the kind asked for. -/
theorem take_ok_iff (c : Cursor) (k : ArgKind) :
    (∃ v, (c.take k).1 = .ok v) ↔ ∃ h : c.pos < c.args.length, c.args[c.pos].kind = k := by
  rcases take_cases c k with ⟨h, v, hv, htake⟩ | ⟨h, hk, htake⟩ | ⟨hend, htake⟩
  · refine iff_of_true ⟨v, by rw [htake]⟩ ⟨h, ?_⟩
    rw [← Arg.as?_isSome_iff, hv]
    rfl
  · rw [htake]
    exact iff_of_false (fun ⟨_, hv⟩ => by cases hv) (fun ⟨_, hk'⟩ => hk hk')
  · rw [htake]
    refine iff_of_false (fun ⟨_, hv⟩ => by cases hv) (fun ⟨h, _⟩ => ?_)
    omega

/-- A take keeps the list, and moves one place on when it answers and not at all when it
fails. -/
theorem take_pos (c : Cursor) (k : ArgKind) :
    (c.take k).2.args = c.args ∧ (c.take k).2.pos = c.pos + if (c.take k).1.isOk then 1 else 0 := by
  rcases take_cases c k with ⟨_, v, _, htake⟩ | ⟨_, _, htake⟩ | ⟨_, htake⟩ <;>
    rw [htake] <;> exact ⟨rfl, rfl⟩

/-! ## A sequence of takes -/

/-- Over a sequence of takes the cursor stays on its list, and its position moves on by the
number of takes that answered. -/
theorem takeAll_pos (c : Cursor) (ks : List ArgKind) :
    (c.takeAll ks).2.args = c.args ∧
      (c.takeAll ks).2.pos = c.pos + (c.takeAll ks).1.countP (·.2.isOk) := by
  induction ks generalizing c with
  | nil => exact ⟨rfl, rfl⟩
  | cons k ks ih =>
    -- the first take moves the cursor, the rest of the takes start from there
    obtain ⟨hargs, hpos⟩ := ih (c.take k).2
    obtain ⟨hargs₁, hpos₁⟩ := take_pos c k
    rw [takeAll_cons, List.countP_cons]
    dsimp only
    refine ⟨hargs.trans hargs₁, ?_⟩
    rw [hpos, hpos₁]
    omega

/-- The argument cursor only moves forward. A take answers exactly when an argument is left and
it has the kind asked for, and then with that argument's payload, moving one place on; it fails
with a missing argument at the end of the list and with a mismatch, naming both kinds, before an
argument of another kind, and then stays where it was. So over any sequence of takes from the
start the cursor stays on its list, the arguments consumed are the takes that answered, never
more than the list holds, and those left are the rest. -/
theorem cursor_takes_in_order (args : List Arg) :
    (∀ (c : Cursor) (k : ArgKind), c.args = args →
      ((∃ v, (c.take k).1 = .ok v) ↔ ∃ h : c.pos < args.length, args[c.pos].kind = k) ∧
        (∀ (h : c.pos < args.length) (v : k.Payload), args[c.pos].as? k = some v →
          (c.take k).1 = .ok v ∧ (c.take k).2.pos = c.pos + 1 ∧ (c.take k).2.args = args) ∧
        (∀ h : c.pos < args.length, args[c.pos].kind ≠ k →
          c.take k = (.error (.argumentMismatch c.pos k args[c.pos].kind), c)) ∧
        (c.pos = args.length → c.take k = (.error (.missingArgument c.pos k), c))) ∧
      ∀ ks : List ArgKind,
        let r := (start args).takeAll ks
        r.2.args = args ∧ r.2.consumed = r.1.countP (·.2.isOk) ∧ r.2.consumed ≤ args.length ∧
          r.2.consumed + r.2.remaining = args.length := by
  refine ⟨fun c k hargs => ?_, fun ks => ?_⟩
  · subst hargs
    refine ⟨take_ok_iff c k, fun h v hv => ?_, take_of_kind_ne, take_of_end⟩
    rw [take_of_as? h hv]
    exact ⟨rfl, rfl, rfl⟩
  · intro r
    obtain ⟨hargs, hpos⟩ := takeAll_pos (start args) ks
    have hargs' : r.2.args = args := hargs
    have hle : r.2.pos ≤ args.length := hargs' ▸ r.2.pos_le
    refine ⟨hargs', hpos.trans (Nat.zero_add _), hle, ?_⟩
    rw [consumed, remaining, hargs']
    omega

/-- Before `[uint 1, int 2]` a take of an `int` fails, naming both kinds, and stays at the start;
then takes of a `uint`, an `int` and a `double` answer twice and fail at the end, so two
arguments are consumed and none is left. -/
theorem takes_after_mismatch :
    let args := [Arg.uint 1, Arg.int 2]
    (start args).take .int = (.error (.argumentMismatch 0 .int .uint), start args) ∧
      ((start args).takeAll [.int, .uint, .int, .double]).2.consumed = 2 ∧
      ((start args).takeAll [.int, .uint, .int, .double]).2.remaining = 0 := by
  intro args
  have h := cursor_takes_in_order args
  have hmis := (h.1 (start args) .int rfl).2.2.1 (by decide) (by decide)
  obtain ⟨_, hcount, _, hrest⟩ := h.2 [.int, .uint, .int, .double]
  have hc : ((start args).takeAll [.int, .uint, .int, .double]).1.countP (·.2.isOk) = 2 := by
    rfl
  refine ⟨hmis, hcount.trans hc, ?_⟩
  have hlen : args.length = 2 := rfl
  omega

end FormatEngine.Cursor
