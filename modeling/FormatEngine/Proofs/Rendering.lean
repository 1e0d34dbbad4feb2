import Mathlib
import FormatEngine.Printf
import FormatEngine.Proofs.TextLength
/-!
# The reference rendering of a template

A formatting call reads its template as pieces, plans a list of writes, and has a sink deliver
them in chunks. This module states what all of that amounts to, byte by byte, and proves it.

`Reference.render` is defined by recursion over the template's bytes. It copies the longest
run without `%`; at a `%` whose directive never ends it writes a lone `%` and stops; `%%` gives
`%`, an unknown conversion `b` gives `%` and `b`, and every other directive takes the next
unused argument and lays out what its converter makes of it as a field. A directive fails when
no argument is left, when the argument is of another kind than its conversion takes, or when
its converter lacks room in the scratch slice, checked in that order; the rendering then stops
with that error, and what it rendered before that directive's `%` is kept.

Main statements: the plan of a template delivers exactly the reference rendering
(`Template.plan_bytes`); a sink that takes every write receives it whole (`Sink.run_unbounded`);
so a formatting call into such a sink appends the reference rendering and returns its length or
the first directive's failure.
-/
namespace FormatEngine

/-! ## Writes as bytes -/

namespace Field

/-- The bytes of a field: `pre` and `body` padded to the directive's width when `pads`, with
spaces after a left-aligned field, zeros between prefix and body for a zero-filled numeric
field, and spaces in front otherwise. -/
def bytes (pads : Bool) (d : Directive) (pre body : Bytes) : Bytes :=
  let n := if pads then d.width - (pre.length + body.length) else 0
  if d.leftAlign then pre ++ body ++ List.replicate n 32
  else if d.zeroPad && d.conversion.isNumeric then pre ++ List.replicate n 48 ++ body
  else List.replicate n 32 ++ pre ++ body

@[simp] theorem flatMap_emit (b : Bytes) : (emit b).flatMap Write.toBytes = b := by
  unfold emit
  split <;> simp_all [Write.toBytes]

@[simp] theorem flatMap_pad (c : UInt8) (n : Nat) :
    (pad c n).flatMap Write.toBytes = List.replicate n c := by
  unfold pad
  split <;> simp_all [Write.toBytes]

theorem flatMap_writes (pads : Bool) (d : Directive) (pre body : Bytes) :
    (writes pads d pre body).flatMap Write.toBytes = bytes pads d pre body := by
  unfold writes bytes
  by_cases hl : d.leftAlign = true
  · simp [hl]
  · by_cases hz : (d.zeroPad && d.conversion.isNumeric) = true <;> simp [hl, hz]

end Field

namespace Sink

theorem flatten_fillChunksAux (c : UInt8) :
    ∀ fuel n, n ≤ fuel → (fillChunksAux c fuel n).flatten = List.replicate n c := by
  intro fuel
  induction fuel with
  | zero => intro n hn; simp [fillChunksAux, Nat.le_zero.mp hn]
  | succ fuel ih =>
    intro n hn
    unfold fillChunksAux
    split
    · simp_all
    · rename_i hn0
      -- one chunk of at most `chunk` bytes, then the rest of the fill
      have hrest : n - min n chunk ≤ fuel := by unfold chunk; omega
      rw [List.flatten_cons, ih _ hrest, List.replicate_append_replicate]
      congr 1
      omega

/-- A fill is delivered as chunks that together hold exactly its bytes. -/
theorem flatten_chunks (w : Write) : (chunks w).flatten = w.toBytes := by
  cases w with
  | bytes b => simp [chunks, Write.toBytes]
  | fill c n => exact flatten_fillChunksAux c n n (Nat.le_refl n)

theorem flatten_flatMap_chunks (ws : List Write) :
    (ws.flatMap chunks).flatten = ws.flatMap Write.toBytes := by
  induction ws with
  | nil => rfl
  | cons w ws ih => rw [List.flatMap_cons, List.flatten_append, flatten_chunks, ih, List.flatMap_cons]

theorem deliver_unbounded (bs : List Bytes) (d : Delivery) :
    deliver .unbounded bs d = (⟨d.bytes ++ bs.flatten, d.writes ++ bs⟩, none) := by
  induction bs generalizing d with
  | nil => simp [deliver]
  | cons b bs ih => simp [deliver, accepts, ih]

/-- A sink that takes every write receives all the bytes of the plan, after what it held, and
the call ends with the plan's own error or with the count of those bytes. -/
theorem run_unbounded (p : Plan) (d : Delivery) :
    run .unbounded p d =
      (⟨d.bytes ++ p.writes.flatMap Write.toBytes, d.writes ++ p.writes.flatMap chunks⟩,
        match p.stop with
        | some e => .error e
        | none => .ok (p.writes.flatMap Write.toBytes).length) := by
  unfold run
  rw [deliver_unbounded, flatten_flatMap_chunks]
  cases p.stop <;> simp

end Sink

/-! ## The reference rendering -/

namespace Reference

/-- A signed text's leading `-` moves into the field's prefix. -/
def splitSign : Bytes → Bytes × Bytes
  | 45 :: digits => ([45], digits)
  | text => ([], text)

/-- What a conversion's converter makes of an argument of the kind it takes, in `room` bytes of
scratch: the field's prefix and body, or the room it lacked. An argument of another kind, or a
conversion that takes none, has no text (`none`). -/
def converted (c : FormatConfig) (room : Nat) :
    Conversion → Arg → Option (Except Overflow (Bytes × Bytes))
  | .str, .str s => some (.ok ([], Bytes.beforeNul s))
  | .char, .int v => some (.ok ([], [UInt8.ofNat (v.toInt % 256).toNat]))
  | .signed, .int v => some ((Convert.signed room v).map splitSign)
  | .unsigned, .uint v => some ((Convert.unsigned room v).map ([], ·))
  | .hex upper, .uint v => some ((Convert.hex room upper v.toUInt64).map ([], ·))
  | .octal, .uint v => some ((Convert.octal room v).map ([], ·))
  | .float, .double x => some ((Fixed.render? room x c.precision c.floatStyle).map splitSign)
  | .pointer, .ptr p => some ((Convert.hex room false p).map ([48, 120], ·))
  | _, _ => none

/-- One directive, the `i`-th argument being the next unused: its bytes and the index of the
next unused argument, or the error it fails with. The checks run in order: an argument is
left, it has the kind the conversion takes, its text fits the scratch slice. -/
def directive (c : FormatConfig) (room : Nat) (args : List Arg) (i : Nat) (d : Directive) :
    Except FmtError (Bytes × Nat) :=
  match d.conversion.expects with
  | none => .ok ((match d.conversion with | .unknown b => [37, b] | _ => [37]), i)
  | some k =>
    match args[i]? with
    | none => .error (.missingArgument i k)
    | some a =>
      match converted c room d.conversion a with
      | none => .error (.argumentMismatch i k a.kind)
      | some (.error o) => .error (.ofOverflow o)
      | some (.ok (pre, body)) => .ok (Field.bytes c.width.pads d pre body, i + 1)

theorem length_lt_of_dropWhile_eq {t r : Bytes} {b : UInt8} (h : t.dropWhile (· != 37) = b :: r) :
    r.length < t.length := by
  have hle := (List.dropWhile_suffix (· != 37) (l := t)).length_le
  rw [h, List.length_cons] at hle
  omega

/-- The reference rendering of the bytes `t`, the `i`-th argument being the next unused: the
bytes rendered, and the error of the first directive that fails, if one does. -/
def render (c : FormatConfig) (room : Nat) (args : List Arg) (i : Nat) (t : Bytes) :
    Bytes × Option FmtError :=
  match hsplit : t.dropWhile (· != 37) with
  | [] => (t, none)
  | _ :: r =>
    match Directive.parse? r with
    | none => (t.takeWhile (· != 37) ++ [37], none)
    | some (d, m) =>
      match directive c room args i d with
      | .error e => (t.takeWhile (· != 37), some e)
      | .ok (text, j) =>
        let rest := render c room args j (r.drop m)
        (t.takeWhile (· != 37) ++ text ++ rest.1, rest.2)
termination_by t.length
decreasing_by
  have := length_lt_of_dropWhile_eq hsplit
  simp only [List.length_drop]
  omega

theorem flatMap_signedWrites (pads : Bool) (d : Directive) (t : Bytes) :
    (Field.signedWrites pads d t).flatMap Write.toBytes =
      Field.bytes pads d (splitSign t).1 (splitSign t).2 := by
  cases t with
  | nil => exact Field.flatMap_writes _ _ _ _
  | cons b rest =>
    by_cases hb : b = 45
    · subst hb
      exact Field.flatMap_writes _ _ _ _
    · have hs : splitSign (b :: rest) = ([], b :: rest) := by simp [splitSign, hb]
      have hw : Field.signedWrites pads d (b :: rest) = Field.writes pads d [] (b :: rest) := by
        simp [Field.signedWrites, hb]
      rw [hs, hw]
      exact Field.flatMap_writes _ _ _ _

end Reference

/-! ## One directive -/

namespace Template

theorem directive_of_convert (c : FormatConfig) (room : Nat) (d : Directive) (cur : Cursor) :
    match convert c room d cur with
    | .ok (ws, cur') => cur'.args = cur.args ∧
        Reference.directive c room cur.args cur.pos d = .ok (ws.flatMap Write.toBytes, cur'.pos)
    | .error e => Reference.directive c room cur.args cur.pos d = .error e := by
  obtain ⟨args, pos, hpos⟩ := cur
  obtain ⟨conv, left, zero, width⟩ := d
  rcases Nat.lt_or_ge pos args.length with h | h
  · -- an argument is left: its kind decides between a mismatch and the converter
    have hget : args[pos]? = some args[pos] := List.getElem?_eq_getElem h
    simp only [convert, Reference.directive, Cursor.next, h, dite_true, hget]
    generalize args[pos] = a
    cases conv <;> cases a <;>
      simp only [Reference.converted, Arg.as?, Conversion.expects, Arg.kind, Except.map, bind,
        Except.bind, Except.mapError, pure, Except.pure, Field.flatMap_writes, Write.toBytes,
        List.flatMap_cons, List.flatMap_nil, List.append_nil, and_self]
    case signed.int v => cases Convert.signed room v <;> simp [Reference.flatMap_signedWrites]
    case unsigned.uint v => cases Convert.unsigned room v <;> simp [Field.flatMap_writes]
    case hex.uint upper v => cases Convert.hex room upper v.toUInt64 <;> simp [Field.flatMap_writes]
    case octal.uint v => cases Convert.octal room v <;> simp [Field.flatMap_writes]
    case float.double x =>
      cases Fixed.render? room x c.precision c.floatStyle <;> simp [Reference.flatMap_signedWrites]
    case pointer.ptr p => cases Convert.hex room false p <;> simp [Field.flatMap_writes]
  · -- no argument is left
    cases conv <;>
      simp [convert, Reference.directive, Cursor.next, Conversion.expects, Nat.not_lt.2 h, bind,
        Except.bind, pure, Except.pure, Write.toBytes]

theorem planPieces_literal (c : FormatConfig) (room : Nat) (run : Bytes) (ps : List Piece)
    (cur : Cursor) :
    planPieces c room ((if run = [] then [] else [Piece.literal run]) ++ ps) cur =
      ⟨Field.emit run ++ (planPieces c room ps cur).writes, (planPieces c room ps cur).stop⟩ := by
  by_cases h : run = []
  · simp [h, Field.emit]
  · simp [h, planPieces]

/-- With fuel for every directive, the plan of the pieces of `t` writes exactly the reference
rendering of `t` and stops with its error. -/
theorem planPieces_piecesAux (c : FormatConfig) (room : Nat) :
    ∀ (fuel : Nat) (t : Bytes) (cur : Cursor), t.length < fuel →
      ((planPieces c room (piecesAux fuel t) cur).writes.flatMap Write.toBytes,
        (planPieces c room (piecesAux fuel t) cur).stop) =
      Reference.render c room cur.args cur.pos t := by
  intro fuel
  induction fuel with
  | zero => intro t cur ht; omega
  | succ fuel ih =>
    intro t cur ht
    rw [Reference.render]
    simp only [piecesAux]
    -- both sides look for the first `%`: split on where it is
    have hsplit := List.takeWhile_append_dropWhile (p := (· != 37)) (l := t)
    cases hd : t.dropWhile (· != 37) with
    | nil =>
      -- no `%`: the whole template is one literal run
      rw [hd, List.append_nil] at hsplit
      by_cases h0 : t = [] <;> simp [hsplit, h0, planPieces, Field.emit, Write.toBytes]
    | cons b r =>
      have hr : r.length < fuel := by have := Reference.length_lt_of_dropWhile_eq hd; omega
      simp only
      cases hp : Directive.parse? r with
      | none =>
        -- a `%` whose directive never ends
        rw [planPieces_literal]
        simp [planPieces, Write.toBytes]
      | some dm =>
        obtain ⟨d, m⟩ := dm
        simp only [planPieces_literal, planPieces]
        have hconv := directive_of_convert c room d cur
        cases hc : convert c room d cur with
        | error e =>
          -- the directive fails: the run before its `%` is all that is written
          rw [hc] at hconv
          simp [hconv]
        | ok res =>
          obtain ⟨ws, cur'⟩ := res
          rw [hc] at hconv
          obtain ⟨hargs, hdir⟩ := hconv
          have hrest := ih (r.drop m) cur' (by simp; omega)
          rw [hargs] at hrest
          simp only [hdir, ← hrest, List.flatMap_append, List.append_assoc, Field.flatMap_emit]

/-- The plan of a template writes exactly the reference rendering of its text, and stops with
the error of the first directive that fails. -/
theorem plan_bytes (c : FormatConfig) (room : Nat) (t : Bytes) (args : List Arg) :
    ((plan c room t args).writes.flatMap Write.toBytes, (plan c room t args).stop) =
      Reference.render c room args 0 (Bytes.beforeNul t) :=
  planPieces_piecesAux c room _ _ (Cursor.start args) (Nat.lt_succ_self _)

end Template

/-! ## Formatting calls -/

/-- Without room for the scratch slice a call fails at once, and nothing changes. -/
theorem fprintf_of_lt_scratchSize {a : Arena} {c : FormatConfig} (h : a.remaining < c.scratchSize)
    (s : Sink) (d : Delivery) (t : Bytes) (args : List Arg) :
    fprintf a c s d t args = ⟨a, d, .error (.arenaExhausted c.scratchSize a.remaining)⟩ := by
  unfold fprintf Arena.alloc
  rw [dif_neg (by unfold Arena.remaining at h; omega)]

/-- With room for the scratch slice, a call takes it from the arena and runs the template's
plan in the sink, whatever the plan then does. -/
theorem fprintf_of_scratchSize_le {a : Arena} {c : FormatConfig} (h : c.scratchSize ≤ a.remaining)
    (s : Sink) (d : Delivery) (t : Bytes) (args : List Arg) :
    (fprintf a c s d t args).arena.capacity = a.capacity ∧
      (fprintf a c s d t args).arena.offset = a.offset + c.scratchSize ∧
      ((fprintf a c s d t args).delivery, (fprintf a c s d t args).result) =
        s.run (Template.plan c c.scratchSize t args) d := by
  unfold fprintf Arena.alloc
  rw [dif_pos (show c.scratchSize ≤ a.capacity - a.offset from h)]
  obtain ⟨d', r⟩ := s.run (Template.plan c c.scratchSize t args) d
  exact ⟨rfl, rfl, rfl⟩

/-- Into a sink that takes every write, a call with room for its scratch slice appends the
reference rendering of the template's text, and returns its length or the first failure. -/
theorem fprintf_unbounded {a : Arena} {c : FormatConfig} (h : c.scratchSize ≤ a.remaining)
    (d : Delivery) (t : Bytes) (args : List Arg) :
    (fprintf a c .unbounded d t args).delivery.bytes =
        d.bytes ++ (Reference.render c c.scratchSize args 0 (Bytes.beforeNul t)).1 ∧
      (fprintf a c .unbounded d t args).result =
        match (Reference.render c c.scratchSize args 0 (Bytes.beforeNul t)).2 with
        | some e => .error e
        | none => .ok (Reference.render c c.scratchSize args 0 (Bytes.beforeNul t)).1.length := by
  obtain ⟨-, -, hrun⟩ := fprintf_of_scratchSize_le h .unbounded d t args
  rw [Sink.run_unbounded] at hrun
  simp only [Prod.mk.injEq] at hrun
  rw [← Template.plan_bytes]
  exact ⟨by rw [hrun.1], by rw [hrun.2]⟩

/-! ## What a call into a growable buffer gives -/

/-- A call into a growable buffer that returns `n` has appended exactly the reference rendering
of the template's text (the bytes before its first NUL), no directive of it failed, and `n` is
the rendering's length. -/
theorem fprintf_ok_eq_reference {a : Arena} {c : FormatConfig} {d : Delivery} {t : Bytes}
    {args : List Arg} {n : Nat} (h : (fprintf a c .unbounded d t args).result = .ok n) :
    (Reference.render c c.scratchSize args 0 (Bytes.beforeNul t)).2 = none ∧
      (fprintf a c .unbounded d t args).delivery.bytes =
        d.bytes ++ (Reference.render c c.scratchSize args 0 (Bytes.beforeNul t)).1 ∧
      n = (Reference.render c c.scratchSize args 0 (Bytes.beforeNul t)).1.length := by
  by_cases hroom : c.scratchSize ≤ a.remaining
  · obtain ⟨hbytes, hres⟩ := fprintf_unbounded hroom d t args
    rw [hres] at h
    cases hstop : (Reference.render c c.scratchSize args 0 (Bytes.beforeNul t)).2 with
    | some e => rw [hstop] at h; cases h
    | none =>
      rw [hstop] at h
      exact ⟨rfl, hbytes, (Except.ok.inj h).symm⟩
  · rw [fprintf_of_lt_scratchSize (Nat.lt_of_not_le hroom)] at h
    cases h

/-- `%s=%5d` with `k` and `3`: the call succeeds with seven bytes. -/
theorem fprintf_key_value :
    (fprintf (Arena.new 1024) {} .unbounded .empty (Bytes.ofString "%s=%5d")
        [.ofString "k", .int 3]).result = .ok 7 ∧
      (Reference.render {} ({} : FormatConfig).scratchSize [.ofString "k", .int 3] 0
        (Bytes.beforeNul (Bytes.ofString "%s=%5d"))).2 = none ∧
      (fprintf (Arena.new 1024) {} .unbounded .empty (Bytes.ofString "%s=%5d")
        [.ofString "k", .int 3]).delivery.bytes =
        Delivery.empty.bytes ++ (Reference.render {} ({} : FormatConfig).scratchSize
          [.ofString "k", .int 3] 0 (Bytes.beforeNul (Bytes.ofString "%s=%5d"))).1 ∧
      7 = (Reference.render {} ({} : FormatConfig).scratchSize [.ofString "k", .int 3] 0
        (Bytes.beforeNul (Bytes.ofString "%s=%5d"))).1.length :=
  have h : (fprintf (Arena.new 1024) {} .unbounded .empty (Bytes.ofString "%s=%5d")
      [.ofString "k", .int 3]).result = .ok 7 := by cbv
  ⟨h, fprintf_ok_eq_reference h⟩

/-- How a call fails. Without room in the arena for the scratch slice it fails at once with
the room asked for and the room left, and neither the arena nor the sink changes. With room,
into a sink that takes every write, it fails exactly with the error of the first directive of
the template's text that fails (`Reference.render`: a missing argument, an argument of another
kind, or a text too long for the scratch slice, checked in that order), and the sink holds the
reference rendering of everything before that directive's `%`. -/
theorem fprintf_error_eq_first_failure (a : Arena) (c : FormatConfig) (d : Delivery) (t : Bytes)
    (args : List Arg) :
    (a.remaining < c.scratchSize → ∀ s : Sink,
      fprintf a c s d t args = ⟨a, d, .error (.arenaExhausted c.scratchSize a.remaining)⟩) ∧
    (c.scratchSize ≤ a.remaining →
      (∀ e, (fprintf a c .unbounded d t args).result = .error e ↔
        (Reference.render c c.scratchSize args 0 (Bytes.beforeNul t)).2 = some e) ∧
      (fprintf a c .unbounded d t args).delivery.bytes =
        d.bytes ++ (Reference.render c c.scratchSize args 0 (Bytes.beforeNul t)).1) := by
  refine ⟨fun h s => fprintf_of_lt_scratchSize h s d t args, fun h => ?_⟩
  obtain ⟨hbytes, hres⟩ := fprintf_unbounded h d t args
  refine ⟨fun e => ?_, hbytes⟩
  rw [hres]
  cases (Reference.render c c.scratchSize args 0 (Bytes.beforeNul t)).2 with
  | some e' => simp
  | none => simp

/-- `%d %d` with the one argument `1`: the arena has room, and the second directive finds no
argument left. -/
theorem fprintf_second_argument_missing :
    ({} : FormatConfig).scratchSize ≤ (Arena.new 1024).remaining ∧
      ((fprintf (Arena.new 1024) {} .unbounded .empty (Bytes.ofString "%d %d") [.int 1]).result =
          .error (.missingArgument 1 .int) ↔
        (Reference.render {} ({} : FormatConfig).scratchSize [.int 1] 0
          (Bytes.beforeNul (Bytes.ofString "%d %d"))).2 = some (.missingArgument 1 .int)) :=
  have h : ({} : FormatConfig).scratchSize ≤ (Arena.new 1024).remaining := by decide
  ⟨h, ((fprintf_error_eq_first_failure (Arena.new 1024) {} .empty (Bytes.ofString "%d %d")
    [.int 1]).2 h).1 _⟩

end FormatEngine
