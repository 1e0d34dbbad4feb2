import Mathlib
import FormatEngine.Proofs.Rendering
/-!
# The writes of a formatting call

A formatting call hands its output to the sink as a sequence of writes, and a sink that keeps
each write it is handed sees how the template was cut. `Reference.writes` states that cut over
the template's bytes, as `Reference.render` states the bytes: one write for each longest run
without `%`; at a `%` whose directive never ends, the write `%`; for `%%` the write `%`, for an
unknown conversion `b` the write `%` and `b`; and for every other directive the writes of its
field: the prefix and the body, each as one write when it is not empty, and the padding as
chunks of 32 bytes and a shorter last one, in the field's order. No write is empty.

A sink may refuse a write; the call then stops at once with the sink's error. What such a sink
received is the longest run of leading writes it accepted, so a prefix of what a sink that takes
every write receives.

Main statement (`fprintf_write_sequence`).
-/
namespace FormatEngine

/-! ## Padding in chunks -/

namespace Sink

theorem fillChunksAux_spec (c : UInt8) :
    ∀ fuel n, n ≤ fuel →
      (fillChunksAux c fuel n).length = (n + chunk - 1) / chunk ∧
      ∀ i (h : i < (fillChunksAux c fuel n).length),
        (fillChunksAux c fuel n)[i] = List.replicate (min chunk (n - chunk * i)) c := by
  intro fuel
  induction fuel with
  | zero =>
    intro n hn
    obtain rfl : n = 0 := by omega
    simp [fillChunksAux, chunk]
  | succ fuel ih =>
    intro n hn
    unfold fillChunksAux
    split
    · rename_i h0
      subst h0
      simp [chunk]
    · rename_i h0
      -- one chunk of `min n 32` bytes, then the fill of what is left
      obtain ⟨hlen, hget⟩ := ih (n - min n chunk) (by unfold chunk; omega)
      refine ⟨?_, ?_⟩
      · rw [List.length_cons, hlen]
        unfold chunk
        omega
      · intro i hi
        cases i with
        | zero => simp [Nat.min_comm]
        | succ i =>
          rw [List.getElem_cons_succ, hget i (by simpa using hi)]
          congr 2
          unfold chunk
          have : n - min n 32 = n - 32 := by
            rcases Nat.lt_or_ge n 32 with h | h
            · simp [hlen] at hi
              unfold chunk at hi
              omega
            · omega
          rw [this]
          omega

/-- A fill of `n` bytes goes out as `⌈n / 32⌉` writes: the `i`-th holds `min 32 (n - 32 i)`
copies of the byte, so every write holds 32 bytes but the last, which holds the rest. -/
theorem fillChunks_spec (c : UInt8) (n : Nat) :
    (fillChunks c n).length = (n + chunk - 1) / chunk ∧
      ∀ i (h : i < (fillChunks c n).length),
        (fillChunks c n)[i] = List.replicate (min chunk (n - chunk * i)) c :=
  fillChunksAux_spec c n n le_rfl

theorem mem_fillChunksAux (c : UInt8) :
    ∀ (fuel n : Nat) (w : Bytes), w ∈ fillChunksAux c fuel n → 0 < w.length ∧ w.length ≤ chunk := by
  intro fuel
  induction fuel with
  | zero => intro n w hw; simp [fillChunksAux] at hw
  | succ fuel ih =>
    intro n w hw
    unfold fillChunksAux at hw
    split at hw
    · simp at hw
    · rcases List.mem_cons.1 hw with rfl | hw
      · simp only [List.length_replicate]
        unfold chunk
        omega
      · exact ih _ w hw

/-- A fill goes to the sink as writes of one to 32 bytes. -/
theorem mem_chunks_fill {c : UInt8} {n : Nat} {w : Bytes} (hw : w ∈ chunks (.fill c n)) :
    0 < w.length ∧ w.length ≤ chunk :=
  mem_fillChunksAux c n n w hw

theorem mem_fillChunks {c : UInt8} {n : Nat} {w : Bytes} (hw : w ∈ fillChunks c n) : w ≠ [] := by
  have := mem_chunks_fill (w := w) (c := c) (n := n) hw
  intro h
  simp [h] at this

end Sink

/-! ## The writes of a template -/

namespace Reference

/-- A run of bytes as one write, or no write when it is empty. -/
def runWrites (b : Bytes) : List Bytes := if b = [] then [] else [b]

/-- The writes of a field, in its order: the prefix and the body as one write each when they
are not empty, and the padding up to the width, when widths apply, in chunks. -/
def fieldWrites (pads : Bool) (d : Directive) (pre body : Bytes) : List Bytes :=
  let n := if pads then d.width - (pre.length + body.length) else 0
  if d.leftAlign then runWrites pre ++ runWrites body ++ Sink.fillChunks 32 n
  else if d.zeroPad && d.conversion.isNumeric then
    runWrites pre ++ Sink.fillChunks 48 n ++ runWrites body
  else Sink.fillChunks 32 n ++ runWrites pre ++ runWrites body

/-- The writes of one directive, the `i`-th argument being the next unused: `%` for `%%`, `%`
and the byte for an unknown conversion, the writes of its field for any other; or the error it
fails with, checked as `directive` checks it. -/
def directiveWrites (c : FormatConfig) (room : Nat) (args : List Arg) (i : Nat) (d : Directive) :
    Except FmtError (List Bytes × Nat) :=
  match d.conversion.expects with
  | none => .ok ([match d.conversion with | .unknown b => [37, b] | _ => [37]], i)
  | some k =>
    match args[i]? with
    | none => .error (.missingArgument i k)
    | some a =>
      match converted c room d.conversion a with
      | none => .error (.argumentMismatch i k a.kind)
      | some (.error o) => .error (.ofOverflow o)
      | some (.ok (pre, body)) => .ok (fieldWrites c.width.pads d pre body, i + 1)

/-- The writes a call makes for the bytes `t`, the `i`-th argument being the next unused: one
write for the longest run without `%`, then at a `%` the write `%` if its directive never ends,
or else the directive's writes and those of the rest; and the error of the first directive that
fails, after which nothing is written. -/
def writes (c : FormatConfig) (room : Nat) (args : List Arg) (i : Nat) (t : Bytes) :
    List Bytes × Option FmtError :=
  match hsplit : t.dropWhile (· != 37) with
  | [] => (runWrites t, none)
  | _ :: r =>
    match Directive.parse? r with
    | none => (runWrites (t.takeWhile (· != 37)) ++ [[37]], none)
    | some (d, m) =>
      match directiveWrites c room args i d with
      | .error e => (runWrites (t.takeWhile (· != 37)), some e)
      | .ok (ws, j) =>
        let rest := writes c room args j (r.drop m)
        (runWrites (t.takeWhile (· != 37)) ++ ws ++ rest.1, rest.2)
termination_by t.length
decreasing_by
  have := length_lt_of_dropWhile_eq hsplit
  simp only [List.length_drop]
  omega

end Reference

/-! ## No write is empty -/

namespace Reference

theorem mem_runWrites {b w : Bytes} (h : w ∈ runWrites b) : w ≠ [] := by
  unfold runWrites at h
  split at h
  · simp at h
  · rename_i hb
    rw [List.mem_singleton.1 h]
    exact hb

theorem mem_fieldWrites {pads : Bool} {d : Directive} {pre body w : Bytes}
    (h : w ∈ fieldWrites pads d pre body) : w ≠ [] := by
  unfold fieldWrites at h
  split_ifs at h <;> simp only [List.mem_append] at h <;>
    rcases h with (h | h) | h <;>
    first | exact mem_runWrites h | exact Sink.mem_fillChunks h

theorem mem_directiveWrites {c : FormatConfig} {room : Nat} {args : List Arg} {i j : Nat}
    {d : Directive} {ws : List Bytes} (h : directiveWrites c room args i d = .ok (ws, j)) :
    ∀ w ∈ ws, w ≠ [] := by
  unfold directiveWrites at h
  split at h
  · -- `%%` and unknown conversions write `%` and at most one more byte
    cases h
    intro w hw
    rw [List.mem_singleton.1 hw]
    split <;> simp
  · split at h
    · cases h
    · split at h
      · cases h
      · cases h
      · cases h
        exact fun w hw => mem_fieldWrites hw

/-- Every write of a call holds at least one byte. -/
theorem mem_writes (c : FormatConfig) (room : Nat) (args : List Arg) (i : Nat) (t : Bytes) :
    ∀ w ∈ (writes c room args i t).1, w ≠ [] := by
  fun_induction writes c room args i t with
  | case1 => exact fun w hw => mem_runWrites hw
  | case2 =>
    intro w hw
    rcases List.mem_append.1 hw with hw | hw
    · exact mem_runWrites hw
    · simp at hw; simp [hw]
  | case3 => exact fun w hw => mem_runWrites hw
  | case4 _ t _ _ _ d _ _ ws _ hdir _ ih =>
    intro w hw
    simp only [List.mem_append] at hw
    rcases hw with (hw | hw) | hw
    · exact mem_runWrites hw
    · exact mem_directiveWrites hdir w hw
    · exact ih w hw

end Reference

/-! ## The plan's writes against the reference -/

namespace Field

@[simp] theorem flatMap_emit_chunks (b : Bytes) : (emit b).flatMap Sink.chunks = Reference.runWrites b := by
  unfold emit Reference.runWrites
  split <;> simp [Sink.chunks]

@[simp] theorem flatMap_pad_chunks (c : UInt8) (n : Nat) :
    (pad c n).flatMap Sink.chunks = Sink.fillChunks c n := by
  unfold pad
  split
  · rename_i h
    simp [h, Sink.fillChunks, Sink.fillChunksAux]
  · simp [Sink.chunks]

theorem flatMap_writes_chunks (pads : Bool) (d : Directive) (pre body : Bytes) :
    (writes pads d pre body).flatMap Sink.chunks = Reference.fieldWrites pads d pre body := by
  unfold writes Reference.fieldWrites
  by_cases hl : d.leftAlign = true
  · simp [hl]
  · by_cases hz : (d.zeroPad && d.conversion.isNumeric) = true <;> simp [hl, hz]

theorem flatMap_signedWrites_chunks (pads : Bool) (d : Directive) (t : Bytes) :
    (signedWrites pads d t).flatMap Sink.chunks =
      Reference.fieldWrites pads d (Reference.splitSign t).1 (Reference.splitSign t).2 := by
  cases t with
  | nil => exact flatMap_writes_chunks _ _ _ _
  | cons b rest =>
    by_cases hb : b = 45
    · subst hb
      exact flatMap_writes_chunks _ _ _ _
    · have hs : Reference.splitSign (b :: rest) = ([], b :: rest) := by simp [Reference.splitSign, hb]
      have hw : signedWrites pads d (b :: rest) = writes pads d [] (b :: rest) := by
        simp [signedWrites, hb]
      rw [hs, hw]
      exact flatMap_writes_chunks _ _ _ _

end Field

namespace Template

theorem directiveWrites_of_convert (c : FormatConfig) (room : Nat) (d : Directive) (cur : Cursor) :
    match convert c room d cur with
    | .ok (ws, cur') => cur'.args = cur.args ∧
        Reference.directiveWrites c room cur.args cur.pos d = .ok (ws.flatMap Sink.chunks, cur'.pos)
    | .error e => Reference.directiveWrites c room cur.args cur.pos d = .error e := by
  obtain ⟨args, pos, hpos⟩ := cur
  obtain ⟨conv, left, zero, width⟩ := d
  rcases Nat.lt_or_ge pos args.length with h | h
  · -- an argument is left: its kind decides between a mismatch and the converter
    have hget : args[pos]? = some args[pos] := List.getElem?_eq_getElem h
    simp only [convert, Reference.directiveWrites, Cursor.next, h, dite_true, hget]
    generalize args[pos] = a
    cases conv <;> cases a <;>
      simp only [Reference.converted, Arg.as?, Conversion.expects, Arg.kind, Except.map, bind,
        Except.bind, Except.mapError, pure, Except.pure, Field.flatMap_writes_chunks, Sink.chunks,
        List.flatMap_cons, List.flatMap_nil, List.append_nil, and_self]
    case signed.int v =>
      cases Convert.signed room v <;> simp [Field.flatMap_signedWrites_chunks]
    case unsigned.uint v => cases Convert.unsigned room v <;> simp [Field.flatMap_writes_chunks]
    case hex.uint upper v =>
      cases Convert.hex room upper v.toUInt64 <;> simp [Field.flatMap_writes_chunks]
    case octal.uint v => cases Convert.octal room v <;> simp [Field.flatMap_writes_chunks]
    case float.double x =>
      cases Fixed.render? room x c.precision c.floatStyle <;> simp [Field.flatMap_signedWrites_chunks]
    case pointer.ptr p => cases Convert.hex room false p <;> simp [Field.flatMap_writes_chunks]
  · -- no argument is left
    cases conv <;>
      simp [convert, Reference.directiveWrites, Cursor.next, Conversion.expects, Nat.not_lt.2 h, bind,
        Except.bind, pure, Except.pure, Sink.chunks]

/-- With fuel for every directive, the plan of the pieces of `t` makes exactly the reference
writes of `t`, once its fills are cut in chunks, and stops with the same error. -/
theorem planPieces_writes (c : FormatConfig) (room : Nat) :
    ∀ (fuel : Nat) (t : Bytes) (cur : Cursor), t.length < fuel →
      ((planPieces c room (piecesAux fuel t) cur).writes.flatMap Sink.chunks,
        (planPieces c room (piecesAux fuel t) cur).stop) =
      Reference.writes c room cur.args cur.pos t := by
  intro fuel
  induction fuel with
  | zero => intro t cur ht; omega
  | succ fuel ih =>
    intro t cur ht
    rw [Reference.writes]
    simp only [piecesAux]
    -- both sides look for the first `%`: split on where it is
    have hsplit := List.takeWhile_append_dropWhile (p := (· != 37)) (l := t)
    cases hd : t.dropWhile (· != 37) with
    | nil =>
      -- no `%`: the whole template is one literal run
      rw [hd, List.append_nil] at hsplit
      by_cases h0 : t = [] <;> simp [hsplit, h0, planPieces, Field.emit, Reference.runWrites, Sink.chunks]
    | cons b r =>
      have hr : r.length < fuel := by have := Reference.length_lt_of_dropWhile_eq hd; omega
      simp only
      cases hp : Directive.parse? r with
      | none =>
        -- a `%` whose directive never ends
        rw [planPieces_literal]
        simp [planPieces, Sink.chunks]
      | some dm =>
        obtain ⟨d, m⟩ := dm
        simp only [planPieces_literal, planPieces]
        have hconv := directiveWrites_of_convert c room d cur
        cases hc : convert c room d cur with
        | error e =>
          -- the directive fails: the run before its `%` is all that is written
          rw [hc] at hconv
          simp [hconv]
        | ok res =>
          obtain ⟨ws, cur'⟩ := res
          rw [hc] at hconv
          obtain ⟨hargs, hdir⟩ := hconv
          have hrest := ih (r.drop m) cur' (by simp; omega)
          rw [hargs] at hrest
          simp only [hdir, ← hrest, List.flatMap_append, List.append_assoc, Field.flatMap_emit_chunks]

/-- The plan of a template makes exactly the reference writes of its text. -/
theorem plan_writes (c : FormatConfig) (room : Nat) (t : Bytes) (args : List Arg) :
    ((plan c room t args).writes.flatMap Sink.chunks, (plan c room t args).stop) =
      Reference.writes c room args 0 (Bytes.beforeNul t) :=
  planPieces_writes c room _ _ (Cursor.start args) (Nat.lt_succ_self _)

end Template

/-! ## A sink that refuses a write -/

namespace Sink

/-- A sink takes the writes handed to it up to the first one it refuses, and none after it: it
receives the longest run of leading writes it accepts, each judged against the bytes it holds by
then, and the delivery ends with its error exactly when a write was left over. -/
theorem deliver_spec (s : Sink) :
    ∀ (ws : List Bytes) (d : Delivery), ∃ k ≤ ws.length,
      (∀ j (h : j < ws.length), j < k →
        s.accepts (d.bytes.length + (ws.take j).flatten.length) ws[j].length = true) ∧
      (∀ h : k < ws.length,
        s.accepts (d.bytes.length + (ws.take k).flatten.length) ws[k].length = false) ∧
      s.deliver ws d = (⟨d.bytes ++ (ws.take k).flatten, d.writes ++ ws.take k⟩,
        if k < ws.length then some (.io s.message) else none) := by
  intro ws
  induction ws with
  | nil => intro d; exact ⟨0, le_rfl, fun j h => absurd h (by simp), fun h => absurd h (by simp), by simp [deliver]⟩
  | cons w ws ih =>
    intro d
    by_cases hw : s.accepts d.bytes.length w.length = true
    · -- the first write is taken; the rest is delivered after it
      obtain ⟨k, hk, hacc, href, hdel⟩ := ih ⟨d.bytes ++ w, d.writes ++ [w]⟩
      refine ⟨k + 1, by simpa using hk, ?_, ?_, ?_⟩
      · intro j hj hjk
        cases j with
        | zero => simpa using hw
        | succ j =>
          have := hacc j (by simpa using hj) (by omega)
          simpa [List.take_succ_cons, Nat.add_assoc] using this
      · intro hlt
        have := href (by simpa using hlt)
        simpa [List.take_succ_cons, Nat.add_assoc] using this
      · rw [deliver, if_pos hw, hdel]
        simp [List.take_succ_cons]
    · refine ⟨0, by simp, fun j _ h => absurd h (Nat.not_lt_zero j), fun _ => by simpa using hw, ?_⟩
      rw [deliver, if_neg hw]
      simp

/-- Whatever the plan's stop, the sink's bytes are those it took of the plan's writes. -/
theorem run_delivery (s : Sink) (p : Plan) (d : Delivery) :
    (s.run p d).1 = (s.deliver (p.writes.flatMap chunks) d).1 := by
  unfold run
  split
  · simp_all
  · split <;> simp_all

end Sink

/-! ## The writes of a formatting call -/

/-- What a call hands to a sink. Without room for its scratch slice it hands nothing. With room,
a sink that takes every write receives the reference writes of the template's text
(`Reference.writes`): one write per longest run without `%`, one per `%` it writes for `%%`, an
unknown conversion or a directive that never ends, one per non-empty prefix and body of a field,
and each field's padding in chunks of 32 bytes and a shorter last one. No write is empty, and
together they hold the reference rendering, which is what the sink then holds. A sink that
refuses a write receives the leading writes it accepted and nothing after the refused one, and
the call ends with its error there; a sink that refuses none ends as one that takes every
write. -/
theorem fprintf_write_sequence (a : Arena) (c : FormatConfig) (t : Bytes) (args : List Arg) :
    (a.remaining < c.scratchSize → ∀ (s : Sink) (d : Delivery), (fprintf a c s d t args).delivery = d) ∧
    (c.scratchSize ≤ a.remaining →
      let W := (Reference.writes c c.scratchSize args 0 (Bytes.beforeNul t)).1
      (∀ d : Delivery,
        (fprintf a c .unbounded d t args).delivery = ⟨d.bytes ++ W.flatten, d.writes ++ W⟩) ∧
      (∀ w ∈ W, w ≠ []) ∧
      (W.flatten, (Reference.writes c c.scratchSize args 0 (Bytes.beforeNul t)).2) =
        Reference.render c c.scratchSize args 0 (Bytes.beforeNul t) ∧
      (∀ (s : Sink) (d : Delivery), ∃ k ≤ W.length,
        (∀ j (h : j < W.length), j < k →
          s.accepts (d.bytes.length + (W.take j).flatten.length) W[j].length = true) ∧
        (fprintf a c s d t args).delivery = ⟨d.bytes ++ (W.take k).flatten, d.writes ++ W.take k⟩ ∧
        (∀ h : k < W.length,
          s.accepts (d.bytes.length + (W.take k).flatten.length) W[k].length = false ∧
          (fprintf a c s d t args).result = .error (.io s.message)) ∧
        (k = W.length → (fprintf a c s d t args).result = (fprintf a c .unbounded d t args).result))) ∧
    (∀ (b : UInt8) (n : Nat), (Sink.fillChunks b n).length = (n + Sink.chunk - 1) / Sink.chunk ∧
      ∀ i (h : i < (Sink.fillChunks b n).length),
        (Sink.fillChunks b n)[i] = List.replicate (min Sink.chunk (n - Sink.chunk * i)) b) := by
  refine ⟨fun h s d => by rw [fprintf_of_lt_scratchSize h], fun h => ?_, Sink.fillChunks_spec⟩
  have hplan := Template.plan_writes c c.scratchSize t args
  -- every sink is handed the plan's writes, cut in chunks: the reference writes
  have hrun : ∀ (s : Sink) (d : Delivery),
      (fprintf a c s d t args).delivery = (s.run (Template.plan c c.scratchSize t args) d).1 ∧
        (fprintf a c s d t args).result = (s.run (Template.plan c c.scratchSize t args) d).2 :=
    fun s d => Prod.ext_iff.mp (fprintf_of_scratchSize_le h s d t args).2.2
  have hW := congrArg Prod.fst hplan
  have hbytes := Template.plan_bytes c c.scratchSize t args
  simp only at hW
  refine ⟨fun d => ?_, Reference.mem_writes _ _ _ _ _, ?_, fun s d => ?_⟩
  · rw [(hrun .unbounded d).1, Sink.run_unbounded, ← Sink.flatten_flatMap_chunks, hW]
  · rw [← hbytes, ← hplan, Sink.flatten_flatMap_chunks]
  · obtain ⟨k, hk, hacc, href, hdel⟩ := Sink.deliver_spec s
      (Reference.writes c c.scratchSize args 0 (Bytes.beforeNul t)).1 d
    -- the sink takes the first `k` writes; the call ends there if it refused one
    obtain ⟨hsd, hsr⟩ := hrun s d
    have hur := (hrun .unbounded d).2
    unfold Sink.run at hsr hur
    rw [hW, hdel] at hsr
    rw [hW, Sink.deliver_unbounded] at hur
    refine ⟨k, hk, hacc, ?_, fun hlt => ⟨href hlt, ?_⟩, fun hkw => ?_⟩
    · rw [hsd, Sink.run_delivery, hW, hdel]
    · simp only [if_pos hlt] at hsr
      exact hsr
    · subst hkw
      simp only [lt_irrefl, if_false, List.take_length] at hsr
      rw [hsr, hur]

/-- The template "a%db" with the argument `7` is written as three writes, `a`, `7` and `b`;
without room for its scratch slice the same call writes nothing. -/
theorem writes_of_digit_between_letters :
    (Arena.new 8).remaining < ({} : FormatConfig).scratchSize ∧
      (fprintf (Arena.new 8) {} (.limited 0) .empty [97, 37, 100, 98] [.int 7]).delivery = .empty ∧
      ({} : FormatConfig).scratchSize ≤ (Arena.new 1024).remaining ∧
      (Reference.writes {} 100 [.int 7] 0 [97, 37, 100, 98]).1 = [[97], [55], [98]] := by
  have hsmall : (Arena.new 8).remaining < ({} : FormatConfig).scratchSize := by decide
  have hroom : ({} : FormatConfig).scratchSize ≤ (Arena.new 1024).remaining := by decide
  have hseq := fprintf_write_sequence (Arena.new 1024) {} [97, 37, 100, 98] [.int 7]
  have hu := (hseq.2.1 hroom).1 .empty
  have hd : (fprintf (Arena.new 1024) {} .unbounded .empty [97, 37, 100, 98] [.int 7]).delivery =
      ⟨[97, 55, 98], [[97], [55], [98]]⟩ := rfl
  rw [hd] at hu
  refine ⟨hsmall, (fprintf_write_sequence (Arena.new 8) {} [97, 37, 100, 98] [.int 7]).1 hsmall _ _,
    hroom, ?_⟩
  exact (congrArg Delivery.writes hu).symm

end FormatEngine
