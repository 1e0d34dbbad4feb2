import Mathlib
import FormatEngine.Printf.Checked
import FormatEngine.Proofs.CheckedConverters
import FormatEngine.Proofs.ConversionOutcomes
import FormatEngine.Proofs.DirectiveGrammar
import FormatEngine.Proofs.WriteSequence
/-!
# A formatting call never panics

`fprintf?` runs a formatting call step by step, with every slice, store and
subtraction that could leave its range checked, and its main loop on fuel of one round per `%`
of the template and one more. For every arena whose storage spans its capacity and every
configuration, sink, template and argument list it gives `some`, and what it gives is the
outcome of `fprintf` (`fprintf?_eq`).

The proof follows the main loop. `Performs` relates the checked writes of a field to the sink's
delivery of their chunks, and `EndsAs` relates the loop from a position to the plan of the
pieces of the rest of the text. The loop's lemma `Template.walk?_endsAs` is an induction on the
fuel, with the count of `%` left below it. A directive is read byte by byte as
`Directive.parse?` reads it (`Directive.scan?_eq`), and each conversion in the scratch slice
gives what the plan's conversion gives (`Template.convert?_eq`, from the converter lemmas of
`FormatEngine.Proofs.CheckedConverters`).

Main statement: `formatting_never_panics`.
-/
namespace FormatEngine

/-! ## Slices -/

namespace Bytes

theorem slice?_eq {xs : Bytes} {lo hi : Nat} (h : lo ≤ hi) (hhi : hi ≤ xs.length) :
    slice? xs lo hi = some ((xs.drop lo).take (hi - lo)) := by
  simp [slice?, h, hhi]

theorem slice?_to_end {xs : Bytes} {lo : Nat} (h : lo ≤ xs.length) :
    slice? xs lo xs.length = some (xs.drop lo) := by
  rw [slice?_eq h le_rfl, List.take_of_length_le (by simp)]

theorem slice?_strlen (xs : Bytes) : slice? xs 0 (strlen xs) = some (beforeNul xs) := by
  rw [slice?_eq (Nat.zero_le _) (strlen_le_length xs), List.drop_zero, Nat.sub_zero,
    beforeNul_eq_take]

end Bytes

/-! ## Reading a directive -/

namespace Directive

/-- The width loop reads the run of digits from `pos`, given a round for each byte left. -/
theorem scanWidth?_eq (r : Bytes) :
    ∀ (fuel pos w : Nat), r.length - pos < fuel →
      scanWidth? r fuel pos w = some (pos + ((r.drop pos).takeWhile isDigit).length,
        ((r.drop pos).takeWhile isDigit).foldl (fun w d => min maxWidth (w * 10 + (d.toNat - 48))) w) := by
  intro fuel
  induction fuel with
  | zero => intro pos w h; omega
  | succ fuel ih =>
    intro pos w h
    rw [scanWidth?]
    cases hb : r[pos]? with
    | none =>
      have : r.drop pos = [] := by simpa using List.getElem?_eq_none_iff.1 hb
      simp [this]
    | some b =>
      have hdrop : r.drop pos = b :: r.drop (pos + 1) := by
        obtain ⟨hlt, rfl⟩ := List.getElem?_eq_some_iff.1 hb
        exact List.drop_eq_getElem_cons hlt
      by_cases hd : isDigit b = true
      · have h48 : 48 ≤ b.toNat := by
          simp [isDigit] at hd
          exact UInt8.le_iff_toNat_le.1 hd.1
        simp only [hd, if_true, h48, hdrop, List.takeWhile_cons_of_pos hd, List.length_cons,
          List.foldl_cons]
        have hlt : pos < r.length := (List.getElem?_eq_some_iff.1 hb).1
        rw [ih (pos + 1) _ (by omega)]
        simp only [Option.some.injEq, Prod.mk.injEq, and_true]
        omega
      · simp [hd, hdrop, List.takeWhile_cons_of_neg hd]

/-- The width loop from `k` with fuel for every byte: it reads the run of digits there. -/
theorem scanWidth?_from (r : Bytes) (k : Nat) :
    scanWidth? r (r.length + 1) k 0 = some (k + ((r.drop k).takeWhile isDigit).length,
      widthOf ((r.drop k).takeWhile isDigit)) :=
  scanWidth?_eq r _ k 0 (by omega)

theorem getElem?_after_digits (r : Bytes) (pos : Nat) :
    r[pos + ((r.drop pos).takeWhile isDigit).length]? = ((r.drop pos).dropWhile isDigit).head? := by
  have h := congrArg (·[((r.drop pos).takeWhile isDigit).length]?)
    (List.takeWhile_append_dropWhile (p := isDigit) (l := r.drop pos))
  simp only [List.getElem?_append_right (le_refl _), Nat.sub_self, List.getElem?_drop] at h
  rw [← h, List.head?_eq_getElem?]

theorem beq_getElem?_zero_of_ne {r : Bytes} {b : UInt8} (h : ∀ t, r ≠ b :: t) :
    (r[0]? == some b) = false := by
  cases r with
  | nil => rfl
  | cons x t => simpa using fun hx => h t (by rw [hx])

/-- The byte-by-byte reading of a directive finds what `parse?` finds. -/
theorem scan?_eq (r : Bytes) : scan? r = some (parse? r) := by
  unfold scan?
  simp only [scanWidth?_from, Option.bind_eq_bind, Option.bind_some, getElem?_after_digits]
  rcases lead_cases 45 r with ⟨r, rfl⟩ | h45 <;> rcases lead_cases 48 r with ⟨r, rfl⟩ | h48
  -- one case per flag prefix; the conversion byte is the first byte after the digits
  · simp [parse?]
    cases List.dropWhile isDigit r <;> simp
  · simp [parse?, beq_getElem?_zero_of_ne h48]
    cases List.dropWhile isDigit r <;> simp
  · simp [parse?]
    cases List.dropWhile isDigit r <;> simp
  · simp [parse?, beq_getElem?_zero_of_ne h45, beq_getElem?_zero_of_ne h48]
    cases List.dropWhile isDigit r <;> simp

end Directive

/-! ## Sinks -/

namespace Sink

theorem deliver_append_of_none (s : Sink) {xs : List Bytes} {d d' : Delivery}
    (h : s.deliver xs d = (d', none)) (ys : List Bytes) :
    s.deliver (xs ++ ys) d = s.deliver ys d' := by
  induction xs generalizing d with
  | nil => cases h; rfl
  | cons x xs ih =>
    simp only [deliver, List.cons_append] at h ⊢
    split at h
    · rename_i hx
      rw [if_pos hx]
      exact ih h
    · cases h

theorem deliver_append_of_some (s : Sink) {xs : List Bytes} {d d' : Delivery} {e : FmtError}
    (h : s.deliver xs d = (d', some e)) (ys : List Bytes) :
    s.deliver (xs ++ ys) d = (d', some e) := by
  induction xs generalizing d with
  | nil => cases h
  | cons x xs ih =>
    simp only [deliver, List.cons_append] at h ⊢
    split at h
    · rename_i hx
      rw [if_pos hx]
      exact ih h
    · rename_i hx
      rw [if_neg hx]
      exact h

theorem bytes_of_deliver_none (s : Sink) {xs : List Bytes} {d d' : Delivery}
    (h : s.deliver xs d = (d', none)) : d'.bytes = d.bytes ++ xs.flatten := by
  induction xs generalizing d with
  | nil => cases h; simp
  | cons x xs ih =>
    simp only [deliver] at h
    split at h
    · simp [ih h]
    · cases h

theorem deliver_singleton (s : Sink) (b : Bytes) (d : Delivery) :
    s.deliver [b] d = match s.writeBytes d b with
      | .ok d' => (d', none)
      | .error e => (d, some e) := by
  simp only [deliver, writeBytes]
  split <;> rfl

theorem writeRepeated?_eq (s : Sink) (c : UInt8) :
    ∀ (fuel left : Nat) (d : Delivery), left ≤ fuel →
      s.writeRepeated? c (fuel + 1) d left = some (s.deliver (fillChunksAux c fuel left) d) := by
  intro fuel
  induction fuel with
  | zero =>
    intro left d h
    obtain rfl : left = 0 := by omega
    simp [writeRepeated?, fillChunksAux, deliver]
  | succ fuel ih =>
    intro left d h
    rw [writeRepeated?]
    by_cases h0 : left = 0
    · simp [h0, fillChunksAux, deliver]
    · have hchunk : Bytes.slice? (List.replicate chunk c) 0 (min left chunk) =
          some (List.replicate (min left chunk) c) := by
        rw [Bytes.slice?_eq (Nat.zero_le _) (by simp)]
        simp [List.take_replicate]
      simp only [h0, if_false, hchunk, Option.bind_eq_bind, Option.bind_some, fillChunksAux,
        writeBytes, deliver, List.length_replicate]
      by_cases ha : s.accepts d.bytes.length (min left chunk) = true
      · simp only [ha, if_true]
        exact ih _ _ (by simp only [chunk] at *; omega)
      · simp [ha]

/-- A plan with more writes in front: when the sink takes those whole, the plan ends as the
rest does, with what the front wrote added to its count. -/
theorem run_append (s : Sink) {ws : List Write} {d d₁ : Delivery}
    (h : s.deliver (ws.flatMap chunks) d = (d₁, none)) (ws' : List Write) (stop : Option FmtError) :
    s.run ⟨ws ++ ws', stop⟩ d =
      ((s.run ⟨ws', stop⟩ d₁).1, (s.run ⟨ws', stop⟩ d₁).2.map (· + (d₁.bytes.length - d.bytes.length))) := by
  have h₁ := s.bytes_of_deliver_none h
  unfold run
  simp only [List.flatMap_append, s.deliver_append_of_none h]
  rcases hd : s.deliver (ws'.flatMap chunks) d₁ with ⟨d₂, _ | e⟩
  · have h₂ := s.bytes_of_deliver_none hd
    cases stop with
    | none =>
      simp only [Except.map, Prod.mk.injEq, Except.ok.injEq, true_and]
      rw [h₂, h₁]
      simp only [List.length_append]
      omega
    | some e => rfl
  · rfl

end Sink

/-! ## Making writes -/

/-- Making the writes `ws` from `o` ended as `r`: the sink was handed their chunks in order and
holds what it took, the call ends with the sink's error if it refused one, and otherwise has
counted every byte of them. -/
structure Performs (s : Sink) (ws : List Write) (o : Counted) (r : Counted × Option FmtError) :
    Prop where
  deliver : s.deliver (ws.flatMap Sink.chunks) o.delivery = (r.1.delivery, r.2)
  written : r.2 = none → r.1.written = o.written + (ws.flatMap Write.toBytes).length

namespace Performs

variable {s : Sink} {ws ws' : List Write} {o : Counted} {r r' : Counted × Option FmtError}

theorem nil (s : Sink) (o : Counted) : Performs s [] o (o, none) :=
  ⟨rfl, fun _ => by simp⟩

/-- Writes made after writes the sink took whole. -/
theorem append (h : Performs s ws o r) (hr : r.2 = none) (h' : Performs s ws' r.1 r') :
    Performs s (ws ++ ws') o r' := by
  have hd : s.deliver (ws.flatMap Sink.chunks) o.delivery = (r.1.delivery, none) := hr ▸ h.deliver
  refine ⟨?_, fun hr' => ?_⟩
  · rw [List.flatMap_append, Sink.deliver_append_of_none s hd, h'.deliver]
  · rw [h'.written hr', h.written hr, List.flatMap_append, List.length_append]
    omega

/-- Writes after one the sink refused are never handed to it. -/
theorem append_of_refused {e : FmtError} (h : Performs s ws o r) (hr : r.2 = some e) :
    Performs s (ws ++ ws') o r := by
  have hd : s.deliver (ws.flatMap Sink.chunks) o.delivery = (r.1.delivery, some e) := hr ▸ h.deliver
  refine ⟨?_, fun hr' => by simp [hr] at hr'⟩
  rw [List.flatMap_append, Sink.deliver_append_of_some s hd, hr]

end Performs

namespace Counted

variable (o : Counted) (s : Sink)

theorem write_performs (b : Bytes) : Performs s (Field.emit b) o (o.write s b) := by
  unfold write Field.emit
  by_cases hb : b = []
  · simp only [hb, if_true]
    exact Performs.nil s o
  · simp only [hb, if_false]
    cases hw : s.writeBytes o.delivery b with
    | ok d => exact ⟨by simp [Sink.chunks, Sink.deliver_singleton, hw], fun _ => by simp [Write.toBytes]⟩
    | error e => exact ⟨by simp [Sink.chunks, Sink.deliver_singleton, hw], fun h => by cases h⟩

theorem fill?_performs (c : UInt8) (n : Nat) :
    ∃ r, o.fill? s c n = some r ∧ Performs s [.fill c n] o r := by
  unfold fill?
  by_cases hn : n = 0
  · subst hn
    refine ⟨(o, none), by simp, ⟨?_, fun _ => by simp [Write.toBytes]⟩⟩
    simp [Sink.chunks, Sink.fillChunks, Sink.fillChunksAux, Sink.deliver]
  · simp only [hn, if_false, Sink.writeRepeated?_eq s c n n o.delivery le_rfl, Option.map_some,
      Option.some.injEq, exists_eq_left']
    have hc : [Write.fill c n].flatMap Sink.chunks = Sink.fillChunksAux c n n := by
      simp [Sink.chunks, Sink.fillChunks]
    rcases hd : s.deliver (Sink.fillChunksAux c n n) o.delivery with ⟨d, _ | e⟩
    · exact ⟨by rw [hc, hd], fun _ => by simp [Write.toBytes]⟩
    · exact ⟨by rw [hc, hd], fun h => by cases h⟩

end Counted

/-- Writes that are never empty are made as the sink is handed their chunks. -/
theorem perform?_performs (s : Sink) :
    ∀ (ws : List Write) (o : Counted), (∀ w ∈ ws.flatMap Sink.chunks, w ≠ []) →
      ∃ r, perform? s ws o = some r ∧ Performs s ws o r := by
  intro ws
  induction ws with
  | nil => intro o _; exact ⟨(o, none), rfl, Performs.nil s o⟩
  | cons w ws ih =>
    intro o hne
    have hrest : ∀ b ∈ ws.flatMap Sink.chunks, b ≠ [] :=
      fun b hb => hne b (by rw [List.flatMap_cons]; exact List.mem_append_right _ hb)
    cases w with
    | bytes b =>
      have hb : b ≠ [] := hne b (by simp [Sink.chunks])
      have hw : Performs s [.bytes b] o (o.write s b) := by
        simpa [Field.emit, hb] using o.write_performs s b
      rcases hr : o.write s b with ⟨o', _ | e⟩
      · rw [hr] at hw
        obtain ⟨r, hp, hpr⟩ := ih o' hrest
        exact ⟨r, by simp [perform?, hr, hp], hw.append rfl hpr⟩
      · rw [hr] at hw
        exact ⟨(o', some e), by simp [perform?, hr], hw.append_of_refused rfl⟩
    | fill c n =>
      obtain ⟨r, hf, hw⟩ := o.fill?_performs s c n
      rcases r with ⟨o', _ | e⟩
      · obtain ⟨r, hp, hpr⟩ := ih o' hrest
        exact ⟨r, by simp [perform?, hf, hp], hw.append rfl hpr⟩
      · exact ⟨(o', some e), by simp [perform?, hf], hw.append_of_refused rfl⟩

/-! ## Ending as the plan ends -/

/-- The checked walk from `o` ended as `r` where the plan `p` ends when it is run from `o`'s
delivery: the sink holds the same, and the call ends with the same error or the same count. -/
structure EndsAs (s : Sink) (p : Plan) (o : Counted) (r : Counted × Option FmtError) : Prop where
  delivery : r.1.delivery = (s.run p o.delivery).1
  result : (s.run p o.delivery).2 = match r.2 with
    | some e => .error e
    | none => .ok (r.1.written - o.written)
  written : r.2 = none → o.written ≤ r.1.written

namespace EndsAs

variable {s : Sink} {ws ws' : List Write} {stop : Option FmtError} {o : Counted}
  {r r' : Counted × Option FmtError}

/-- A plan with no writes left ends with its own stop. -/
theorem nil (s : Sink) (o : Counted) (stop : Option FmtError) : EndsAs s ⟨[], stop⟩ o (o, stop) := by
  refine ⟨?_, ?_, fun _ => le_rfl⟩ <;> cases stop <;> simp [Sink.run, Sink.deliver]

/-- The writes before the rest of a plan, taken whole. -/
theorem append (h : Performs s ws o r) (hr : r.2 = none) (h' : EndsAs s ⟨ws', stop⟩ r.1 r') :
    EndsAs s ⟨ws ++ ws', stop⟩ o r' := by
  have hd : s.deliver (ws.flatMap Sink.chunks) o.delivery = (r.1.delivery, none) := hr ▸ h.deliver
  have hw := h.written hr
  have hlen : r.1.delivery.bytes.length = o.delivery.bytes.length + (ws.flatMap Write.toBytes).length := by
    rw [s.bytes_of_deliver_none hd, List.length_append, Sink.flatten_flatMap_chunks]
  have hrun := s.run_append hd ws' stop
  refine ⟨by rw [hrun]; exact h'.delivery, ?_, fun hr' => by have := h'.written hr'; omega⟩
  rw [hrun]
  dsimp only
  rw [h'.result]
  rcases r' with ⟨r', _ | e⟩
  · have hle : r.1.written ≤ r'.written := h'.written rfl
    simp only [Except.map, Except.ok.injEq]
    omega
  · rfl

/-- A plan whose writes the sink refuses part of the way ends with the sink's error. -/
theorem of_refused {e : FmtError} (h : Performs s ws o r) (hr : r.2 = some e) :
    EndsAs s ⟨ws ++ ws', stop⟩ o r := by
  have hd := s.deliver_append_of_some (hr ▸ h.deliver) (ws'.flatMap Sink.chunks)
  refine ⟨by simp [Sink.run, hd], by simp [Sink.run, hd, hr], fun h' => by simp [hr] at h'⟩

/-- A plan of writes alone ends as making them ends. -/
theorem of_performs (h : Performs s ws o r) : EndsAs s ⟨ws, none⟩ o r := by
  rcases r with ⟨r, _ | e⟩
  · simpa using append h rfl (nil s r none)
  · have hend : EndsAs s ⟨ws ++ [], none⟩ o (r, some e) := of_refused h rfl
    simpa using hend

end EndsAs

/-! ## One directive -/

namespace Scratch

@[simp] theorem size_ftoa (a : Array UInt8) (x : Binary64) (p : Nat) (style : FloatStyle) :
    (ftoa a x p style).1.size = a.size := by
  rw [ftoa_eq_stages]
  split <;> simp

/-- The fixed-point converter hands back the staged rendering of its buffer's size. -/
theorem returned_ftoa_eq_render? (a : Array UInt8) (x : Binary64) (p : Nat) (style : FloatStyle) :
    returned (ftoa a x p style) 0 = Fixed.render? a.size x p style := by
  cases h : Fixed.render? a.size x p style with
  | ok t =>
    obtain ⟨hfit, rfl⟩ := (Fixed.render?_eq_ok_iff a.size x p style t).1 h
    rw [ftoa_eq_write a x p style hfit]
    simp [returned, Except.map, textAt_writeAt a 0 (Fixed.text x p style) [0] (by omega)]
  | error e => simp [returned, ftoa_snd, h, Except.map]

end Scratch

namespace Template

/-- The field of a converter's outcome is the field of the text it hands back. -/
theorem fieldOf_eq {o : Scratch.Outcome} {t : Except Overflow Bytes} (h : Scratch.returned o 0 = t)
    (cur : Cursor) (f : Bytes → List Write) :
    fieldOf o cur f = (do
      let b ← t.mapError FmtError.ofOverflow
      pure (f b, cur) : Except FmtError (List Write × Cursor)).map fun r => (r.1, o.1, r.2) := by
  subst h
  obtain ⟨a, _ | len⟩ := o <;> rfl

/-- A checked converter that gives `o`, whose buffer is as large as the scratch slice and which
hands back `t`, gives the field of `t` with that buffer as the next scratch slice. -/
theorem map_fieldOf_eq {scratch : Array UInt8} {o : Scratch.Outcome} {t : Except Overflow Bytes}
    (hsize : o.1.size = scratch.size) (h : Scratch.returned o 0 = t) (cur : Cursor)
    (f : Bytes → List Write) :
    ∃ scratch' : Array UInt8, scratch'.size = scratch.size ∧
      (some o).map (fieldOf · cur f) = some ((do
        let b ← t.mapError FmtError.ofOverflow
        pure (f b, cur) : Except FmtError (List Write × Cursor)).map fun r => (r.1, scratch', r.2)) :=
  ⟨o.1, hsize, by rw [Option.map_some, fieldOf_eq h]⟩

/-- One directive, checked: it gives what the plan's conversion gives, with a scratch slice of
the same size. -/
theorem convert?_eq (c : FormatConfig) (scratch : Array UInt8) (d : Directive) (cur : Cursor) :
    ∃ scratch' : Array UInt8, scratch'.size = scratch.size ∧
      convert? c scratch d cur = some ((convert c scratch.size d cur).map fun r => (r.1, scratch', r.2)) := by
  obtain ⟨conv, left, zero, width⟩ := d
  cases conv with
  | percent => exact ⟨scratch, rfl, rfl⟩
  | unknown b => exact ⟨scratch, rfl, rfl⟩
  | str =>
    refine ⟨scratch, rfl, ?_⟩
    simp only [convert?, convert]
    cases cur.next .str with
    | error e => rfl
    | ok p =>
      obtain ⟨v, cur'⟩ := p
      exact congrArg (Option.map _) (Bytes.slice?_strlen (v : Bytes))
  | char =>
    refine ⟨scratch, rfl, ?_⟩
    simp only [convert?, convert]
    cases cur.next .int <;> rfl
  | signed =>
    simp only [convert?, convert]
    cases cur.next .int with
    | error e => exact ⟨scratch, rfl, rfl⟩
    | ok p =>
      obtain ⟨(v : Int32), cur'⟩ := p
      dsimp only
      rw [Scratch.itoa?_eq]
      exact map_fieldOf_eq (t := Convert.signed scratch.size v) (Scratch.size_itoa ..)
        (by rw [Scratch.returned_itoa, Nat.sub_zero]; rfl) cur' _
  | unsigned =>
    simp only [convert?, convert]
    cases cur.next .uint with
    | error e => exact ⟨scratch, rfl, rfl⟩
    | ok p =>
      obtain ⟨(v : UInt32), cur'⟩ := p
      dsimp only
      rw [Scratch.utoa?_eq]
      exact map_fieldOf_eq (t := Convert.unsigned scratch.size v) (Scratch.size_radix ..)
        (by rw [Scratch.returned_radix scratch 0 (by decide) (by decide), Nat.sub_zero]; rfl)
        cur' _
  | hex upper =>
    simp only [convert?, convert]
    cases cur.next .uint with
    | error e => exact ⟨scratch, rfl, rfl⟩
    | ok p =>
      obtain ⟨(v : UInt32), cur'⟩ := p
      dsimp only
      rw [Scratch.itoh?_eq]
      exact map_fieldOf_eq (t := Convert.hex scratch.size upper v.toUInt64) (Scratch.size_radix ..)
        (by rw [Scratch.returned_radix scratch 0 (by decide) (by decide), Nat.sub_zero]; rfl)
        cur' _
  | octal =>
    simp only [convert?, convert]
    cases cur.next .uint with
    | error e => exact ⟨scratch, rfl, rfl⟩
    | ok p =>
      obtain ⟨(v : UInt32), cur'⟩ := p
      dsimp only
      rw [Scratch.itoo?_eq]
      exact map_fieldOf_eq (t := Convert.octal scratch.size v) (Scratch.size_radix ..)
        (by rw [Scratch.returned_radix scratch 0 (by decide) (by decide), Nat.sub_zero]; rfl)
        cur' _
  | float =>
    simp only [convert?, convert]
    cases cur.next .double with
    | error e => exact ⟨scratch, rfl, rfl⟩
    | ok p =>
      obtain ⟨(v : Binary64), cur'⟩ := p
      dsimp only
      rw [Scratch.ftoa?_eq]
      exact map_fieldOf_eq (Scratch.size_ftoa ..) (Scratch.returned_ftoa_eq_render? ..) cur' _
  | pointer =>
    simp only [convert?, convert]
    cases cur.next .ptr with
    | error e => exact ⟨scratch, rfl, rfl⟩
    | ok p =>
      obtain ⟨(v : UInt64), cur'⟩ := p
      dsimp only
      rw [Scratch.itoh?_eq]
      exact map_fieldOf_eq (t := Convert.hex scratch.size false v) (Scratch.size_radix ..)
        (by rw [Scratch.returned_radix scratch 0 (by decide) (by decide), Nat.sub_zero]; rfl)
        cur' _

theorem chunks_ne_nil_of_convert {c : FormatConfig} {room : Nat} {d : Directive} {cur cur' : Cursor}
    {ws : List Write} (h : convert c room d cur = .ok (ws, cur')) :
    ∀ w ∈ ws.flatMap Sink.chunks, w ≠ [] := by
  have hd := directiveWrites_of_convert c room d cur
  rw [h] at hd
  exact Reference.mem_directiveWrites hd.2

/-! ## The main loop -/

theorem count_of_dropWhile_eq {t r : Bytes} {b : UInt8} (h : t.dropWhile (· != 37) = b :: r) :
    t.count 37 = r.count 37 + 1 := by
  have hb : b = 37 := by
    have := List.head_dropWhile_not (· != 37) (l := t) (by simp [h])
    simp only [h, List.head_cons, bne_eq_false_iff_eq] at this
    exact this
  have hrun : (t.takeWhile (· != 37)).count 37 = 0 :=
    List.count_eq_zero_of_not_mem fun hm => by simpa using List.mem_takeWhile_imp hm
  have hsplit := List.takeWhile_append_dropWhile (p := (· != 37)) (l := t)
  rw [h, hb] at hsplit
  rw [← hsplit, List.count_append, hrun, List.count_cons_self]
  omega

/-- Any number of rounds above the count of `%` finds the same pieces: each round that goes on
consumes a `%`. -/
theorem piecesAux_stable :
    ∀ (fuel fuel' : Nat) (t : Bytes), t.count 37 < fuel → t.count 37 < fuel' →
      piecesAux fuel t = piecesAux fuel' t := by
  intro fuel
  induction fuel with
  | zero => intro fuel' t h; omega
  | succ fuel ih =>
    intro fuel' t h h'
    obtain ⟨fuel', rfl⟩ : ∃ k, fuel' = k + 1 := ⟨fuel' - 1, by omega⟩
    simp only [piecesAux]
    cases hd : t.dropWhile (· != 37) with
    | nil => rfl
    | cons b r =>
      have hcount := count_of_dropWhile_eq hd
      simp only
      cases hp : Directive.parse? r with
      | none => rfl
      | some dm =>
        obtain ⟨d, m⟩ := dm
        -- what follows the directive holds no more `%` than what follows the `%`
        have hrest : (r.drop m).count 37 ≤ r.count 37 := (List.drop_sublist m r).count_le 37
        simp only
        rw [ih fuel' (r.drop m) (by omega) (by omega)]

/-- The walk over a template ends after at most one round per `%` and one more. -/
theorem piecesAux_eq_pieces (t : Bytes) (fuel : Nat)
    (h : (Bytes.beforeNul t).count 37 + 1 ≤ fuel) :
    piecesAux fuel (Bytes.beforeNul t) = pieces t :=
  piecesAux_stable fuel _ _ (by omega)
    (by have := List.count_le_length (a := (37 : UInt8)) (l := Bytes.beforeNul t); omega)

theorem findIdx?_percent_of_dropWhile {l r : Bytes} {b : UInt8} (h : l.dropWhile (· != 37) = b :: r) :
    l.findIdx? (· == 37) = some (l.takeWhile (· != 37)).length := by
  induction l with
  | nil => simp at h
  | cons x l ih =>
    by_cases hx : x = 37
    · simp [hx, List.findIdx?_cons]
    · have hx' : (x != 37) = true := by simpa using hx
      simp only [List.dropWhile_cons, hx', if_true] at h
      simp [List.findIdx?_cons, hx, ih h]

theorem findIdx?_percent_of_dropWhile_nil {l : Bytes} (h : l.dropWhile (· != 37) = []) :
    l.findIdx? (· == 37) = none := by
  rw [List.findIdx?_eq_none_iff]
  intro x hx
  have := List.dropWhile_eq_nil_iff.1 h x hx
  simpa using this

/-- Where the first `%` after `pos` stands: `k` bytes on, with the directive's bytes after it. -/
theorem drop_of_dropWhile {t r : Bytes} {pos : Nat} {b : UInt8}
    (h : (t.drop pos).dropWhile (· != 37) = b :: r) :
    pos + ((t.drop pos).takeWhile (· != 37)).length < t.length ∧
      t.drop (pos + ((t.drop pos).takeWhile (· != 37)).length + 1) = r := by
  have hsplit := List.takeWhile_append_dropWhile (p := (· != 37)) (l := t.drop pos)
  rw [h] at hsplit
  constructor
  · have := congrArg List.length hsplit
    simp only [List.length_append, List.length_cons, List.length_drop] at this
    omega
  · rw [Nat.add_assoc, ← List.drop_drop]
    generalize (t.drop pos).takeWhile (· != 37) = run at hsplit ⊢
    rw [← hsplit]
    simp

variable (c : FormatConfig) (s : Sink) (t : Bytes)

/-- The main loop from `pos`, with a round for each `%` left and one more, ends as the plan of
the pieces of the rest of the text ends, for any scratch slice of the configured size, cursor and
count so far. -/
theorem walk?_endsAs :
    ∀ (fuel pos : Nat) (scratch : Array UInt8) (cur : Cursor) (o : Counted),
      (t.drop pos).count 37 < fuel → scratch.size = c.scratchSize →
      ∃ r, walk? c s t fuel pos scratch cur o = some r ∧
        EndsAs s (planPieces c c.scratchSize (piecesAux fuel (t.drop pos)) cur) o r := by
  intro fuel
  induction fuel with
  | zero => intro pos scratch cur o h; omega
  | succ fuel ih =>
    intro pos scratch cur o hfuel hsize
    by_cases hpos : pos < t.length
    swap
    · -- the text is done
      have hnil : t.drop pos = [] := List.drop_eq_nil_of_le (by omega)
      refine ⟨(o, none), by simp [walk?, hpos], ?_⟩
      rw [hnil]
      simpa [piecesAux, planPieces] using EndsAs.nil s o none
    rw [walk?, if_pos hpos]
    simp only [Bytes.slice?_to_end hpos.le, Option.bind_eq_bind, Option.bind_some]
    cases hd : (t.drop pos).dropWhile (· != 37) with
    | nil =>
      -- no `%` is left: the rest of the text is the last run
      have hrun : (t.drop pos).takeWhile (· != 37) = t.drop pos := by
        simpa [hd] using List.takeWhile_append_dropWhile (p := (· != 37)) (l := t.drop pos)
      have hne : t.drop pos ≠ [] := by simp; omega
      rw [findIdx?_percent_of_dropWhile_nil hd]
      simp only [Bytes.slice?_to_end hpos.le, Option.bind_some]
      refine ⟨o.write s (t.drop pos), by rcases o.write s (t.drop pos) with ⟨o', _ | e⟩ <;> simp, ?_⟩
      simpa [piecesAux, hd, hrun, hne, planPieces] using EndsAs.of_performs (o.write_performs s (t.drop pos))
    | cons b r =>
      -- the next `%` is `k` bytes on: the run before it is written, then the directive read
      obtain ⟨hlt, hafter⟩ := drop_of_dropWhile hd
      have hcount := count_of_dropWhile_eq hd
      have hrun : (t.drop pos).take ((t.drop pos).takeWhile (· != 37)).length =
          (t.drop pos).takeWhile (· != 37) :=
        (List.prefix_iff_eq_take.1 (List.takeWhile_prefix _)).symm
      rw [findIdx?_percent_of_dropWhile hd]
      simp only [Bytes.slice?_eq (Nat.le_add_right _ _) hlt.le, Nat.add_sub_cancel_left, hrun,
        Option.bind_some]
      simp only [piecesAux, hd]
      generalize hk : ((t.drop pos).takeWhile (· != 37)).length = k at hlt hafter ⊢
      generalize (t.drop pos).takeWhile (· != 37) = run
      have hw := o.write_performs s run
      have hne : pos + k ≠ t.length := by omega
      simp only [hne, if_false, Bytes.slice?_to_end (by omega : pos + k + 1 ≤ t.length), hafter,
        Directive.scan?_eq, Option.bind_some]
      cases hp : Directive.parse? r with
      | none =>
        -- a `%` that ends the text is written alone
        rw [planPieces_literal]
        rcases hwr : o.write s run with ⟨o₁, _ | e⟩
        · have hlone : EndsAs s (planPieces c c.scratchSize [Piece.dangling] cur) o₁ (o₁.write s [37]) :=
            EndsAs.of_performs (o₁.write_performs s [37])
          exact ⟨_, rfl, EndsAs.append (hwr ▸ hw) rfl hlone⟩
        · exact ⟨_, rfl, EndsAs.of_refused (hwr ▸ hw) rfl⟩
      | some dm =>
        obtain ⟨d, m⟩ := dm
        obtain ⟨scratch', hsize', hconv⟩ := convert?_eq c scratch d cur
        rw [hsize] at hconv
        rw [planPieces_literal]
        rcases hwr : o.write s run with ⟨o₁, _ | e⟩
        swap
        · exact ⟨_, rfl, EndsAs.of_refused (hwr ▸ hw) rfl⟩
        have hw₁ : Performs s (Field.emit run) o (o₁, none) := hwr ▸ hw
        simp only [hconv, Option.bind_some, planPieces]
        cases hc : convert c c.scratchSize d cur with
        | error e => exact ⟨_, rfl, EndsAs.append hw₁ rfl (EndsAs.nil s o₁ (some e))⟩
        | ok wc =>
          obtain ⟨ws, cur'⟩ := wc
          obtain ⟨⟨o₂, stop₂⟩, hper, hpr⟩ := perform?_performs s ws o₁ (chunks_ne_nil_of_convert hc)
          simp only [Except.map, hper, Option.bind_some]
          cases stop₂ with
          | some e => exact ⟨_, rfl, EndsAs.append hw₁ rfl (EndsAs.of_refused hpr rfl)⟩
          | none =>
            -- the rest of the text after the directive holds fewer `%`
            have hdrop : t.drop (pos + k + 1 + m) = r.drop m := by rw [← hafter, List.drop_drop]
            have hle : (r.drop m).count 37 ≤ r.count 37 := (List.drop_sublist m r).count_le 37
            obtain ⟨r₃, hwalk, hends⟩ :=
              ih (pos + k + 1 + m) scratch' cur' o₂ (by rw [hdrop]; omega) (hsize'.trans hsize)
            rw [hdrop] at hends
            exact ⟨r₃, hwalk, EndsAs.append hw₁ rfl (EndsAs.append hpr rfl hends)⟩

end Template

/-! ## A whole call -/

namespace Arena

/-- A granted request is handed the `size` bytes from the offset, inside the capacity. -/
theorem alloc_range {a a' : Arena} {size lo hi : Nat} (ha : a.alloc size = .ok ((lo, hi), a')) :
    lo = a.offset ∧ hi = lo + size ∧ hi ≤ a.capacity := by
  obtain ⟨hroom, hr, -, -⟩ := (a.alloc_eq_ok_iff size _).1 ha
  simp only [Prod.mk.injEq] at hr
  have := a.offset_le
  simp only [remaining] at hroom
  omega

/-- The checked allocation, from storage that spans the arena, hands out the bytes of the
range the arena allocates. -/
theorem allocate?_eq (a : Arena) {storage : Array UInt8} (h : storage.size = a.capacity) (size : Nat) :
    a.allocate? storage size =
      some ((a.alloc size).map fun r => (storage.extract r.1.1 r.1.2, r.2)) := by
  unfold allocate? remaining?
  rw [if_pos a.offset_le]
  rcases ha : a.alloc size with e | ⟨⟨lo, hi⟩, a'⟩
  · rfl
  · have hle : hi ≤ storage.size := h ▸ (alloc_range ha).2.2
    simp [hle, Except.map]

end Arena

/-- A formatting call with every access checked gives what `fprintf` gives, when the arena's
storage spans its capacity. -/
theorem fprintf?_eq (a : Arena) {storage : Array UInt8} (h : storage.size = a.capacity)
    (c : FormatConfig) (s : Sink) (d : Delivery) (t : Bytes) (args : List Arg) :
    fprintf? a storage c s d t args = some (fprintf a c s d t args) := by
  unfold fprintf? fprintf
  rw [Arena.allocate?_eq a h]
  rcases ha : a.alloc c.scratchSize with e | ⟨⟨lo, hi⟩, a'⟩
  · rfl
  · obtain ⟨-, hhi, hle⟩ := Arena.alloc_range ha
    have hsize : (storage.extract lo hi).size = c.scratchSize := by
      simp only [Array.size_extract]
      omega
    simp only [Except.map, Option.bind_eq_bind, Option.bind_some, Bytes.slice?_strlen]
    obtain ⟨r, hwalk, hends⟩ := Template.walk?_endsAs c s (Bytes.beforeNul t)
      ((Bytes.beforeNul t).count 37 + 1) 0 _ (Cursor.start args) ⟨d, 0⟩ (by simp) hsize
    rw [List.drop_zero, Template.piecesAux_eq_pieces t _ le_rfl] at hends
    rw [hwalk, Option.bind_some, Template.plan, ← hends.delivery, hends.result]
    rcases r with ⟨o, _ | e⟩ <;> rfl

/-- A formatting call never panics. The digit loop that fills a converter's window stores
exactly the digits the digit-count loop counted, and so stays inside the room checked for them;
a directive read byte by byte takes at least its conversion byte and no byte past the text; and
a whole call, with every slice, store and subtraction checked and with a round of its main loop
for each `%` and one more, ends with the outcome of `fprintf`, for every arena whose storage
spans its capacity and every configuration, sink, template and argument list. -/
theorem formatting_never_panics :
    (∀ (b : Nat) (upper : Bool) (a : Array UInt8) (start v : Nat), 2 ≤ b → b ≤ 16 →
      Numeral.digitCount b v ≤ a.size - start →
      Numeral.digitCount b v = (Numeral.digitsLsb b v).length ∧
        Scratch.emitDigits? start b upper (v + 1) a 0 v =
          some (Scratch.writeAt a start ((Numeral.digitsLsb b v).map (Numeral.digitByte upper)),
            Numeral.digitCount b v)) ∧
    (∀ (r : Bytes) (d : Directive) (m : Nat), Directive.scan? r = some (some (d, m)) →
      1 ≤ m ∧ m ≤ r.length) ∧
    (∀ (a : Arena) (storage : Array UInt8) (c : FormatConfig) (s : Sink) (d : Delivery)
      (t : Bytes) (args : List Arg), storage.size = a.capacity →
      fprintf? a storage c s d t args = some (fprintf a c s d t args)) := by
  refine ⟨fun b upper a start v hb hb16 hroom => ?_, fun r d m h => ?_,
    fun a storage c s d t args h => fprintf?_eq a h c s d t args⟩
  · exact ⟨Numeral.digitCount_eq_length hb v,
      Scratch.emitDigits?_stores_digitCount hb hb16 upper a start v hroom⟩
  · rw [Directive.scan?_eq, Option.some.injEq] at h
    obtain ⟨hm, hlen, -⟩ := Directive.parse?_consumed h
    exact ⟨hm, hlen⟩

/-- `%d` of 42 from an arena of 128 bytes, into a sink that takes everything. -/
theorem formatting_never_panics_on_signed :
    (Numeral.digitCount 10 42 = (Numeral.digitsLsb 10 42).length ∧
      Scratch.emitDigits? 0 10 false (42 + 1) (Array.replicate 4 0) 0 42 =
        some (Scratch.writeAt (Array.replicate 4 0) 0
          ((Numeral.digitsLsb 10 42).map (Numeral.digitByte false)), Numeral.digitCount 10 42)) ∧
    (1 ≤ 1 ∧ 1 ≤ ([100] : Bytes).length) ∧
    fprintf? (Arena.new 128) (Array.replicate 128 0) {} .unbounded .empty [37, 100] [.int 42] =
      some (fprintf (Arena.new 128) {} .unbounded .empty [37, 100] [.int 42]) :=
  ⟨formatting_never_panics.1 10 false _ 0 42 (by decide) (by decide) (by decide),
    formatting_never_panics.2.1 [100] ⟨.signed, false, false, 0⟩ 1 (by decide),
    formatting_never_panics.2.2 _ _ _ _ _ _ _ (by simp [Arena.new])⟩

end FormatEngine
