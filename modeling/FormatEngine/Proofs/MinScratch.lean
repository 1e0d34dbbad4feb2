import Mathlib
import FormatEngine.Proofs.Rendering
import FormatEngine.Proofs.ScratchRoom
/-!
# The minimum scratch size

Every converter's text has a length bound that holds for all of its inputs: ten digits for a
32-bit unsigned value, eleven for its octal numeral or a signed 32-bit value, sixteen for a
64-bit hex numeral, and 23 bytes for a fixed-point text. With its NUL every text fits in
`FormatConfig.minScratch = 24` bytes, so no converter fails in a buffer that large, and a
formatting call whose scratch slice is that large never fails for lack of scratch, into any
sink, for any template and arguments. A configuration that validates has such a slice.

The fixed-point text of `-∞` in the reference style is 23 bytes long, so 24 is also the least
size that suffices (`ftoa_neg_infinity_eq_ok_iff`).
-/
namespace FormatEngine

/-! ## Length bounds -/

theorem Int32.toInt_bounds (n : Int32) : -2147483648 ≤ n.toInt ∧ n.toInt ≤ 2147483647 := by
  have lo := Int32.le_toInt n
  have hi := Int32.toInt_lt n
  constructor <;> omega

-- the digit budgets: `2^32 ≤ 10^10`, `2^32 ≤ 8^11` and `2^64 = 16^16`
theorem UInt32.toNat_lt_ten_pow (u : UInt32) : u.toNat < Nat.pow 10 10 := by
  have := UInt32.toNat_lt u
  simp only [Nat.pow_eq]
  omega

theorem UInt32.toNat_lt_eight_pow (u : UInt32) : u.toNat < Nat.pow 8 11 := by
  have := UInt32.toNat_lt u
  simp only [Nat.pow_eq]
  omega

theorem UInt64.toNat_lt_sixteen_pow (v : UInt64) : v.toNat < Nat.pow 16 16 := by
  have := UInt64.toNat_lt v
  simp only [Nat.pow_eq]
  omega

namespace Numeral

theorem length_signed_int32_le (n : Int32) : (signed n.toInt).length ≤ 11 :=
  length_signed_le (Int32.toInt_bounds n).1 (Int32.toInt_bounds n).2

theorem length_decimal_le (u : UInt32) : (text 10 false u.toNat).length ≤ 10 :=
  length_text_le_of_lt_pow false (by decide) (by decide) (UInt32.toNat_lt_ten_pow u)

theorem length_octal_le (u : UInt32) : (text 8 false u.toNat).length ≤ 11 :=
  length_text_le_of_lt_pow false (by decide) (by decide) (UInt32.toNat_lt_eight_pow u)

theorem length_hex_le (upper : Bool) (v : UInt64) : (text 16 upper v.toNat).length ≤ 16 :=
  length_text_le_of_lt_pow upper (by decide) (by decide) (UInt64.toNat_lt_sixteen_pow v)

end Numeral

/-! ## Converters given the minimum room -/

theorem Room.fit_of_length_le {room : Nat} (h : FormatConfig.minScratch ≤ room) {t : List UInt8}
    (ht : t.length ≤ 23) : fit room t = .ok t :=
  (fit_eq_ok_iff room t t).2 ⟨by unfold FormatConfig.minScratch at h; omega, rfl⟩

namespace Convert

variable {room : Nat}

theorem signed_of_minScratch (h : FormatConfig.minScratch ≤ room) (n : Int32) :
    signed room n = .ok (Numeral.signed n.toInt) :=
  Room.fit_of_length_le h (by have := Numeral.length_signed_int32_le n; omega)

theorem unsigned_of_minScratch (h : FormatConfig.minScratch ≤ room) (u : UInt32) :
    unsigned room u = .ok (Numeral.text 10 false u.toNat) :=
  Room.fit_of_length_le h (by have := Numeral.length_decimal_le u; omega)

theorem octal_of_minScratch (h : FormatConfig.minScratch ≤ room) (u : UInt32) :
    octal room u = .ok (Numeral.text 8 false u.toNat) :=
  Room.fit_of_length_le h (by have := Numeral.length_octal_le u; omega)

theorem hex_of_minScratch (h : FormatConfig.minScratch ≤ room) (upper : Bool) (v : UInt64) :
    hex room upper v = .ok (Numeral.text 16 upper v.toNat) :=
  Room.fit_of_length_le h (by have := Numeral.length_hex_le upper v; omega)

end Convert

theorem Fixed.render?_of_minScratch {room : Nat} (h : FormatConfig.minScratch ≤ room)
    (x : Binary64) (p : Nat) (style : FloatStyle) : render? room x p style = .ok (text x p style) :=
  render?_eq_ok_of_fits (by have := length_text_le x p style; unfold FormatConfig.minScratch at h; omega)

/-! ## Buffers of the minimum size -/

namespace Scratch

variable {a : Array UInt8}

/-- A numeral converter succeeds in a buffer with room for `k` digits and a NUL, whenever the
value has at most `k` digits. -/
theorem radix_of_fits {b v k : Nat} (upper : Bool) (hb : 2 ≤ b) (hk : 1 ≤ k)
    (hv : v < Nat.pow b k) (h : k + 1 ≤ a.size) :
    (radix a 0 b upper v).2 = .ok (Numeral.text b upper v).length := by
  have hd := Numeral.digitCount_le_of_lt_pow hb hk hv
  rw [radix_snd _ _ hb, if_pos (by omega), Numeral.length_text hb]

theorem itoa_of_minScratch (h : FormatConfig.minScratch ≤ a.size) (n : Int32) :
    (itoa a 0 n).2 = .ok (Numeral.signed n.toInt).length := by
  have hl := Numeral.length_signed_int32_le n
  unfold FormatConfig.minScratch at h
  rw [itoa_snd, if_pos (by omega)]

theorem utoa_of_minScratch (h : FormatConfig.minScratch ≤ a.size) (u : UInt32) :
    (utoa a 0 u).2 = .ok (Numeral.text 10 false u.toNat).length := by
  unfold FormatConfig.minScratch at h
  exact radix_of_fits false (by decide) (by decide) (UInt32.toNat_lt_ten_pow u) (by omega)

theorem itoo_of_minScratch (h : FormatConfig.minScratch ≤ a.size) (u : UInt32) :
    (itoo a 0 u).2 = .ok (Numeral.text 8 false u.toNat).length := by
  unfold FormatConfig.minScratch at h
  exact radix_of_fits false (by decide) (by decide) (UInt32.toNat_lt_eight_pow u) (by omega)

theorem itoh_of_minScratch (h : FormatConfig.minScratch ≤ a.size) (upper : Bool) (v : UInt64) :
    (itoh a 0 upper v).2 = .ok (Numeral.text 16 upper v.toNat).length := by
  unfold FormatConfig.minScratch at h
  exact radix_of_fits upper (by decide) (by decide) (UInt64.toNat_lt_sixteen_pow v) (by omega)

theorem ftoa_of_minScratch (h : FormatConfig.minScratch ≤ a.size) (x : Binary64) (p : Nat)
    (style : FloatStyle) : (ftoa a x p style).2 = .ok (Fixed.text x p style).length := by
  rw [ftoa_snd, Fixed.render?_of_minScratch h]
  rfl

end Scratch

/-! ## Formatting calls with the minimum scratch -/

namespace Template

/-- With the minimum room a directive fails only on its argument, never for lack of scratch. -/
theorem convert_ne_scratchOverflow (c : FormatConfig) {room : Nat}
    (h : FormatConfig.minScratch ≤ room) (d : Directive) (cur : Cursor) (n m : Nat) :
    convert c room d cur ≠ .error (.scratchOverflow n m) := by
  obtain ⟨args, pos, hpos⟩ := cur
  obtain ⟨conv, left, zero, width⟩ := d
  intro hc
  rcases Nat.lt_or_ge pos args.length with hlt | hge
  · -- an argument is left: it has another kind, or its converter succeeds
    simp only [convert, Cursor.next, hlt, dite_true] at hc
    generalize args[pos] = a at hc
    cases conv <;> cases a <;>
      simp [Arg.as?, bind, Except.bind, Except.mapError, pure, Except.pure,
        Convert.signed_of_minScratch h, Convert.unsigned_of_minScratch h,
        Convert.octal_of_minScratch h, Convert.hex_of_minScratch h,
        Fixed.render?_of_minScratch h] at hc
  · -- no argument is left
    cases conv <;>
      simp [convert, Cursor.next, Nat.not_lt.2 hge, bind, Except.bind, pure, Except.pure] at hc

theorem planPieces_stop_ne_scratchOverflow (c : FormatConfig) {room : Nat}
    (h : FormatConfig.minScratch ≤ room) (n m : Nat) :
    ∀ (ps : List Piece) (cur : Cursor), (planPieces c room ps cur).stop ≠ some (.scratchOverflow n m) := by
  intro ps
  induction ps with
  | nil => intro cur; simp [planPieces]
  | cons piece ps ih =>
    intro cur
    cases piece with
    | literal b => exact ih cur
    | dangling => simp [planPieces]
    | directive d =>
      unfold planPieces
      cases hc : convert c room d cur with
      | error e =>
        intro he
        rw [Option.some.inj he] at hc
        exact convert_ne_scratchOverflow c h d cur n m hc
      | ok r => exact ih r.2

end Template

theorem Sink.deliver_error (s : Sink) :
    ∀ (ws : List Bytes) (d d' : Delivery) (e : FmtError), s.deliver ws d = (d', some e) →
      e = .io s.message := by
  intro ws
  induction ws with
  | nil => intro d d' e h; simp [deliver] at h
  | cons w ws ih =>
    intro d d' e h
    unfold deliver at h
    split at h
    · exact ih _ d' e h
    · cases h; rfl

/-- A call into a sink ends with the first refused write, or else with the plan's own error. -/
theorem Sink.run_error {s : Sink} {p : Plan} {d : Delivery} {e : FmtError}
    (h : (s.run p d).2 = .error e) : e = .io s.message ∨ p.stop = some e := by
  unfold run at h
  cases hd : s.deliver (p.writes.flatMap chunks) d with
  | mk d' stop =>
    rw [hd] at h
    cases stop with
    | some e' =>
      cases h
      exact .inl (deliver_error s _ d d' e hd)
    | none =>
      cases hs : p.stop with
      | some e' => rw [hs] at h; cases h; exact .inr rfl
      | none => rw [hs] at h; cases h

theorem FormatConfig.minScratch_le_of_validate {c : FormatConfig} (h : c.validate = .ok ()) :
    FormatConfig.minScratch ≤ c.scratchSize := by
  unfold validate at h
  split at h
  · cases h
  · split at h
    · cases h
    · omega

/-- With a scratch slice of the minimum size, a call never fails for lack of scratch, into any
sink, whatever the template and the arguments. -/
theorem fprintf_ne_scratchOverflow {c : FormatConfig} (h : FormatConfig.minScratch ≤ c.scratchSize)
    (a : Arena) (s : Sink) (d : Delivery) (t : Bytes) (args : List Arg) (n m : Nat) :
    (fprintf a c s d t args).result ≠ .error (.scratchOverflow n m) := by
  by_cases hroom : c.scratchSize ≤ a.remaining
  · obtain ⟨-, -, hrun⟩ := fprintf_of_scratchSize_le hroom s d t args
    intro he
    have hres := congrArg Prod.snd hrun
    rw [he] at hres
    rcases Sink.run_error hres.symm with hio | hstop
    · cases hio
    · exact Template.planPieces_stop_ne_scratchOverflow c h n m _ _ hstop
  · rw [fprintf_of_lt_scratchSize (Nat.lt_of_not_le hroom)]
    simp

theorem sprintf_ne_scratchOverflow {c : FormatConfig} (h : FormatConfig.minScratch ≤ c.scratchSize)
    (a : Arena) (t : Bytes) (args : List Arg) (n m : Nat) :
    (sprintf a c t args).2 ≠ .error (.scratchOverflow n m) := by
  intro he
  unfold sprintf at he
  cases hr : (fprintf a c .unbounded .empty t args).result with
  | error e =>
    simp only [hr, Except.map, Except.error.injEq] at he
    subst he
    exact fprintf_ne_scratchOverflow h a .unbounded .empty t args n m hr
  | ok k => simp [hr, Except.map] at he

/-! ## The bound is attained -/

theorem Fixed.length_text_neg_infinity {p : Nat} (hp : 1 ≤ p) :
    (text (Binary64.infinity true) p .reference).length = 23 := by
  rw [text_neg_infinity hp]
  decide +kernel

/-- The text of `-∞` fills a 24-byte buffer to the last byte: no smaller buffer holds it. -/
theorem Scratch.ftoa_neg_infinity_eq_ok_iff {p : Nat} (hp : 1 ≤ p) (a : Array UInt8) :
    (ftoa a (Binary64.infinity true) p .reference).2 = .ok 23 ↔ FormatConfig.minScratch ≤ a.size := by
  have hlen := Fixed.length_text_neg_infinity hp
  constructor
  · intro h
    rw [ftoa_snd] at h
    cases hr : Fixed.render? a.size (Binary64.infinity true) p .reference with
    | error o => simp [hr, Except.map] at h
    | ok t =>
      have hfit := ((Fixed.render?_eq_ok_iff _ _ _ _ t).1 hr).1
      unfold FormatConfig.minScratch
      omega
  · intro h
    rw [ftoa_of_minScratch h, hlen]

/-! ## The minimum scratch size suffices, and exactly -/

/-- Every converter's text is at most 23 bytes long, for every input, so every converter
succeeds in a buffer of `FormatConfig.minScratch = 24` bytes and reports its text's length.
Hence a formatting call whose configuration validates, or whose scratch size is at least 24
whatever its precision, never fails for lack of scratch, into any sink, with any arena,
template and arguments. The bound is attained: at any precision from `1` the reference text of
`-∞` is `-2147483648.-2147483648`, 23 bytes, and it is converted exactly in the buffers of at
least 24 bytes. -/
theorem min_scratch_suffices :
    (∀ (n : Int32) (u : UInt32) (v : UInt64) (upper : Bool) (x : Binary64) (p : Nat)
        (style : FloatStyle),
      (Numeral.signed n.toInt).length ≤ 23 ∧ (Numeral.text 10 false u.toNat).length ≤ 23 ∧
        (Numeral.text 8 false u.toNat).length ≤ 23 ∧
        (Numeral.text 16 upper v.toNat).length ≤ 23 ∧ (Fixed.text x p style).length ≤ 23 ∧
        ∀ buf : Array UInt8, FormatConfig.minScratch ≤ buf.size →
          (Scratch.itoa buf 0 n).2 = .ok (Numeral.signed n.toInt).length ∧
          (Scratch.utoa buf 0 u).2 = .ok (Numeral.text 10 false u.toNat).length ∧
          (Scratch.itoo buf 0 u).2 = .ok (Numeral.text 8 false u.toNat).length ∧
          (Scratch.itoh buf 0 upper v).2 = .ok (Numeral.text 16 upper v.toNat).length ∧
          (Scratch.ftoa buf x p style).2 = .ok (Fixed.text x p style).length) ∧
    (∀ c : FormatConfig, (c.validate = .ok () ∨ FormatConfig.minScratch ≤ c.scratchSize) →
      ∀ (a : Arena) (s : Sink) (d : Delivery) (t : Bytes) (args : List Arg) (n m : Nat),
        (fprintf a c s d t args).result ≠ .error (.scratchOverflow n m) ∧
          (sprintf a c t args).2 ≠ .error (.scratchOverflow n m)) ∧
    (∀ p : Nat, 1 ≤ p →
      Fixed.text (Binary64.infinity true) p .reference = Bytes.ofString "-2147483648.-2147483648" ∧
        (Fixed.text (Binary64.infinity true) p .reference).length = 23 ∧
        ∀ buf : Array UInt8,
          (Scratch.ftoa buf (Binary64.infinity true) p .reference).2 = .ok 23 ↔
            FormatConfig.minScratch ≤ buf.size) := by
  refine ⟨fun n u v upper x p style => ?_, fun c hc => ?_, fun p hp => ?_⟩
  · have h1 := Numeral.length_signed_int32_le n
    have h2 := Numeral.length_decimal_le u
    have h3 := Numeral.length_octal_le u
    have h4 := Numeral.length_hex_le upper v
    refine ⟨by omega, by omega, by omega, by omega, Fixed.length_text_le x p style,
      fun buf hbuf => ?_⟩
    exact ⟨Scratch.itoa_of_minScratch hbuf n, Scratch.utoa_of_minScratch hbuf u,
      Scratch.itoo_of_minScratch hbuf u, Scratch.itoh_of_minScratch hbuf upper v,
      Scratch.ftoa_of_minScratch hbuf x p style⟩
  · -- a configuration that validates has at least the minimum scratch
    have h : FormatConfig.minScratch ≤ c.scratchSize :=
      hc.elim FormatConfig.minScratch_le_of_validate id
    exact fun a s d t args n m =>
      ⟨fprintf_ne_scratchOverflow h a s d t args n m, sprintf_ne_scratchOverflow h a t args n m⟩
  · exact ⟨Fixed.text_neg_infinity hp, Fixed.length_text_neg_infinity hp,
      Scratch.ftoa_neg_infinity_eq_ok_iff hp⟩

/-- The smallest valid configuration formats `-∞` with no lack of scratch, and its text fills
a 24-byte buffer exactly. -/
theorem smallest_config_formats_neg_infinity :
    ({ scratchSize := 24 } : FormatConfig).validate = .ok () ∧
      (sprintf (Arena.new 1024) { scratchSize := 24 } (Bytes.ofString "%f")
        [.double (Binary64.infinity true)]).2 ≠ .error (.scratchOverflow 24 23) ∧
      (Scratch.ftoa (Array.replicate 24 0) (Binary64.infinity true) 6 .reference).2 = .ok 23 := by
  have hv : ({ scratchSize := 24 } : FormatConfig).validate = .ok () := rfl
  refine ⟨hv, ((min_scratch_suffices.2.1 _ (.inl hv)) (Arena.new 1024) .unbounded .empty
    (Bytes.ofString "%f") [.double (Binary64.infinity true)] 24 23).2, ?_⟩
  exact ((min_scratch_suffices.2.2 6 (by decide)).2.2 (Array.replicate 24 0)).2 (by decide)

end FormatEngine
