import Mathlib
import FormatEngine.Proofs.DirectiveGrammar
import FormatEngine.Proofs.MinScratch
/-!
# Field layout

A directive's converted text reaches the sink as a field: a prefix (the `-` of a signed text, or
the `0x` of a pointer), a body, and `w - (|prefix| + |body|)` bytes of padding, `w` being the
directive's width, when the configuration applies widths. A left-aligned field pads with spaces
after its body; a zero-filled numeric field (`d u x X o f p`) puts zeros between its prefix and
its body; any other field pads with spaces in front. When widths are ignored, a field is its
prefix and its body.

`Align` states the alignment rules of a general-purpose formatter on texts: right and left
alignment with spaces, and the sign-aware zero fill that keeps a leading `-` in front of the
zeros. The digits of a number are the standard library's (`Nat.toDigits`, `Int.repr`), so the
laws below also say that the converters spell numbers as the library does.

Main statement (`field_layout_matches_alignment`): the layout of every field; its length, which
is the width or the text's length, whichever is larger; padding of at most 4096 bytes; the
directives `%wd`, `%-wd`, `%0wd` on every 32-bit integer, and `%0wx`, `%wX`, `%-wo` on every
32-bit word, laid out exactly by those rules; and a template whose directives all have width 0
formats the same whether widths are applied or ignored.
-/
namespace FormatEngine

/-! ## Texts as bytes -/

namespace Bytes

/-- The list a byte array's conversion loop builds from index `i` on, after the reversed `r`. -/
theorem toList_loop (bs : ByteArray) (i : Nat) (r : List UInt8) :
    ByteArray.toList.loop bs i r = r.reverse ++ bs.data.toList.drop i := by
  fun_induction ByteArray.toList.loop bs i r with
  | case1 i r h ih =>
    have hi : i < bs.data.toList.length := by simpa using h
    rw [ih, List.drop_eq_getElem_cons hi]
    simp [ByteArray.get!, h]
  | case2 i r h =>
    rw [List.drop_eq_nil_of_le (by simpa using Nat.le_of_not_lt h)]
    simp

theorem toList_byteArray (bs : ByteArray) : bs.toList = bs.data.toList := by
  simp [ByteArray.toList, toList_loop]

theorem ofString_eq_flatMap (s : String) : ofString s = s.toList.flatMap String.utf8EncodeChar := by
  rw [ofString, toList_byteArray, String.toUTF8_eq_toByteArray, ← String.ofList_toList (s := s),
    String.toByteArray_ofList, List.utf8Encode.eq_1, List.toList_data_toByteArray,
    String.toList_ofList]

theorem ofString_ofList (cs : List Char) :
    ofString (String.ofList cs) = cs.flatMap String.utf8EncodeChar := by
  rw [ofString_eq_flatMap, String.toList_ofList]

theorem ofString_append (s t : String) : ofString (s ++ t) = ofString s ++ ofString t := by
  simp [ofString_eq_flatMap, String.toList_append]

theorem ofString_replicate (n : Nat) (c : Char) (h : c.utf8Size = 1) :
    ofString (String.ofList (List.replicate n c)) = List.replicate n c.val.toUInt8 := by
  rw [ofString_ofList]
  induction n with
  | zero => rfl
  | succ n ih => rw [List.replicate_succ, List.flatMap_cons, ih, String.utf8EncodeChar_eq_singleton h]; rfl

theorem length_flatMap_utf8EncodeChar {cs : List Char} (h : ∀ c ∈ cs, c.utf8Size = 1) :
    (cs.flatMap String.utf8EncodeChar).length = cs.length := by
  induction cs with
  | nil => rfl
  | cons c cs ih =>
    rw [List.flatMap_cons, List.length_append, String.utf8EncodeChar_eq_singleton (h c (by simp)),
      ih fun c' hc' => h c' (List.mem_cons_of_mem c hc'), List.length_singleton, List.length_cons,
      Nat.add_comm]

theorem length_ofString {s : String} (h : ∀ c ∈ s.toList, c.utf8Size = 1) :
    (ofString s).length = s.length := by
  rw [ofString_eq_flatMap, length_flatMap_utf8EncodeChar h, String.length_toList]

end Bytes

/-! ## The alignment rules of a general-purpose formatter -/

namespace Align

/-- The digits of `v` in base `b` as the standard library writes them, in upper case when
`upper`. -/
def digits (b : Nat) (upper : Bool) (v : Nat) : String :=
  String.ofList ((Nat.toDigits b v).map fun c => if upper then c.toUpper else c)

/-- `s` right-aligned in a field of `w` characters: spaces in front up to the width. -/
def right (w : Nat) (s : String) : String :=
  String.ofList (List.replicate (w - s.length) ' ') ++ s

/-- `s` left-aligned in a field of `w` characters: spaces after it up to the width. -/
def left (w : Nat) (s : String) : String :=
  s ++ String.ofList (List.replicate (w - s.length) ' ')

/-- `s` zero-filled to `w` characters, sign-aware: the zeros go after a leading `-` and before
the digits. -/
def zeroFill (w : Nat) (s : String) : String :=
  match s.toList with
  | '-' :: ds => String.ofList ('-' :: List.replicate (w - s.length) '0' ++ ds)
  | ds => String.ofList (List.replicate (w - s.length) '0' ++ ds)

end Align

/-! ## The converters spell numbers as the library does -/

namespace Numeral

/-- A numeral is one digit below the base, and otherwise the numeral of `v / b` followed by the
digit `v % b`. -/
theorem text_eq_if {b : Nat} (hb : 2 ≤ b) (upper : Bool) (v : Nat) :
    text b upper v =
      if v < b then [digitByte upper v] else text b upper (v / b) ++ [digitByte upper (v % b)] := by
  unfold text digitsLsb
  split
  · rename_i h
    cases v with
    | zero => simp [digitsLsbAux]
    | succ v => simp [digitsLsbAux, show ¬ b ≤ v + 1 by omega]
  · rename_i h
    obtain ⟨k, hk⟩ : ∃ k, v = k + 1 := ⟨v - 1, by omega⟩
    have hq : v / b < v := Nat.div_lt_self (by omega) (by omega)
    conv => lhs; rw [hk]
    simp only [digitsLsbAux, show 2 ≤ b ∧ b ≤ k + 1 from ⟨hb, by omega⟩, and_self, if_true]
    rw [← hk, digitsLsbAux_fuel hb k (v / b) (v / b) (by omega) le_rfl]
    simp

theorem utf8EncodeChar_digitChar {d : Nat} (hd : d < 16) (upper : Bool) :
    String.utf8EncodeChar (if upper then (Nat.digitChar d).toUpper else Nat.digitChar d) =
      [digitByte upper d] := by
  revert d
  cases upper <;> decide

/-- The converters' numeral of `v` is the UTF-8 text of the library's digits of `v`. -/
theorem text_eq_ofString {b : Nat} (hb : 2 ≤ b) (hb16 : b ≤ 16) (upper : Bool) (v : Nat) :
    text b upper v = Bytes.ofString (Align.digits b upper v) := by
  rw [Align.digits, Bytes.ofString_ofList]
  induction v using Nat.strong_induction_on with
  | _ v ih =>
    rw [text_eq_if hb, Nat.toDigits_eq_if (by omega)]
    split
    · simp [utf8EncodeChar_digitChar (show v < 16 by omega)]
    · rw [ih (v / b) (Nat.div_lt_self (by omega) (by omega)), List.map_append, List.flatMap_append]
      have hmod : v % b < 16 := by have := Nat.mod_lt v (show b > 0 by omega); omega
      simp [utf8EncodeChar_digitChar hmod]

/-- The signed numeral of an integer is the UTF-8 text of the library's decimal text of it. -/
theorem signed_eq_ofString (i : Int) : signed i = Bytes.ofString (toString i) := by
  rw [Int.toString_eq_repr, Int.repr_eq_if, signed]
  by_cases h : i < 0
  · have hminus : Bytes.ofString "-" = [45] := by rw [Bytes.ofString_eq_flatMap]; rfl
    rw [if_pos h, if_neg (by omega), Bytes.ofString_append, hminus, Nat.repr,
      text_eq_ofString (by decide) (by decide) false, show (-i).toNat = i.natAbs by omega]
    simp [Align.digits]
  · rw [if_neg h, if_pos (by omega), List.nil_append, Nat.repr,
      text_eq_ofString (by decide) (by decide) false, show i.toNat = i.natAbs by omega]
    simp [Align.digits]

theorem mem_toDigits {b : Nat} (hb : 2 ≤ b) {v : Nat} {c : Char} (hc : c ∈ Nat.toDigits b v) :
    ∃ d < b, c = Nat.digitChar d := by
  induction v using Nat.strong_induction_on with
  | _ v ih =>
    rw [Nat.toDigits_eq_if (by omega)] at hc
    split at hc
    · exact ⟨v, by omega, by simpa using hc⟩
    · rcases List.mem_append.1 hc with hc | hc
      · exact ih (v / b) (Nat.div_lt_self (by omega) (by omega)) hc
      · exact ⟨v % b, Nat.mod_lt v (by omega), by simpa using hc⟩

theorem utf8Size_digits {b : Nat} (hb : 2 ≤ b) (hb16 : b ≤ 16) (upper : Bool) (v : Nat) :
    ∀ c ∈ (Align.digits b upper v).toList, c.utf8Size = 1 := by
  intro c hc
  rw [Align.digits, String.toList_ofList, List.mem_map] at hc
  obtain ⟨c, hc, rfl⟩ := hc
  obtain ⟨d, hd, rfl⟩ := mem_toDigits hb hc
  have : ∀ d < 16, ∀ u : Bool, (if u then (Nat.digitChar d).toUpper else Nat.digitChar d).utf8Size = 1 := by
    decide
  exact this d (by omega) upper

theorem utf8Size_toString (i : Int) : ∀ c ∈ (toString i).toList, c.utf8Size = 1 := by
  have hnat : ∀ n : Nat, ∀ c ∈ n.repr.toList, c.utf8Size = 1 := by
    intro n c hc
    exact utf8Size_digits (b := 10) (by decide) (by decide) false n c (by simpa [Align.digits, Nat.repr] using hc)
  rw [Int.toString_eq_repr, Int.repr_eq_if]
  split
  · exact hnat _
  · intro c hc
    rw [String.toList_append, List.mem_append] at hc
    rcases hc with hc | hc
    · obtain rfl : c = '-' := by simpa using hc
      rfl
    · exact hnat _ c hc

end Numeral

/-! ## Fields of width 0 -/

namespace Field

/-- A field of width 0 is its prefix and its body, whatever its flags. -/
theorem bytes_width_zero (pads : Bool) {d : Directive} (h : d.width = 0) (pre body : Bytes) :
    bytes pads d pre body = pre ++ body := by
  unfold bytes
  simp [h]

theorem writes_width_zero (pads : Bool) {d : Directive} (h : d.width = 0) (pre body : Bytes) :
    writes pads d pre body = writes false d pre body := by
  simp [writes, h]

theorem signedWrites_width_zero (pads : Bool) {d : Directive} (h : d.width = 0) (text : Bytes) :
    signedWrites pads d text = signedWrites false d text := by
  unfold signedWrites
  split <;> exact writes_width_zero pads h _ _

end Field

namespace Template

/-- A directive of width 0 converts the same whether widths are applied or ignored. -/
theorem convert_width_zero (c : FormatConfig) (room : Nat) {d : Directive} (h : d.width = 0)
    (cur : Cursor) (p : WidthPolicy) :
    convert { c with width := p } room d cur = convert { c with width := .ignore } room d cur := by
  unfold convert
  cases d.conversion <;>
    simp only [Field.writes_width_zero _ h, Field.signedWrites_width_zero _ h]

theorem planPieces_width_zero (c : FormatConfig) (room : Nat) (p : WidthPolicy) :
    ∀ (ps : List Piece), (∀ d, Piece.directive d ∈ ps → d.width = 0) → ∀ cur : Cursor,
      planPieces { c with width := p } room ps cur = planPieces { c with width := .ignore } room ps cur := by
  intro ps
  induction ps with
  | nil => intro _ cur; rfl
  | cons piece ps ih =>
    intro hps cur
    have hrest : ∀ d, Piece.directive d ∈ ps → d.width = 0 :=
      fun d hd => hps d (List.mem_cons_of_mem _ hd)
    cases piece with
    | literal b => simp only [planPieces, ih hrest cur]
    | dangling => rfl
    | directive d =>
      simp only [planPieces, convert_width_zero c room (hps d List.mem_cons_self) cur p]
      split
      · rfl
      · rw [ih hrest]

end Template

/-! ## Directives spelled out -/

namespace Directive

/-- The bytes that spell a directive's flags: `-` when left-aligned, then `0` when zero-filled. -/
def flagBytes (left zero : Bool) : Bytes := (if left then [45] else []) ++ (if zero then [48] else [])

/-- A directive spelled as its flags, a digit run and a conversion byte reads back with those
flags and the run's width. The run may open with `0` only after the zero flag, or that `0`
would be read as the flag. -/
theorem parse?_spelled (left zero : Bool) (ds : Bytes) (hds : ∀ b ∈ ds, isDigit b = true)
    (hlead : zero = false → ds.head? ≠ some 48) {c : UInt8} (hc : isDigit c = false)
    (hc45 : c ≠ 45) (rest : Bytes) :
    parse? (flagBytes left zero ++ ds ++ c :: rest) =
      some (⟨Conversion.ofByte c, left, zero, widthOf ds⟩,
        (flagBytes left zero).length + ds.length + 1) := by
  have hc48 : c ≠ 48 := by rintro rfl; simp [isDigit] at hc
  have hrun : (ds ++ c :: rest).takeWhile isDigit = ds := takeWhile_digits_append hds hc rest
  have hdrop : (ds ++ c :: rest).dropWhile isDigit = c :: rest := dropWhile_digits_append hds hc rest
  -- what follows the flags opens with a byte that is no `-`, and no `0` unless the zero flag was
  -- taken
  obtain ⟨b, t, hbt⟩ : ∃ b t, ds ++ c :: rest = b :: t := by cases ds <;> simp
  have hb45 : b ≠ 45 := by
    cases ds with
    | nil => simp at hbt; rw [← hbt.1]; exact hc45
    | cons d ds =>
      simp at hbt
      rintro rfl
      have := hds d (by simp)
      rw [hbt.1] at this
      simp [isDigit] at this
  have hb48 : zero = false → b ≠ 48 := by
    intro hz
    cases ds with
    | nil => simp at hbt; rw [← hbt.1]; exact hc48
    | cons d ds => simp at hbt; rw [← hbt.1]; exact fun h => hlead hz (by simp [h])
  cases left <;> cases zero <;> simp only [flagBytes, if_true, if_false, Bool.false_eq_true,
    List.nil_append, List.cons_append, List.length_cons, List.length_nil] <;>
    simp only [parse?] <;> rw [hbt] <;> rw [hbt] at hrun hdrop
  all_goals (split <;> simp_all)

theorem isDigit_of_mem_decimal {w : Nat} {b : UInt8} (hb : b ∈ Numeral.text 10 false w) :
    isDigit b = true := by
  obtain ⟨d, hd, rfl⟩ := (Numeral.text_isCanonical (b := 10) (by decide) (by decide) false w).digits b hb
  have : ∀ d < 10, isDigit (Numeral.digitByte false d) = true := by decide
  exact this d hd

/-- A directive spelled with its width in decimal reads back with that width, up to 4096. A
width of 0 is spelled `0`, which reads as the zero flag. -/
theorem parse?_decimal (left zero : Bool) {w : Nat} (hw : w ≤ maxWidth) {c : UInt8}
    (hc : isDigit c = false) (hc45 : c ≠ 45) :
    parse? (flagBytes left zero ++ Numeral.text 10 false w ++ [c]) =
      some (⟨Conversion.ofByte c, left, zero || w == 0, w⟩,
        (flagBytes left zero ++ Numeral.text 10 false w ++ [c]).length) := by
  have hcan := Numeral.text_isCanonical (b := 10) (by decide) (by decide) false w
  rcases Nat.eq_zero_or_pos w with rfl | hpos
  · have h0 : Numeral.text 10 false 0 = [48] := by decide
    rw [h0]
    cases zero
    · have := parse?_spelled left true [] (by simp) (by simp) hc hc45 []
      simp only [flagBytes] at this ⊢
      cases left <;> simpa [widthOf] using this
    · have := parse?_spelled left true [48] (by simp [isDigit]) (by simp) hc hc45 []
      simp only [flagBytes] at this ⊢
      cases left <;> simpa [widthOf, maxWidth] using this
  · have hlead : zero = false → (Numeral.text 10 false w).head? ≠ some 48 := by
      intro _ hhead
      have hv := hcan.value
      rw [hcan.no_leading_zero hhead] at hv
      have : Numeral.valueOf 10 [48] = 0 := by decide
      omega
    rw [parse?_spelled left zero _ (fun b hb => isDigit_of_mem_decimal hb) hlead hc hc45 [],
      widthOf_eq_min_valueOf (fun b hb => isDigit_of_mem_decimal hb), hcan.value]
    simp only [List.length_append, List.length_singleton, Option.some.injEq, Prod.mk.injEq,
      Directive.mk.injEq, true_and, and_true]
    constructor
    · cases zero <;> simp; omega
    · omega

end Directive

/-! ## Templates of one directive -/

namespace Reference

theorem splitSign_append (t : Bytes) : (splitSign t).1 ++ (splitSign t).2 = t := by
  unfold splitSign
  split
  · rename_i digits
    rfl
  · rfl

theorem splitSign_of_head? {t : Bytes} (h : t.head? ≠ some 45) : splitSign t = ([], t) := by
  unfold splitSign
  split
  · simp at h
  · rfl

theorem render_nil (c : FormatConfig) (room : Nat) (args : List Arg) (i : Nat) :
    render c room args i [] = ([], none) := by
  rw [render]
  rfl

/-- A template that is a `%` and one directive taking all the bytes after it renders as that
directive alone. -/
theorem render_lone_directive (c : FormatConfig) (room : Nat) (args : List Arg) {r : Bytes}
    {d : Directive} (hp : Directive.parse? r = some (d, r.length)) :
    render c room args 0 (37 :: r) =
      match directive c room args 0 d with
      | .ok (text, _) => (text, none)
      | .error e => ([], some e) := by
  have hd : (37 :: r).dropWhile (· != 37) = 37 :: r := by simp
  have ht : (37 :: r).takeWhile (· != 37) = [] := by simp
  rw [render]
  split
  · rename_i h
    rw [hd] at h
    cases h
  · rename_i b r' h
    rw [hd] at h
    obtain ⟨-, rfl⟩ := List.cons.inj h
    simp only [hp, ht, List.nil_append, List.drop_length]
    cases directive c room args 0 d with
    | error e => rfl
    | ok res => simp [render_nil]

end Reference

/-- A call into a fresh buffer with room for its scratch slice gives the reference rendering of
the template's text, or its first failure. -/
theorem sprintf_eq_render {a : Arena} {c : FormatConfig} (h : c.scratchSize ≤ a.remaining)
    (t : Bytes) (args : List Arg) :
    (sprintf a c t args).2 =
      match (Reference.render c c.scratchSize args 0 (Bytes.beforeNul t)).2 with
      | some e => .error e
      | none => .ok (Reference.render c c.scratchSize args 0 (Bytes.beforeNul t)).1 := by
  obtain ⟨hbytes, hres⟩ := fprintf_unbounded h .empty t args
  unfold sprintf
  simp only [hres, hbytes]
  cases (Reference.render c c.scratchSize args 0 (Bytes.beforeNul t)).2 <;> rfl

/-! ## Fields against the alignment rules -/

namespace Align

theorem ofString_right (w : Nat) (s : String) :
    Bytes.ofString (right w s) = List.replicate (w - s.length) 32 ++ Bytes.ofString s := by
  rw [right, Bytes.ofString_append, Bytes.ofString_replicate _ _ rfl]
  rfl

theorem ofString_left (w : Nat) (s : String) :
    Bytes.ofString (left w s) = Bytes.ofString s ++ List.replicate (w - s.length) 32 := by
  rw [left, Bytes.ofString_append, Bytes.ofString_replicate _ _ rfl]
  rfl

/-- The zeros of a sign-aware fill go between the sign the text opens with, if any, and the
rest. -/
theorem ofString_zeroFill (w : Nat) {s : String} (hs : ∀ c ∈ s.toList, c.utf8Size = 1) :
    Bytes.ofString (zeroFill w s) = (Reference.splitSign (Bytes.ofString s)).1 ++
      List.replicate (w - s.length) 48 ++ (Reference.splitSign (Bytes.ofString s)).2 := by
  have hzeros : (List.replicate (w - s.length) '0').flatMap String.utf8EncodeChar =
      List.replicate (w - s.length) 48 := by
    rw [← Bytes.ofString_ofList, Bytes.ofString_replicate _ _ rfl]
    rfl
  unfold zeroFill
  rw [Bytes.ofString_eq_flatMap s]
  generalize s.toList = l at hs ⊢
  split
  · rename_i ds
    rw [Bytes.ofString_ofList]
    simp [Reference.splitSign, hzeros]
    rfl
  · rename_i hds
    rw [Bytes.ofString_ofList, List.flatMap_append, hzeros]
    -- the text opens with a one-byte character other than `-`, so its bytes do not open with `-`
    cases l with
    | nil => rfl
    | cons c cs =>
      have hc : c.utf8Size = 1 := hs c (by simp)
      have hbyte : c.val.toUInt8 ≠ 45 := by
        intro h
        apply hds cs
        have hlt : c.val ≤ 127 := Char.utf8Size_eq_one_iff.1 hc
        have hval : c.val = 45 := by
          apply UInt32.toNat_inj.1
          have := congrArg UInt8.toNat h
          simp only [UInt32.toNat_toUInt8, UInt8.reduceToNat] at this
          simp only [UInt32.le_iff_toNat_le, UInt32.reduceToNat] at hlt
          simp only [UInt32.reduceToNat]
          omega
        rw [show c = '-' from Char.ext hval]
      rw [List.flatMap_cons, String.utf8EncodeChar_eq_singleton hc, List.singleton_append]
      unfold Reference.splitSign
      split
      · rename_i h
        exact absurd (List.cons.inj h).1 hbyte
      · rfl

end Align

namespace Field

/-- A padded field is as wide as its directive asks, or as its text when that is wider: the
padding never goes past the width. -/
theorem length_bytes (pads : Bool) (d : Directive) (pre body : Bytes) :
    (bytes pads d pre body).length =
      if pads then max d.width (pre.length + body.length) else pre.length + body.length := by
  unfold bytes
  cases pads <;> split_ifs <;> simp <;> omega

section
variable {d : Directive} {s : String} {pre body : Bytes}

/-- A field with neither the left flag nor zero fill in effect is its text right-aligned. -/
theorem bytes_right (hl : d.leftAlign = false) (hz : d.zeroPad = false ∨ d.width = 0)
    (hs : ∀ c ∈ s.toList, c.utf8Size = 1) (h : pre ++ body = Bytes.ofString s) :
    bytes true d pre body = Bytes.ofString (Align.right d.width s) := by
  rcases hz with hz | hw
  · have hlen : pre.length + body.length = s.length := by
      rw [← List.length_append, h, Bytes.length_ofString hs]
    simp [bytes, hl, hz, Align.ofString_right, hlen, ← h]
  · rw [bytes_width_zero true hw, h, hw, Align.ofString_right]
    simp

theorem bytes_left (hl : d.leftAlign = true) (hs : ∀ c ∈ s.toList, c.utf8Size = 1)
    (h : pre ++ body = Bytes.ofString s) :
    bytes true d pre body = Bytes.ofString (Align.left d.width s) := by
  have hlen : pre.length + body.length = s.length := by
    rw [← List.length_append, h, Bytes.length_ofString hs]
  simp [bytes, hl, Align.ofString_left, hlen, ← h]

/-- A zero-filled numeric field, not left-aligned, is its text zero-filled with the sign in
front. -/
theorem bytes_zeroFill (hl : d.leftAlign = false) (hz : d.zeroPad = true)
    (hn : d.conversion.isNumeric = true) (hs : ∀ c ∈ s.toList, c.utf8Size = 1)
    (h : Reference.splitSign (Bytes.ofString s) = (pre, body)) :
    bytes true d pre body = Bytes.ofString (Align.zeroFill d.width s) := by
  have hlen : pre.length + body.length = s.length := by
    have := Reference.splitSign_append (Bytes.ofString s)
    rw [h] at this
    rw [← List.length_append, this, Bytes.length_ofString hs]
  simp [bytes, hl, hz, hn, Align.ofString_zeroFill _ hs, hlen, h]

end
end Field

/-! ## One directive spelled out, formatted -/

namespace Reference

variable {c : FormatConfig} {room : Nat}

theorem directive_signed (h : FormatConfig.minScratch ≤ room) (n : Int32) (left zero : Bool)
    (w : Nat) :
    directive c room [.int n] 0 ⟨.signed, left, zero, w⟩ =
      .ok (Field.bytes c.width.pads ⟨.signed, left, zero, w⟩ (splitSign (Numeral.signed n.toInt)).1
        (splitSign (Numeral.signed n.toInt)).2, 1) := by
  simp [directive, Conversion.expects, converted, Convert.signed_of_minScratch h, Except.map]

theorem directive_hex (h : FormatConfig.minScratch ≤ room) (u : UInt32) (upper left zero : Bool)
    (w : Nat) :
    directive c room [.uint u] 0 ⟨.hex upper, left, zero, w⟩ =
      .ok (Field.bytes c.width.pads ⟨.hex upper, left, zero, w⟩ [] (Numeral.text 16 upper u.toNat),
        1) := by
  simp [directive, Conversion.expects, converted, Convert.hex_of_minScratch h, Except.map]

theorem directive_octal (h : FormatConfig.minScratch ≤ room) (u : UInt32) (left zero : Bool)
    (w : Nat) :
    directive c room [.uint u] 0 ⟨.octal, left, zero, w⟩ =
      .ok (Field.bytes c.width.pads ⟨.octal, left, zero, w⟩ [] (Numeral.text 8 false u.toNat), 1) := by
  simp [directive, Conversion.expects, converted, Convert.octal_of_minScratch h, Except.map]

end Reference

theorem Bytes.beforeNul_of_ne_zero {t : Bytes} (h : ∀ b ∈ t, b ≠ 0) : Bytes.beforeNul t = t :=
  List.takeWhile_eq_self_iff.2 fun b hb => by simpa using h b hb

/-- A template that is a `%`, flags, a width written in decimal and a conversion byte formats as
that one directive's text. -/
theorem sprintf_spelled {a : Arena} {c : FormatConfig} (ha : c.scratchSize ≤ a.remaining)
    {pre post : String} {l z : Bool} {b : UInt8}
    (hpre : Bytes.ofString pre = 37 :: Directive.flagBytes l z)
    (hpost : Bytes.ofString post = [b]) (hb : Directive.isDigit b = false) (hb45 : b ≠ 45)
    (hb0 : b ≠ 0) {w : Nat} (hw : w ≤ Directive.maxWidth) {args : List Arg} {text : Bytes} {j : Nat}
    (hd : Reference.directive c c.scratchSize args 0
      ⟨Conversion.ofByte b, l, z || w == 0, w⟩ = .ok (text, j)) :
    (sprintf a c (Bytes.ofString (pre ++ toString w ++ post)) args).2 = .ok text := by
  have hw' : Bytes.ofString (toString w) = Numeral.text 10 false w := by
    rw [Numeral.text_eq_ofString (by decide) (by decide), Nat.toString_eq_ofList_toDigits]
    simp [Align.digits]
  have ht : Bytes.ofString (pre ++ toString w ++ post) =
      37 :: (Directive.flagBytes l z ++ Numeral.text 10 false w ++ [b]) := by
    rw [Bytes.ofString_append, Bytes.ofString_append, hpre, hw', hpost]
    simp
  -- no byte of the template is a NUL: flags, digits and the conversion byte
  have hnul : ∀ x ∈ 37 :: (Directive.flagBytes l z ++ Numeral.text 10 false w ++ [b]),
      x ≠ 0 := by
    intro x hx
    simp only [List.mem_cons, List.mem_append, List.not_mem_nil, or_false] at hx
    rcases hx with rfl | (hx | hx) | rfl
    · decide
    · cases l <;> cases z <;> simp [Directive.flagBytes] at hx <;> rcases hx with rfl | rfl <;>
        decide
    · rintro rfl
      have := Directive.isDigit_of_mem_decimal hx
      simp [Directive.isDigit] at this
    · exact hb0
  rw [sprintf_eq_render ha, ht, Bytes.beforeNul_of_ne_zero hnul,
    Reference.render_lone_directive _ _ _ (Directive.parse?_decimal l z hw hb hb45), hd]

section Aligned

variable {a : Arena} {c : FormatConfig} (hc : c.width = .apply)
  (hmin : FormatConfig.minScratch ≤ c.scratchSize) (ha : c.scratchSize ≤ a.remaining)
include hc hmin ha

/-- `%wd`, `%-wd` and `%0wd` lay a 32-bit integer out right-aligned, left-aligned and zero-filled
after its sign, in a field of `w` bytes. -/
theorem sprintf_decimal_aligned (n : Int32) {w : Nat} (hw : w ≤ Directive.maxWidth) :
    (sprintf a c (Bytes.ofString ("%" ++ toString w ++ "d")) [.int n]).2 =
        .ok (Bytes.ofString (Align.right w (toString n.toInt))) ∧
      (sprintf a c (Bytes.ofString ("%-" ++ toString w ++ "d")) [.int n]).2 =
        .ok (Bytes.ofString (Align.left w (toString n.toInt))) ∧
      (sprintf a c (Bytes.ofString ("%0" ++ toString w ++ "d")) [.int n]).2 =
        .ok (Bytes.ofString (Align.zeroFill w (toString n.toInt))) := by
  have hd : Conversion.ofByte 100 = .signed := rfl
  have hpads : c.width.pads = true := by rw [hc]; rfl
  have hs := Numeral.utf8Size_toString n.toInt
  have htext : (Reference.splitSign (Numeral.signed n.toInt)).1 ++
      (Reference.splitSign (Numeral.signed n.toInt)).2 = Bytes.ofString (toString n.toInt) := by
    rw [Reference.splitSign_append, Numeral.signed_eq_ofString]
  have hlit : Bytes.ofString "d" = [100] := by rw [Bytes.ofString_eq_flatMap]; rfl
  refine ⟨sprintf_spelled ha (j := 1) (l := false) (z := false) (by rw [Bytes.ofString_eq_flatMap]; rfl)
      hlit (by decide) (by decide) (by decide) hw ?_,
    sprintf_spelled ha (j := 1) (l := true) (z := false) (by rw [Bytes.ofString_eq_flatMap]; rfl)
      hlit (by decide) (by decide) (by decide) hw ?_,
    sprintf_spelled ha (j := 1) (l := false) (z := true) (by rw [Bytes.ofString_eq_flatMap]; rfl)
      hlit (by decide) (by decide) (by decide) hw ?_⟩
  · rw [hd, Reference.directive_signed hmin, hpads,
      Field.bytes_right rfl (by cases w <;> simp) hs htext]
  · rw [hd, Reference.directive_signed hmin, hpads, Field.bytes_left rfl hs htext]
  · rw [hd, Reference.directive_signed hmin, hpads,
      Field.bytes_zeroFill rfl (by simp) rfl hs (by rw [← Numeral.signed_eq_ofString])]

/-- `%0wx`, `%wX` and `%-wo` lay a 32-bit word out in lower-case hex zero-filled, in upper-case
hex right-aligned and in octal left-aligned, in a field of `w` bytes. -/
theorem sprintf_radix_aligned (u : UInt32) {w : Nat} (hw : w ≤ Directive.maxWidth) :
    (sprintf a c (Bytes.ofString ("%0" ++ toString w ++ "x")) [.uint u]).2 =
        .ok (Bytes.ofString (Align.zeroFill w (Align.digits 16 false u.toNat))) ∧
      (sprintf a c (Bytes.ofString ("%" ++ toString w ++ "X")) [.uint u]).2 =
        .ok (Bytes.ofString (Align.right w (Align.digits 16 true u.toNat))) ∧
      (sprintf a c (Bytes.ofString ("%-" ++ toString w ++ "o")) [.uint u]).2 =
        .ok (Bytes.ofString (Align.left w (Align.digits 8 false u.toNat))) := by
  have hpads : c.width.pads = true := by rw [hc]; rfl
  -- a numeral opens with a digit, never with a sign
  have hsplit : ∀ {b : Nat}, 2 ≤ b → b ≤ 16 → ∀ upper v,
      Reference.splitSign (Numeral.text b upper v) = ([], Numeral.text b upper v) := by
    intro b hb hb16 upper v
    apply Reference.splitSign_of_head?
    intro hhead
    obtain ⟨d, hd, hdig⟩ := (Numeral.text_isCanonical hb hb16 upper v).digits 45
      (List.mem_of_head? hhead)
    have : ∀ d < 16, Numeral.digitByte upper d ≠ 45 := by cases upper <;> decide
    exact this d (by omega) hdig.symm
  refine ⟨sprintf_spelled ha (j := 1) (l := false) (z := true) (b := 120)
      (by rw [Bytes.ofString_eq_flatMap]; rfl) (by rw [Bytes.ofString_eq_flatMap]; rfl) (by decide)
      (by decide) (by decide) hw ?_,
    sprintf_spelled ha (j := 1) (l := false) (z := false) (b := 88)
      (by rw [Bytes.ofString_eq_flatMap]; rfl) (by rw [Bytes.ofString_eq_flatMap]; rfl) (by decide)
      (by decide) (by decide) hw ?_,
    sprintf_spelled ha (j := 1) (l := true) (z := false) (b := 111)
      (by rw [Bytes.ofString_eq_flatMap]; rfl) (by rw [Bytes.ofString_eq_flatMap]; rfl) (by decide)
      (by decide) (by decide) hw ?_⟩
  · rw [show Conversion.ofByte 120 = .hex false from rfl, Reference.directive_hex hmin, hpads,
      Field.bytes_zeroFill rfl (by simp) rfl (Numeral.utf8Size_digits (b := 16) (by decide) (by decide) _ _)
        (by rw [← Numeral.text_eq_ofString (by decide) (by decide), hsplit (by decide) (by decide)])]
  · rw [show Conversion.ofByte 88 = .hex true from rfl, Reference.directive_hex hmin, hpads,
      Field.bytes_right rfl (by cases w <;> simp)
        (Numeral.utf8Size_digits (b := 16) (by decide) (by decide) _ _)
        (by rw [List.nil_append, Numeral.text_eq_ofString (by decide) (by decide)])]
  · rw [show Conversion.ofByte 111 = .octal from rfl, Reference.directive_octal hmin, hpads,
      Field.bytes_left rfl (Numeral.utf8Size_digits (b := 8) (by decide) (by decide) _ _)
        (by rw [List.nil_append, Numeral.text_eq_ofString (by decide) (by decide)])]

end Aligned

/-- On a template whose directives all have width 0, a formatting call does the same whether
widths are applied or ignored. -/
theorem fprintf_width_zero {t : Bytes} (h : ∀ d, Piece.directive d ∈ Template.pieces t → d.width = 0)
    (a : Arena) (c : FormatConfig) (s : Sink) (dl : Delivery) (args : List Arg) (p : WidthPolicy) :
    fprintf a { c with width := p } s dl t args = fprintf a { c with width := .ignore } s dl t args := by
  unfold fprintf Template.plan
  rw [Template.planPieces_width_zero c _ p _ h]

/-! ## The layout of every field -/

theorem Conversion.isNumeric_iff (conv : Conversion) :
    conv.isNumeric = true ↔
      conv ∈ [.signed, .unsigned, .hex false, .hex true, .octal, .float, .pointer] := by
  cases conv with
  | hex upper => cases upper <;> simp [Conversion.isNumeric]
  | _ => simp [Conversion.isNumeric]

/-- How a field is laid out, for every directive and every prefix and body: with widths applied,
a left-aligned field pads with spaces after, a zero-filled numeric one (`d u x X o f p`) with
zeros between prefix and body, any other with spaces in front, each up to the width; with widths
ignored it is the prefix and the body. So a field is as long as its width or its text, whichever
is longer, or exactly its text, and a parsed directive never pads by more than 4096 bytes. On
every 32-bit integer `n` and width `w` up to 4096, `%wd`, `%-wd` and `%0wd` give the decimal
text of `n` right-aligned, left-aligned and zero-filled after its sign, and on every 32-bit word
`%0wx`, `%wX` and `%-wo` give its lower-case hex zero-filled, its upper-case hex right-aligned and
its octal left-aligned. A template whose directives all have width 0 formats the same whether
widths are applied or ignored. -/
theorem field_layout_matches_alignment :
    (∀ (pads : Bool) (d : Directive) (pre body : Bytes),
      (Field.writes pads d pre body).flatMap Write.toBytes =
        if pads then
          (if d.leftAlign then pre ++ body ++ List.replicate (d.width - (pre.length + body.length)) 32
          else if d.zeroPad ∧ d.conversion.isNumeric then
            pre ++ List.replicate (d.width - (pre.length + body.length)) 48 ++ body
          else List.replicate (d.width - (pre.length + body.length)) 32 ++ pre ++ body)
        else pre ++ body) ∧
    (∀ conv : Conversion, conv.isNumeric = true ↔
      conv ∈ [.signed, .unsigned, .hex false, .hex true, .octal, .float, .pointer]) ∧
    (∀ (pads : Bool) (d : Directive) (pre body : Bytes),
      ((Field.writes pads d pre body).flatMap Write.toBytes).length =
        if pads then max d.width (pre.length + body.length) else pre.length + body.length) ∧
    (∀ (r : Bytes) (d : Directive) (m : Nat), Directive.parse? r = some (d, m) →
      ∀ pre body : Bytes, d.width - (pre.length + body.length) ≤ Directive.maxWidth) ∧
    (∀ (a : Arena) (c : FormatConfig), c.width = .apply →
      FormatConfig.minScratch ≤ c.scratchSize → c.scratchSize ≤ a.remaining →
      ∀ (w : Nat), w ≤ Directive.maxWidth →
        (∀ n : Int32,
          (sprintf a c (Bytes.ofString ("%" ++ toString w ++ "d")) [.int n]).2 =
            .ok (Bytes.ofString (Align.right w (toString n.toInt))) ∧
          (sprintf a c (Bytes.ofString ("%-" ++ toString w ++ "d")) [.int n]).2 =
            .ok (Bytes.ofString (Align.left w (toString n.toInt))) ∧
          (sprintf a c (Bytes.ofString ("%0" ++ toString w ++ "d")) [.int n]).2 =
            .ok (Bytes.ofString (Align.zeroFill w (toString n.toInt)))) ∧
        (∀ u : UInt32,
          (sprintf a c (Bytes.ofString ("%0" ++ toString w ++ "x")) [.uint u]).2 =
            .ok (Bytes.ofString (Align.zeroFill w (Align.digits 16 false u.toNat))) ∧
          (sprintf a c (Bytes.ofString ("%" ++ toString w ++ "X")) [.uint u]).2 =
            .ok (Bytes.ofString (Align.right w (Align.digits 16 true u.toNat))) ∧
          (sprintf a c (Bytes.ofString ("%-" ++ toString w ++ "o")) [.uint u]).2 =
            .ok (Bytes.ofString (Align.left w (Align.digits 8 false u.toNat))))) ∧
    (∀ t : Bytes, (∀ d, Piece.directive d ∈ Template.pieces t → d.width = 0) →
      ∀ (a : Arena) (c : FormatConfig) (s : Sink) (dl : Delivery) (args : List Arg),
        fprintf a { c with width := .apply } s dl t args =
          fprintf a { c with width := .ignore } s dl t args) := by
  refine ⟨fun pads d pre body => ?_, Conversion.isNumeric_iff, fun pads d pre body => ?_,
    fun r d m h pre body => ?_,
    fun a c hc hmin ha w hw => ⟨fun n => sprintf_decimal_aligned hc hmin ha n hw,
      fun u => sprintf_radix_aligned hc hmin ha u hw⟩,
    fun t h a c s dl args => fprintf_width_zero h a c s dl args .apply⟩
  · rw [Field.flatMap_writes]
    cases pads <;> simp [Field.bytes]
  · rw [Field.flatMap_writes, Field.length_bytes]
  · have := (Directive.parse?_consumed h).2.2
    omega

/-- `%5d` on `-42`, with the default configuration and arena: `  -42`, and `%05d` gives `-0042`. -/
theorem field_layout_of_minus_forty_two :
    ({} : FormatConfig).width = .apply ∧ FormatConfig.minScratch ≤ ({} : FormatConfig).scratchSize ∧
      ({} : FormatConfig).scratchSize ≤ (Arena.new 1024).remaining ∧ 5 ≤ Directive.maxWidth ∧
      (sprintf (Arena.new 1024) {} (Bytes.ofString ("%" ++ toString 5 ++ "d")) [.int (-42)]).2 =
        .ok (Bytes.ofString (Align.right 5 (toString (-42 : Int32).toInt))) ∧
      (sprintf (Arena.new 1024) {} (Bytes.ofString ("%0" ++ toString 5 ++ "d")) [.int (-42)]).2 =
        .ok (Bytes.ofString (Align.zeroFill 5 (toString (-42 : Int32).toInt))) :=
  have hc : ({} : FormatConfig).width = .apply := rfl
  have hmin : FormatConfig.minScratch ≤ ({} : FormatConfig).scratchSize := by decide
  have ha : ({} : FormatConfig).scratchSize ≤ (Arena.new 1024).remaining := by decide
  have hw : 5 ≤ Directive.maxWidth := by decide
  have h := (field_layout_matches_alignment.2.2.2.2.1 (Arena.new 1024) {} hc hmin ha 5 hw).1 (-42)
  ⟨hc, hmin, ha, hw, h.1, h.2.2⟩

end FormatEngine

