import Mathlib
import FormatEngine.Json.Reader
import FormatEngine.Proofs.CompactText
/-!
# Reading the compact form back

The reader is a state monad over the characters still to read. `Steps r s a s'` says that `r`,
started at `s`, gives `a` and stops at `s'`; a reader built with `>>=` is then followed one
part at a time (`Steps.bind`), each part by the lemma for its own text.

The texts are those of `Json.chars`: a quoted string, a 64-bit integer, and a value with its
items and members. What the reader gives back is the value with every object made a map
(`normalize`: keys sorted, the last of equal keys kept), so it is the value itself when its
objects already are maps.

Main statement: `parse_compact`, the reader gives back every value whose numbers are 64-bit
integers and whose nesting stays within the reader's limit from its compact form.
-/
namespace FormatEngine.Json

/-! ## Following a reader -/

/-- A reader started at `s` gives `a` and stops at `s'`. -/
def Steps {α : Type} (r : Reader α) (s : Input) (a : α) (s' : Input) : Prop :=
  r.run.run s = (.ok a, s')

theorem run_bind_of_steps {α β : Type} {x : Reader α} {f : α → Reader β} {s s' : Input} {a : α}
    (hx : Steps x s a s') : (x >>= f).run.run s = (f a).run.run s' := by
  simp only [ExceptT.run_bind, StateT.run_bind]
  rw [show x.run.run s = (.ok a, s') from hx]
  rfl

theorem Steps.bind {α β : Type} {x : Reader α} {f : α → Reader β} {s s₁ s₂ : Input} {a : α} {b : β}
    (hx : Steps x s a s₁) (hf : Steps (f a) s₁ b s₂) : Steps (x >>= f) s b s₂ := by
  unfold Steps
  rw [run_bind_of_steps hx]
  exact hf

theorem steps_pure {α : Type} (a : α) (s : Input) : Steps (pure a : Reader α) s a s := rfl

theorem steps_eat (c : Char) (r : List Char) (i d b : Nat) :
    Steps eat ⟨c :: r, i, d, b⟩ () ⟨r, i + c.utf8Size, d, b⟩ := rfl

theorem steps_get (s : Input) : Steps get s s s := rfl

theorem steps_peek (s : Input) : Steps peek s s.rest.head? s := rfl

theorem steps_next (c : Char) (r : List Char) (i d b : Nat) :
    Steps next ⟨c :: r, i, d, b⟩ (some c) ⟨r, i + c.utf8Size, d, b⟩ := rfl

theorem dropBlanks_of_head {r : List Char} (hr : ∀ c ∈ r.head?, isBlank c = false) (i : Nat) :
    dropBlanks r i = (r, i) := by
  cases r with
  | nil => rfl
  | cons c r => simp [dropBlanks, hr c rfl]

theorem steps_skipBlanks_eq (s : Input) :
    Steps skipBlanks s (dropBlanks s.rest s.index).1.head?
      ⟨(dropBlanks s.rest s.index).1, (dropBlanks s.rest s.index).2, s.depth, s.bound⟩ := rfl

theorem steps_skipBlanks {r : List Char} (hr : ∀ c ∈ r.head?, isBlank c = false) (i d b : Nat) :
    Steps skipBlanks ⟨r, i, d, b⟩ r.head? ⟨r, i, d, b⟩ := by
  have h := steps_skipBlanks_eq ⟨r, i, d, b⟩
  simp only [dropBlanks_of_head hr] at h
  exact h

theorem steps_ident (cs r : List Char) (i d b : Nat) :
    Steps (ident cs) ⟨cs ++ r, i, d, b⟩ () ⟨r, i + String.utf8Len cs, d, b⟩ := by
  induction cs generalizing i with
  | nil => exact steps_pure () _
  | cons c cs ih =>
    unfold ident
    refine Steps.bind (steps_next c (cs ++ r) i d b) ?_
    simp only [String.utf8Len_cons]
    have := ih (i + c.utf8Size)
    rwa [Nat.add_assoc, Nat.add_comm c.utf8Size] at this

theorem steps_enter {d : Nat} (h : 1 < d) (r : List Char) (i b : Nat) :
    Steps enter ⟨r, i, d, b⟩ () ⟨r, i, d - 1, b⟩ := by
  obtain ⟨k, rfl⟩ : ∃ k, d = k + 2 := ⟨d - 2, by omega⟩
  rfl

theorem steps_leave (r : List Char) (i d b : Nat) :
    Steps leave ⟨r, i, d, b⟩ () ⟨r, i, d + 1, b⟩ := rfl

theorem hexValue_hexDigit {n : Nat} (hn : n < 16) :
    Bytes.hexValue? (Bytes.hexDigit false n) = some n := by
  revert n
  decide

theorem utf8Size_hexDigit {n : Nat} (hn : n < 16) : (Bytes.hexDigit false n).utf8Size = 1 := by
  revert n
  decide

theorem hex4_byte {n : Nat} (hn : n < 256) :
    hex4 ['0', '0', Bytes.hexDigit false (n / 16), Bytes.hexDigit false (n % 16)] = some n := by
  simp only [hex4, List.foldl_cons, List.foldl_nil, hexValue_hexDigit (show n / 16 < 16 by omega),
    hexValue_hexDigit (show n % 16 < 16 by omega)]
  simp [Bytes.hexValue?]
  omega

theorem steps_hexEscape {n : Nat} (hn : n < 256) (rest : List Char) (i d b : Nat) :
    Steps hexEscape
      ⟨'0' :: '0' :: Bytes.hexDigit false (n / 16) :: Bytes.hexDigit false (n % 16) :: rest, i, d, b⟩
      n ⟨rest, i + 4, d, b⟩ := by
  have h1 := utf8Size_hexDigit (show n / 16 < 16 by omega)
  have h2 := utf8Size_hexDigit (show n % 16 < 16 by omega)
  unfold Steps hexEscape
  rw [run_bind_of_steps (steps_get _)]
  have h0 : '0'.utf8Size = 1 := rfl
  simp only [List.take, List.foldl, h0, h1, h2, List.drop, hex4_byte hn]
  rw [if_neg (by decide)]
  rfl

theorem steps_unicodeEscape {n : Nat} (hn : n < 256) (rest : List Char) (i d b : Nat) :
    Steps (unicodeEscape true)
      ⟨'0' :: '0' :: Bytes.hexDigit false (n / 16) :: Bytes.hexDigit false (n % 16) :: rest, i, d, b⟩
      (some (Char.ofNat n)) ⟨rest, i + 4, d, b⟩ := by
  unfold unicodeEscape
  refine Steps.bind (steps_hexEscape hn rest i d b) ?_
  simp only [show ¬(0xDC00 ≤ n ∧ n ≤ 0xDFFF) by omega, show n < 0xD800 ∨ 0xDBFF < n by omega,
    if_false, if_true]
  exact steps_pure _ _

/-- One character of a string body, read from its escaped form. -/
theorem run_stringBody_escape (c : Char) (fuel : Nat) (acc : String) (rest : List Char)
    (i d b : Nat) :
    (stringBody true (fuel + 1) acc).run.run ⟨escapeChars c ++ rest, i, d, b⟩ =
      (stringBody true fuel (acc.push c)).run.run
        ⟨rest, i + String.utf8Len (escapeChars c), d, b⟩ := by
  unfold escapeChars
  split
  case' h_6 hq hb hn hr ht =>
    split_ifs with h8 h12 h32
    -- a character written as itself is read back in one step
    rotate_right
    · simp only [List.cons_append, List.nil_append]
      rw [stringBody, run_bind_of_steps (steps_next _ _ i d b)]
      split
      · rename_i h; cases h
      · rename_i h; cases h; exact absurd rfl hq
      · rename_i h; cases h; exact absurd rfl hb
      · rename_i c' _ _ h
        cases h
        rw [if_neg h32]
        simp only [String.utf8Len_cons, String.utf8Len_nil, Nat.zero_add]
  -- every other character is written as a backslash and a letter, and `u` takes four digits more
  all_goals
    simp only [List.cons_append, List.nil_append]
    rw [stringBody, run_bind_of_steps (steps_next _ _ i d b)]
    simp only []
    rw [run_bind_of_steps (steps_next _ _ _ d b)]
    simp only []
  case h_1 | h_2 | h_3 | h_4 | h_5 => rfl
  · rw [show Char.ofNat 8 = c by rw [← h8, Char.ofNat_toNat]]
    rfl
  · rw [show Char.ofNat 12 = c by rw [← h12, Char.ofNat_toNat]]
    rfl
  · rw [run_bind_of_steps (steps_unicodeEscape (show c.toNat < 256 by omega) _ _ d b)]
    simp only [Char.ofNat_toNat]
    have h1 := utf8Size_hexDigit (show c.toNat / 16 < 16 by omega)
    have h2 := utf8Size_hexDigit (show c.toNat % 16 < 16 by omega)
    simp only [String.utf8Len_cons, String.utf8Len_nil, h1, h2]
    rfl

theorem length_le_length_flatMap_escapeChars (cs : List Char) :
    cs.length ≤ (cs.flatMap escapeChars).length := by
  induction cs with
  | nil => simp
  | cons c cs ih =>
    have : 1 ≤ (escapeChars c).length := by
      unfold escapeChars
      split <;> (try split_ifs) <;> simp
    simp only [List.flatMap_cons, List.length_append, List.length_cons]
    omega

theorem utf8Size_quote : '"'.utf8Size = 1 := rfl

/-- A string body read up to its closing quote, one character of the text per round. -/
theorem steps_stringBody (rest : List Char) (d b : Nat) :
    ∀ (cs : List Char) (fuel i : Nat) (acc : String), cs.length < fuel →
      Steps (stringBody true fuel acc) ⟨cs.flatMap escapeChars ++ '"' :: rest, i, d, b⟩
        (acc ++ String.ofList cs) ⟨rest, i + String.utf8Len (cs.flatMap escapeChars) + 1, d, b⟩
  | [], fuel + 1, i, acc, _ => by
    simp only [List.flatMap_nil, List.nil_append]
    unfold Steps
    rw [stringBody, run_bind_of_steps (steps_next _ _ i d b)]
    simp [utf8Size_quote]
    rfl
  | c :: cs, fuel + 1, i, acc, h => by
    have ih := steps_stringBody rest d b cs fuel (i + String.utf8Len (escapeChars c)) (acc.push c)
      (by simp at h; omega)
    have hacc : acc.push c ++ String.ofList cs = acc ++ String.ofList (c :: cs) := by
      apply String.ext
      simp
    unfold Steps at ih ⊢
    rw [List.flatMap_cons, List.append_assoc, run_stringBody_escape, ih, hacc,
      String.utf8Len_append, Nat.add_assoc i]

theorem steps_readString (s : String) (rest : List Char) (i d b : Nat)
    (hb : (quotedChars s).length ≤ b) :
    Steps readString ⟨quotedChars s ++ rest, i, d, b⟩ s
      ⟨rest, i + String.utf8Len (quotedChars s), d, b⟩ := by
  have hlen := length_le_length_flatMap_escapeChars s.toList
  have hq : (quotedChars s).length = (s.toList.flatMap escapeChars).length + 2 := by
    simp [quotedChars]
  have h := steps_stringBody rest d b s.toList b (i + 1) "" (by omega)
  simp only [String.ofList_toList, String.empty_append] at h
  unfold readString
  simp only [quotedChars, List.cons_append, List.append_assoc, List.nil_append]
  refine Steps.bind (steps_eat '"' _ i d b) ?_
  refine Steps.bind (steps_get _) ?_
  rw [utf8Size_quote]
  convert h using 2
  · rfl
  · simp [String.utf8Len_append, utf8Size_quote]
    omega

/-! ## Numbers -/

/-- What may follow a value in a compact text: its end, a comma, or a closing bracket or
brace. -/
def Ends (r : List Char) : Prop := ∀ c ∈ r.head?, c = ',' ∨ c = ']' ∨ c = '}'

theorem overflows_eq_false {v d max : Nat} (hd : d < 10) (h : v * 10 + d ≤ max) :
    overflows v d max = false := by
  simp only [overflows, Bool.and_eq_false_iff, decide_eq_false_iff_not, Bool.or_eq_false_iff,
    not_le, not_lt]
  omega

theorem steps_numberTail {r : List Char} (hr : Ends r) {positive : Bool} {v : Nat}
    (hv : positive = false → 0 < v ∧ v ≤ 2 ^ 63) (fuel i d b : Nat) :
    Steps (numberTail fuel positive v) ⟨r, i, d, b⟩
      (if positive then .natural v else .negative (-(v : Int))) ⟨r, i, d, b⟩ := by
  unfold numberTail
  refine Steps.bind (steps_peek _) ?_
  -- after a value comes a comma, a closing bracket or brace, or the end: no fraction, no exponent
  have hend : Steps (if positive = true then pure (JsonNumber.natural v)
      else if v = 0 then pure (JsonNumber.float (Binary64.zero true))
      else if v ≤ Nat.pow 2 63 then pure (JsonNumber.negative (-(v : Int)))
      else pure (JsonNumber.float (Binary64.ofNat v).neg) : Reader JsonNumber) ⟨r, i, d, b⟩
      (if positive then .natural v else .negative (-(v : Int))) ⟨r, i, d, b⟩ := by
    cases positive
    · obtain ⟨h0, hle⟩ := hv rfl
      simp only [Bool.false_eq_true, if_false, Nat.pos_iff_ne_zero.1 h0,
        show v ≤ Nat.pow 2 63 from hle, if_true]
      exact steps_pure _ _
    · exact steps_pure _ _
  cases r with
  | nil => exact hend
  | cons c r => rcases hr c rfl with rfl | rfl | rfl <;> exact hend

theorem le_ofDigitChars (ds : List Char) (v : Nat) : v ≤ Nat.ofDigitChars 10 ds v := by
  induction ds generalizing v with
  | nil => simp [Nat.ofDigitChars]
  | cons c ds ih =>
    have := ih (10 * v + (c.toNat - '0'.toNat))
    simp only [Nat.ofDigitChars, List.foldl_cons] at this ⊢
    omega

/-- The digit loop of an integer: each digit read multiplies the value so far by ten and adds
itself, and the value never passes `2^64 - 1`. -/
theorem steps_digits {r : List Char} (hr : Ends r) (positive : Bool) (fuel d b : Nat) :
    ∀ (ds : List Char) (k v i : Nat), (∀ c ∈ ds, c.isDigit) → ds.length ≤ k →
      Nat.ofDigitChars 10 ds v ≤ wordMax →
      (positive = false → 0 < Nat.ofDigitChars 10 ds v ∧ Nat.ofDigitChars 10 ds v ≤ 2 ^ 63) →
      Steps (readNumber.digits fuel positive k v) ⟨ds ++ r, i, d, b⟩
        (if positive then .natural (Nat.ofDigitChars 10 ds v)
          else .negative (-(Nat.ofDigitChars 10 ds v : Int)))
        ⟨r, i + String.utf8Len ds, d, b⟩
  | [], 0, v, i, _, _, _, hv => by
    rw [readNumber.digits]
    exact steps_numberTail hr hv 0 i d b
  | [], k + 1, v, i, _, _, _, hv => by
    rw [readNumber.digits]
    refine Steps.bind (steps_peek _) ?_
    have hnum := steps_numberTail hr hv fuel i d b
    cases r with
    | nil => exact hnum
    | cons c r => rcases hr c rfl with rfl | rfl | rfl <;> exact hnum
  | c :: ds, k + 1, v, i, hdig, hlen, hmax, hv => by
    have hc : c.isDigit := hdig c (by simp)
    have hd : c.toNat - 48 < 10 := by
      have := Char.isDigit_iff_toNat.1 hc
      simp only [show '0'.toNat = 48 from rfl, show '9'.toNat = 57 from rfl] at this
      omega
    have hfold :
        Nat.ofDigitChars 10 (c :: ds) v = Nat.ofDigitChars 10 ds (v * 10 + (c.toNat - 48)) := by
      simp only [Nat.ofDigitChars, List.foldl_cons, show '0'.toNat = 48 from rfl, Nat.mul_comm 10 v]
    have hgrow := le_ofDigitChars ds (v * 10 + (c.toNat - 48))
    have ih := steps_digits hr positive fuel d b ds k (v * 10 + (c.toNat - 48)) (i + c.utf8Size)
      (fun c' hc' => hdig c' (by simp [hc'])) (by simp at hlen; omega) (by omega)
      (by rw [← hfold]; exact hv)
    rw [readNumber.digits]
    refine Steps.bind (steps_peek _) ?_
    simp only [List.cons_append, List.head?_cons, if_pos hc]
    rw [overflows_eq_false hd (by omega)]
    simp only [Bool.false_eq_true, if_false]
    refine Steps.bind (steps_eat _ _ i d b) ?_
    rw [hfold, String.utf8Len_cons, Nat.add_comm (String.utf8Len ds), ← Nat.add_assoc]
    exact ih

theorem digitChar_ne_zero {m : Nat} (hm : m < 10) (h0 : 0 < m) : Nat.digitChar m ≠ '0' := by
  revert m
  decide

theorem toDigits_head {n : Nat} (hn : 0 < n) : ∃ c ds, Nat.toDigits 10 n = c :: ds ∧ c ≠ '0' := by
  induction n using Nat.strong_induction_on with
  | _ n ih =>
    rw [Nat.toDigits_eq_if (by decide)]
    split_ifs with h
    · exact ⟨_, [], rfl, digitChar_ne_zero h hn⟩
    · obtain ⟨c, ds, hcd, hc⟩ := ih (n / 10) (by omega) (by omega)
      exact ⟨c, ds ++ [(n % 10).digitChar], by rw [hcd]; rfl, hc⟩

theorem steps_readNumber {r : List Char} (hr : Ends r) (positive : Bool) (n : Nat)
    (hn : n ≤ wordMax) (hv : positive = false → 0 < n ∧ n ≤ 2 ^ 63) (fuel : Nat)
    (hfuel : (Nat.toDigits 10 n).length ≤ fuel + 1) (i d b : Nat) :
    Steps (readNumber fuel positive) ⟨Nat.toDigits 10 n ++ r, i, d, b⟩
      (if positive then .natural n else .negative (-(n : Int)))
      ⟨r, i + String.utf8Len (Nat.toDigits 10 n), d, b⟩ := by
  rcases Nat.eq_zero_or_pos n with rfl | hpos
  · -- a lone `0`, followed by no digit
    simp only [Nat.toDigits_zero, List.cons_append, List.nil_append]
    unfold readNumber
    refine Steps.bind (steps_next _ _ i d b) ?_
    simp only []
    refine Steps.bind (steps_peek _) ?_
    have htail := steps_numberTail hr hv fuel (i + '0'.utf8Size) d b
    simp only [String.utf8Len_cons, String.utf8Len_nil, Nat.zero_add]
    cases r with
    | nil => exact htail
    | cons c r => rcases hr c rfl with rfl | rfl | rfl <;> exact htail
  · obtain ⟨c, ds, hcd, hc0⟩ := toDigits_head hpos
    have hdig : ∀ c' ∈ c :: ds, c'.isDigit :=
      hcd ▸ fun c' h => Nat.isDigit_of_mem_toDigits (by decide) (by decide) h
    have hval : Nat.ofDigitChars 10 ds (c.toNat - 48) = n := by
      have := Nat.ofDigitChars_ten_toDigits (n := n)
      rw [hcd] at this
      simpa [Nat.ofDigitChars, show '0'.toNat = 48 from rfl] using this
    rw [hcd] at hfuel ⊢
    unfold readNumber
    refine Steps.bind (steps_next _ _ i d b) ?_
    split
    · rename_i h; cases h
    · rename_i h; cases h; exact absurd rfl hc0
    · rename_i c' _ h
      cases h
      rw [if_pos (hdig c (by simp))]
      have h := steps_digits hr positive fuel d b ds fuel (c.toNat - 48) (i + c.utf8Size)
        (fun c' h => hdig c' (by simp [h])) (by simp at hfuel; omega) (by rw [hval]; exact hn)
        (by rw [hval]; exact hv)
      rw [hval] at h
      rw [String.utf8Len_cons, Nat.add_comm (String.utf8Len ds), ← Nat.add_assoc]
      exact h

/-! ## Separators -/

theorem isBlank_punct : isBlank ',' = false ∧ isBlank ']' = false ∧ isBlank '}' = false ∧
    isBlank ':' = false ∧ isBlank '"' = false := by decide

theorem steps_nextItem_first {c : Char} (r : List Char) (hc : c ≠ ']') (hc' : c ≠ ',')
    (hb : isBlank c = false) (i d b : Nat) :
    Steps (nextItem true) ⟨c :: r, i, d, b⟩ true ⟨c :: r, i, d, b⟩ := by
  unfold nextItem
  refine Steps.bind (steps_skipBlanks (by simpa using hb) i d b) ?_
  simp
  exact steps_pure _ _

theorem steps_nextItem_comma {c : Char} (r : List Char) (hc : c ≠ ']') (hb : isBlank c = false)
    (i d b : Nat) :
    Steps (nextItem false) ⟨',' :: c :: r, i, d, b⟩ true ⟨c :: r, i + 1, d, b⟩ := by
  unfold nextItem
  refine Steps.bind (steps_skipBlanks (by simp [isBlank_punct]) i d b) ?_
  simp only [List.head?_cons, Bool.false_eq_true, if_false]
  refine Steps.bind (steps_eat _ _ i d b) ?_
  refine Steps.bind (steps_skipBlanks (by simpa using hb) _ d b) ?_
  simp
  exact steps_pure _ _

theorem steps_nextItem_close (first : Bool) (r : List Char) (i d b : Nat) :
    Steps (nextItem first) ⟨']' :: r, i, d, b⟩ false ⟨']' :: r, i, d, b⟩ := by
  unfold nextItem
  refine Steps.bind (steps_skipBlanks (by simp [isBlank_punct]) i d b) ?_
  simp
  exact steps_pure _ _

theorem steps_endArray (r : List Char) (i d b : Nat) :
    Steps endArray ⟨']' :: r, i, d, b⟩ () ⟨r, i + 1, d, b⟩ := by
  unfold endArray
  refine Steps.bind (steps_skipBlanks (by simp [isBlank_punct]) i d b) ?_
  exact steps_eat _ _ i d b

theorem steps_nextMember_first (r : List Char) (i d b : Nat) :
    Steps (nextMember true) ⟨'"' :: r, i, d, b⟩ true ⟨'"' :: r, i, d, b⟩ := by
  unfold nextMember
  refine Steps.bind (steps_skipBlanks (by simp [isBlank_punct]) i d b) ?_
  simp
  exact steps_pure _ _

theorem steps_nextMember_comma (r : List Char) (i d b : Nat) :
    Steps (nextMember false) ⟨',' :: '"' :: r, i, d, b⟩ true ⟨'"' :: r, i + 1, d, b⟩ := by
  unfold nextMember
  refine Steps.bind (steps_skipBlanks (by simp [isBlank_punct]) i d b) ?_
  simp only [List.head?_cons, Bool.false_eq_true, if_false]
  refine Steps.bind (steps_eat _ _ i d b) ?_
  refine Steps.bind (steps_skipBlanks (by simp [isBlank_punct]) _ d b) ?_
  simp
  exact steps_pure _ _

theorem steps_nextMember_close (first : Bool) (r : List Char) (i d b : Nat) :
    Steps (nextMember first) ⟨'}' :: r, i, d, b⟩ false ⟨'}' :: r, i, d, b⟩ := by
  unfold nextMember
  refine Steps.bind (steps_skipBlanks (by simp [isBlank_punct]) i d b) ?_
  simp
  exact steps_pure _ _

theorem steps_colon (r : List Char) (i d b : Nat) :
    Steps colon ⟨':' :: r, i, d, b⟩ () ⟨r, i + 1, d, b⟩ := by
  unfold colon
  refine Steps.bind (steps_skipBlanks (by simp [isBlank_punct]) i d b) ?_
  exact steps_eat _ _ i d b

theorem steps_endObject (r : List Char) (i d b : Nat) :
    Steps endObject ⟨'}' :: r, i, d, b⟩ () ⟨r, i + 1, d, b⟩ := by
  unfold endObject
  refine Steps.bind (steps_skipBlanks (by simp [isBlank_punct]) i d b) ?_
  exact steps_eat _ _ i d b

/-! ## Values -/

mutual
/-- How deep arrays and objects nest in a value. -/
def depth : Json → Nat
  | .array xs => depthItems xs + 1
  | .object ms => depthMembers ms + 1
  | _ => 0

def depthItems : List Json → Nat
  | [] => 0
  | x :: xs => max (depth x) (depthItems xs)

/-- The deepest nesting among some members' values. -/
def depthMembers : List (String × Json) → Nat
  | [] => 0
  | (_, v) :: ms => max (depth v) (depthMembers ms)
end

mutual
/-- A value as a reader gives it back: every object a map, its keys sorted and each kept
once, the last of equal keys winning. -/
def normalize : Json → Json
  | .array xs => .array (normalizeItems xs)
  | .object ms => .object (sortMembers (normalizeMembers ms))
  | j => j

/-- Items as a reader gives them back. -/
def normalizeItems : List Json → List Json
  | [] => []
  | x :: xs => normalize x :: normalizeItems xs

/-- Members as a reader reads them, before they go into the map. -/
def normalizeMembers : List (String × Json) → List (String × Json)
  | [] => []
  | (k, v) :: ms => (k, normalize v) :: normalizeMembers ms
end

theorem digit_ne_lead {c : Char} (hc : c.isDigit) :
    c ≠ 'n' ∧ c ≠ 't' ∧ c ≠ 'f' ∧ c ≠ '-' ∧ c ≠ '"' ∧ c ≠ '[' ∧ c ≠ '{' ∧ c ≠ ']' ∧ c ≠ ',' ∧
      isBlank c = false := by
  have h := Char.isDigit_iff_toNat.1 hc
  simp only [show '0'.toNat = 48 from rfl, show '9'.toNat = 57 from rfl] at h
  have hblank : isBlank c = false := by
    simp only [isBlank, Bool.or_eq_false_iff, beq_eq_false_iff_ne, ne_eq]
    refine ⟨⟨⟨?_, ?_⟩, ?_⟩, ?_⟩ <;> rintro rfl <;> simp at h
  refine ⟨?_, ?_, ?_, ?_, ?_, ?_, ?_, ?_, ?_, hblank⟩ <;> rintro rfl <;> simp at h

theorem steps_value_null (fuel : Nat) (r : List Char) (i d b : Nat) :
    Steps (value (fuel + 1)) ⟨Json.null.chars ++ r, i, d, b⟩ .null
      ⟨r, i + String.utf8Len Json.null.chars, d, b⟩ := by
  rw [value]
  refine Steps.bind (steps_skipBlanks (by simp [chars, isBlank]) i d b) ?_
  simp only [chars, List.cons_append, List.head?_cons]
  refine Steps.bind (steps_eat _ _ i d b) ?_
  refine Steps.bind (steps_ident ['u', 'l', 'l'] r _ d b) ?_
  exact steps_pure _ _

theorem steps_value_bool (v : Bool) (fuel : Nat) (r : List Char) (i d b : Nat) :
    Steps (value (fuel + 1)) ⟨(Json.bool v).chars ++ r, i, d, b⟩ (.bool v)
      ⟨r, i + String.utf8Len (Json.bool v).chars, d, b⟩ := by
  rw [value]
  cases v
  · refine Steps.bind (steps_skipBlanks (by simp [chars, isBlank]) i d b) ?_
    simp only [chars, Bool.false_eq_true, if_false, List.cons_append, List.head?_cons]
    refine Steps.bind (steps_eat _ _ i d b) ?_
    refine Steps.bind (steps_ident ['a', 'l', 's', 'e'] r _ d b) ?_
    exact steps_pure _ _
  · refine Steps.bind (steps_skipBlanks (by simp [chars, isBlank]) i d b) ?_
    simp only [chars, if_true, List.cons_append, List.head?_cons]
    refine Steps.bind (steps_eat _ _ i d b) ?_
    refine Steps.bind (steps_ident ['r', 'u', 'e'] r _ d b) ?_
    exact steps_pure _ _

theorem steps_value_string (str : String) (fuel : Nat) (r : List Char) (i d b : Nat)
    (hb : (Json.string str).chars.length ≤ b) :
    Steps (value (fuel + 1)) ⟨(Json.string str).chars ++ r, i, d, b⟩ (.string str)
      ⟨r, i + String.utf8Len (Json.string str).chars, d, b⟩ := by
  rw [value]
  have hread := steps_readString str r i d b hb
  simp only [chars, quotedChars, List.cons_append] at hread ⊢
  refine Steps.bind (steps_skipBlanks (by simp [isBlank]) i d b) ?_
  simp only [List.head?_cons]
  exact Steps.bind hread (steps_pure _ _)

theorem steps_value_number {n : JsonNumber} (hn : n.exact) {fuel : Nat} {r : List Char} (hr : Ends r)
    (hfuel : (Json.number n).chars.length ≤ fuel + 1) (i d b : Nat) :
    Steps (value (fuel + 1)) ⟨(Json.number n).chars ++ r, i, d, b⟩ (.number n)
      ⟨r, i + String.utf8Len (Json.number n).chars, d, b⟩ := by
  rw [value]
  cases n with
  | natural n =>
    simp only [JsonNumber.exact, decide_eq_true_eq] at hn
    simp only [chars, toList_render_natural] at hfuel ⊢
    obtain ⟨c, ds, hcd⟩ := List.exists_cons_of_ne_nil (Nat.toDigits_ne_nil (b := 10) (n := n))
    have hc : c.isDigit :=
      Nat.isDigit_of_mem_toDigits (by decide) (by decide) (hcd ▸ List.mem_cons_self ..)
    obtain ⟨h1, h2, h3, h4, h5, h6, h7, -, -, hblank⟩ := digit_ne_lead hc
    have hread := steps_readNumber hr true n (by simp only [wordMax, Nat.pow_eq]; omega) (by simp)
      fuel hfuel i d b
    rw [hcd] at hread ⊢
    simp only [if_true, List.cons_append] at hread
    refine Steps.bind (steps_skipBlanks (by simpa using hblank) i d b) ?_
    -- the first digit is none of the bytes that open another kind of value
    simp only [List.cons_append, List.head?_cons, hc, if_true]
    exact Steps.bind hread (steps_pure _ _)
  | negative n =>
    simp only [JsonNumber.exact, Bool.and_eq_true, decide_eq_true_eq] at hn
    simp only [chars, toList_render_negative hn.2] at hfuel ⊢
    have hread := steps_readNumber hr false n.natAbs (by simp only [wordMax, Nat.pow_eq]; omega)
      (by simp; omega) fuel (by simp at hfuel; omega) (i + '-'.utf8Size) d b
    simp only [Bool.false_eq_true, if_false, show -(n.natAbs : Int) = n by omega] at hread
    refine Steps.bind (steps_skipBlanks (by simp [isBlank]) i d b) ?_
    simp only [List.cons_append, List.head?_cons]
    refine Steps.bind (steps_eat _ _ i d b) ?_
    refine Steps.bind hread ?_
    rw [String.utf8Len_cons, Nat.add_comm (String.utf8Len _), ← Nat.add_assoc]
    exact steps_pure _ _
  | float x => simp [JsonNumber.exact] at hn

/-- Every value's text starts with a byte that opens a value: not a comma, not a closing
bracket, not a blank. -/
theorem chars_head : ∀ j : Json, j.exact →
    ∃ c cs, j.chars = c :: cs ∧ c ≠ ']' ∧ c ≠ ',' ∧ c ≠ '}' ∧ isBlank c = false
  | .null, _ => ⟨_, _, rfl, by decide, by decide, by decide, by decide⟩
  | .bool true, _ => ⟨_, _, rfl, by decide, by decide, by decide, by decide⟩
  | .bool false, _ => ⟨_, _, rfl, by decide, by decide, by decide, by decide⟩
  | .number (.natural n), _ => by
    obtain ⟨c, ds, hcd⟩ := List.exists_cons_of_ne_nil (Nat.toDigits_ne_nil (b := 10) (n := n))
    have hc : c.isDigit :=
      Nat.isDigit_of_mem_toDigits (by decide) (by decide) (hcd ▸ List.mem_cons_self ..)
    obtain ⟨-, -, -, -, -, -, -, h1, h2, hblank⟩ := digit_ne_lead hc
    refine ⟨c, ds, by simp [chars, toList_render_natural, hcd], h1, h2, ?_, hblank⟩
    rintro rfl
    simp at hc
  | .number (.negative n), h => by
    simp only [exact, JsonNumber.exact, Bool.and_eq_true, decide_eq_true_eq] at h
    exact ⟨'-', Nat.toDigits 10 n.natAbs, by simp [chars, toList_render_negative h.2], by decide,
      by decide, by decide, by decide⟩
  | .number (.float _), h => by simp [exact, JsonNumber.exact] at h
  | .string s, _ => ⟨_, _, rfl, by decide, by decide, by decide, by decide⟩
  | .array xs, _ => ⟨_, _, rfl, by decide, by decide, by decide, by decide⟩
  | .object ms, _ => ⟨_, _, rfl, by decide, by decide, by decide, by decide⟩

theorem ends_itemChars (xs : List Json) (r : List Char) : Ends (itemChars false xs ++ ']' :: r) := by
  cases xs <;> simp [Ends, itemChars]

theorem ends_memberChars (ms : List (String × Json)) (r : List Char) :
    Ends (memberChars false ms ++ '}' :: r) := by
  rcases ms with _ | ⟨⟨k, v⟩, ms⟩ <;> simp [Ends, memberChars]

theorem length_chars_pos {j : Json} (hj : j.exact) : 0 < j.chars.length := by
  obtain ⟨c, cs, h, -⟩ := chars_head j hj
  simp [h]

theorem steps_nextItem_value {x : Json} (hx : x.exact) (first : Bool) (rest : List Char)
    (i d b : Nat) :
    Steps (nextItem first) ⟨(if first then [] else [',']) ++ (x.chars ++ rest), i, d, b⟩ true
      ⟨x.chars ++ rest, i + String.utf8Len (if first then [] else [',']), d, b⟩ := by
  obtain ⟨c, cs, hcs, h1, h2, -, hblank⟩ := chars_head x hx
  rw [hcs]
  cases first
  · exact steps_nextItem_comma _ h1 hblank i d b
  · exact steps_nextItem_first _ h1 h2 hblank i d b

theorem steps_nextMember_key (first : Bool) (k : String) (rest : List Char) (i d b : Nat) :
    Steps (nextMember first) ⟨(if first then [] else [',']) ++ (quotedChars k ++ rest), i, d, b⟩
      true ⟨quotedChars k ++ rest, i + String.utf8Len (if first then [] else [',']), d, b⟩ := by
  unfold quotedChars
  cases first
  · exact steps_nextMember_comma _ i d b
  · exact steps_nextMember_first _ i d b

mutual
/-- A value reads back from its compact text, as a map wherever it is an object: given fuel and
a bound no smaller than the text, nesting the reader still allows, and a text after it that
cannot extend it. -/
theorem steps_value : ∀ (j : Json) (fuel : Nat) (r : List Char) (i d b : Nat), j.exact →
    j.chars.length ≤ fuel → j.chars.length ≤ b → j.depth < d → Ends r →
    Steps (value fuel) ⟨j.chars ++ r, i, d, b⟩ j.normalize ⟨r, i + String.utf8Len j.chars, d, b⟩
  | .null, fuel, r, i, d, b, _, hf, _, _, _ => by
    obtain ⟨f, rfl⟩ : ∃ f, fuel = f + 1 := ⟨fuel - 1, by simp [chars] at hf; omega⟩
    exact steps_value_null f r i d b
  | .bool v, fuel, r, i, d, b, _, hf, _, _, _ => by
    obtain ⟨f, rfl⟩ : ∃ f, fuel = f + 1 := ⟨fuel - 1, by cases v <;> simp [chars] at hf <;> omega⟩
    exact steps_value_bool v f r i d b
  | .number n, fuel, r, i, d, b, hn, hf, _, _, hr => by
    obtain ⟨f, rfl⟩ : ∃ f, fuel = f + 1 :=
      ⟨fuel - 1, by have := length_chars_pos hn; omega⟩
    exact steps_value_number (by simpa [exact] using hn) hr hf i d b
  | .string str, fuel, r, i, d, b, hs, hf, hb, _, _ => by
    obtain ⟨f, rfl⟩ : ∃ f, fuel = f + 1 :=
      ⟨fuel - 1, by have := length_chars_pos hs; omega⟩
    exact steps_value_string str f r i d b hb
  | .array xs, fuel, r, i, d, b, hx, hf, hb, hd, _ => by
    simp only [chars, List.length_cons, List.length_append, List.length_nil] at hf hb
    simp only [depth] at hd
    obtain ⟨f, rfl⟩ : ∃ f, fuel = f + 1 := ⟨fuel - 1, by omega⟩
    have hitems := steps_items xs true f [] r (i + '['.utf8Size) (d - 1) b
      (by simpa [exact] using hx) (by omega) (by omega) (by omega)
    rw [value]
    simp only [chars, List.cons_append, List.append_assoc]
    refine Steps.bind (steps_skipBlanks (by simp [isBlank]) i d b) ?_
    simp only [List.head?_cons]
    refine Steps.bind (steps_enter (by omega) _ i b) ?_
    refine Steps.bind (steps_eat _ _ i (d - 1) b) ?_
    refine Steps.bind hitems ?_
    refine Steps.bind (steps_endArray r _ (d - 1) b) ?_
    refine Steps.bind (steps_leave r _ (d - 1) b) ?_
    rw [show d - 1 + 1 = d by omega]
    convert steps_pure _ _ using 2
    · simp [normalize]
    · simp [String.utf8Len_append, show ']'.utf8Size = 1 from rfl, show '['.utf8Size = 1 from rfl]
      omega
  | .object ms, fuel, r, i, d, b, hx, hf, hb, hd, _ => by
    simp only [chars, List.length_cons, List.length_append, List.length_nil] at hf hb
    simp only [depth] at hd
    obtain ⟨f, rfl⟩ : ∃ f, fuel = f + 1 := ⟨fuel - 1, by omega⟩
    have hmembers := steps_members ms true f [] r (i + '{'.utf8Size) (d - 1) b
      (by simpa [exact] using hx) (by omega) (by omega) (by omega)
    rw [value]
    simp only [chars, List.cons_append, List.append_assoc]
    refine Steps.bind (steps_skipBlanks (by simp [isBlank]) i d b) ?_
    simp only [List.head?_cons]
    refine Steps.bind (steps_enter (by omega) _ i b) ?_
    refine Steps.bind (steps_eat _ _ i (d - 1) b) ?_
    refine Steps.bind hmembers ?_
    refine Steps.bind (steps_endObject r _ (d - 1) b) ?_
    refine Steps.bind (steps_leave r _ (d - 1) b) ?_
    rw [show d - 1 + 1 = d by omega]
    convert steps_pure _ _ using 2
    · simp [normalize, sortMembers]
    · simp [String.utf8Len_append, show '}'.utf8Size = 1 from rfl, show '{'.utf8Size = 1 from rfl]
      omega

/-- The items of an array read back up to its closing bracket, one round of fuel each. -/
theorem steps_items : ∀ (xs : List Json) (first : Bool) (fuel : Nat) (acc : List Json)
    (r : List Char) (i d b : Nat), exactItems xs → (itemChars first xs).length < fuel →
    (itemChars first xs).length ≤ b → depthItems xs < d →
    Steps (items fuel first acc) ⟨itemChars first xs ++ ']' :: r, i, d, b⟩
      (acc.reverse ++ normalizeItems xs) ⟨']' :: r, i + String.utf8Len (itemChars first xs), d, b⟩
  | [], first, fuel, acc, r, i, d, b, _, hf, _, _ => by
    obtain ⟨f, rfl⟩ : ∃ f, fuel = f + 1 := ⟨fuel - 1, by omega⟩
    rw [items]
    simp only [itemChars, List.nil_append, normalizeItems, List.append_nil]
    refine Steps.bind (steps_nextItem_close first r i d b) ?_
    exact steps_pure _ _
  | x :: xs, first, fuel, acc, r, i, d, b, hx, hf, hb, hd => by
    simp only [exactItems, Bool.and_eq_true] at hx
    simp only [depthItems, max_lt_iff] at hd
    simp only [itemChars, List.length_append] at hf hb
    have hpos := length_chars_pos hx.1
    obtain ⟨f, rfl⟩ : ∃ f, fuel = f + 1 := ⟨fuel - 1, by omega⟩
    rw [items]
    simp only [itemChars, List.append_assoc]
    refine Steps.bind (steps_nextItem_value hx.1 first _ i d b) ?_
    simp only [if_true]
    refine Steps.bind (steps_value x f _ _ d b hx.1 (by omega) (by omega) (by omega)
      (ends_itemChars xs r)) ?_
    rw [show acc.reverse ++ normalizeItems (x :: xs) = (x.normalize :: acc).reverse ++
      normalizeItems xs by simp [normalizeItems]]
    convert steps_items xs false f (x.normalize :: acc) r _ d b hx.2 (by omega) (by omega) (by omega)
      using 2
    simp only [String.utf8Len_append]
    omega

/-- The members of an object read back up to its closing brace, each put into the map. -/
theorem steps_members : ∀ (ms : List (String × Json)) (first : Bool) (fuel : Nat)
    (acc : List (String × Json)) (r : List Char) (i d b : Nat), exactMembers ms →
    (memberChars first ms).length < fuel → (memberChars first ms).length ≤ b → depthMembers ms < d →
    Steps (members fuel first acc) ⟨memberChars first ms ++ '}' :: r, i, d, b⟩
      ((normalizeMembers ms).foldl (fun acc (k, v) => insert k v acc) acc)
      ⟨'}' :: r, i + String.utf8Len (memberChars first ms), d, b⟩
  | [], first, fuel, acc, r, i, d, b, _, hf, _, _ => by
    obtain ⟨f, rfl⟩ : ∃ f, fuel = f + 1 := ⟨fuel - 1, by omega⟩
    rw [members]
    simp only [memberChars, List.nil_append, normalizeMembers, List.foldl_nil]
    refine Steps.bind (steps_nextMember_close first r i d b) ?_
    exact steps_pure _ _
  | (k, v) :: ms, first, fuel, acc, r, i, d, b, hx, hf, hb, hd => by
    simp only [exactMembers, Bool.and_eq_true] at hx
    simp only [depthMembers, max_lt_iff] at hd
    simp only [memberChars, List.length_append, List.length_cons] at hf hb
    have hq : 2 ≤ (quotedChars k).length := by simp [quotedChars]
    obtain ⟨f, rfl⟩ : ∃ f, fuel = f + 1 := ⟨fuel - 1, by omega⟩
    rw [members]
    simp only [memberChars, List.append_assoc, List.cons_append]
    refine Steps.bind (steps_nextMember_key first k _ i d b) ?_
    simp only [if_true]
    refine Steps.bind (steps_readString k _ _ d b (by omega)) ?_
    refine Steps.bind (steps_colon _ _ d b) ?_
    refine Steps.bind (steps_value v f _ _ d b hx.1 (by omega) (by omega) (by omega)
      (ends_memberChars ms r)) ?_
    rw [show (normalizeMembers ((k, v) :: ms)).foldl (fun acc (k, v) => insert k v acc) acc =
      (normalizeMembers ms).foldl (fun acc (k, v) => insert k v acc) (insert k v.normalize acc) by
      simp [normalizeMembers]]
    convert steps_members ms false f (insert k v.normalize acc) r _ d b hx.2 (by omega) (by omega)
      (by omega) using 2
    simp only [String.utf8Len_append, String.utf8Len_cons, show ':'.utf8Size = 1 from rfl]
    omega
end

theorem steps_finish (i d b : Nat) : Steps finish ⟨[], i, d, b⟩ () ⟨[], i, d, b⟩ := rfl

/-- The reader gives back every value whose numbers are 64-bit integers and whose nesting stays
within its limit from the value's compact form, with each object turned into a map. -/
theorem parse_compact {j : Json} (hj : j.exact) (hd : j.depth < 128) :
    parse (compact j) = .ok j.normalize := by
  have hv := steps_value j (j.chars.length + 1) [] 0 128 (j.chars.length + 1) hj (by omega)
    (by omega) hd (by simp [Ends])
  rw [List.append_nil] at hv
  have hread : Steps (get >>= fun s => value (fuelFor s)) _ _ _ :=
    Steps.bind (steps_get ⟨j.chars, 0, 128, j.chars.length + 1⟩) hv
  unfold parse run
  dsimp only
  rw [toList_compact, run_bind_of_steps hread, run_bind_of_steps (steps_finish _ _ _)]
  rfl

end FormatEngine.Json