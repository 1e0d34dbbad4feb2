/-!
# Numerals

The canonical numeral of a natural number in a base: its digits, most significant first, with no
leading zero except the single digit of zero. `Numeral.digitsLsb` lists the digits least
significant first, which is the order a converter emits them in; `Numeral.text` spells them with
an alphabet of `0-9a-f` or `0-9A-F`.

`Numeral.digitCount` counts the digits by a loop of its own, the one a converter sizes its room
with: one digit, and one more for each division while the value is at least the base. It never
builds the digits, so that it counts exactly as many as the digit list holds is a fact to prove
(`digitCount_eq_length`).

Main statements: the digits read back to the value (`ofDigitsLsb_digitsLsb`), and the digit
count is the length of the digit list.
-/
namespace FormatEngine.Numeral

/-- The digits of `v` in base `b`, least significant first, dividing at most `fuel` times. -/
def digitsLsbAux (b : Nat) : Nat → Nat → List Nat
  | 0, v => [v]
  | fuel + 1, v => if 2 ≤ b ∧ b ≤ v then v % b :: digitsLsbAux b fuel (v / b) else [v]

/-- The digits of `v` in base `b`, least significant first. Zero has the single digit 0. Each
division shrinks the value, so `v` divisions are always enough. -/
def digitsLsb (b v : Nat) : List Nat := digitsLsbAux b v v

/-- Counts on from `count` while the value is at least `b`, dividing it each time, at most `fuel`
times. -/
def countDigits (b : Nat) : Nat → Nat → Nat → Nat
  | 0, _, count => count
  | fuel + 1, v, count => if b ≤ v then countDigits b fuel (v / b) (count + 1) else count

/-- The number of digits of `v` in base `b`: one, and one more for each division while the value
is at least `b`. Each division shrinks the value, so `v` of them are always enough. -/
def digitCount (b v : Nat) : Nat := countDigits b v v 1

/-- The value of a digit list, least significant first. -/
def ofDigitsLsb (b : Nat) : List Nat → Nat
  | [] => 0
  | d :: ds => d + b * ofDigitsLsb b ds

/-- The byte of a digit below 16: `0-9`, then `a-f`, or `A-F` when `upper`. -/
def digitByte (upper : Bool) (d : Nat) : UInt8 :=
  if d < 10 then (48 + d).toUInt8 else ((if upper then 55 else 87) + d).toUInt8

/-- The canonical numeral of `v` in base `b`, most significant digit first. -/
def text (b : Nat) (upper : Bool) (v : Nat) : List UInt8 :=
  ((digitsLsb b v).map (digitByte upper)).reverse

/-- The decimal numeral of an integer: a `-` exactly when it is negative, then the digits of
its magnitude. -/
def signed (n : Int) : List UInt8 :=
  (if n < 0 then [45] else []) ++ text 10 false n.natAbs

theorem digitsLsbAux_ne_nil (b fuel v : Nat) : digitsLsbAux b fuel v ≠ [] := by
  cases fuel with
  | zero => simp [digitsLsbAux]
  | succ fuel => simp only [digitsLsbAux]; split <;> simp

theorem digitsLsb_ne_nil (b v : Nat) : digitsLsb b v ≠ [] := digitsLsbAux_ne_nil b v v

theorem digitsLsbAux_fuel {b : Nat} (hb : 2 ≤ b) :
    ∀ (fuel fuel' v : Nat), v ≤ fuel → v ≤ fuel' → digitsLsbAux b fuel v = digitsLsbAux b fuel' v := by
  intro fuel
  induction fuel with
  | zero =>
    intro fuel' v hv hv'
    obtain rfl : v = 0 := by omega
    cases fuel' <;> simp [digitsLsbAux]
    omega
  | succ fuel ih =>
    intro fuel' v hv hv'
    cases fuel' with
    | zero =>
      obtain rfl : v = 0 := by omega
      simp [digitsLsbAux]
      omega
    | succ fuel' =>
      simp only [digitsLsbAux]
      split
      · -- another digit: the quotient is below the value, so both fuels cover it
        have : v / b < v := Nat.div_lt_self (by omega) (by omega)
        rw [ih fuel' (v / b) (by omega) (by omega)]
      · rfl

/-- The digits of `v` are the digit `v % b` before those of `v / b` when `v` is at least `b`, and
`v` alone otherwise. -/
theorem digitsLsb_eq {b : Nat} (hb : 2 ≤ b) (v : Nat) :
    digitsLsb b v = if b ≤ v then v % b :: digitsLsb b (v / b) else [v] := by
  cases v with
  | zero => simp [digitsLsb, digitsLsbAux]; omega
  | succ v =>
    have hq : (v + 1) / b ≤ v := Nat.le_of_lt_succ (Nat.div_lt_self (Nat.succ_pos v) (by omega))
    rw [digitsLsb, digitsLsbAux, digitsLsb, digitsLsbAux_fuel hb v ((v + 1) / b) _ hq (Nat.le_refl _)]
    by_cases hv : b ≤ v + 1
    · rw [if_pos ⟨hb, hv⟩, if_pos hv]
    · rw [if_neg (fun h => hv h.2), if_neg hv]

theorem ofDigitsLsb_digitsLsbAux (b fuel v : Nat) (hb : 2 ≤ b) (hv : v ≤ fuel) :
    ofDigitsLsb b (digitsLsbAux b fuel v) = v := by
  induction fuel generalizing v with
  | zero => simp [digitsLsbAux, ofDigitsLsb]
  | succ fuel ih =>
    simp only [digitsLsbAux]
    split
    · rename_i h
      have hlt : v / b < v := Nat.div_lt_self (by omega) (by omega)
      simp only [ofDigitsLsb]
      rw [ih (v / b) (by omega)]
      exact Nat.mod_add_div v b
    · simp [ofDigitsLsb]

theorem ofDigitsLsb_digitsLsb (b v : Nat) (hb : 2 ≤ b) : ofDigitsLsb b (digitsLsb b v) = v :=
  ofDigitsLsb_digitsLsbAux b v v hb (Nat.le_refl v)

/-- The counting loop and the digit loop take the same branch at every value, so the count
goes up once per digit. -/
theorem countDigits_add_one {b : Nat} (hb : 2 ≤ b) (fuel v count : Nat) :
    countDigits b fuel v count + 1 = count + (digitsLsbAux b fuel v).length := by
  induction fuel generalizing v count with
  | zero => rfl
  | succ fuel ih =>
    by_cases hv : b ≤ v
    · rw [countDigits, if_pos hv, ih, digitsLsbAux, if_pos ⟨hb, hv⟩, List.length_cons]
      omega
    · rw [countDigits, if_neg hv, digitsLsbAux, if_neg (fun h => hv h.2)]
      rfl

theorem digitCount_eq_length {b : Nat} (hb : 2 ≤ b) (v : Nat) :
    digitCount b v = (digitsLsb b v).length := by
  have h := countDigits_add_one hb v v 1
  rw [digitsLsb, digitCount]
  omega

theorem length_text {b : Nat} (hb : 2 ≤ b) (upper : Bool) (v : Nat) :
    (text b upper v).length = digitCount b v := by
  simp [text, digitCount_eq_length hb]

end FormatEngine.Numeral
