import Mathlib
import FormatEngine.Json.Printer
/-!
# The compact form, character by character

The printer builds its text by appending to a string. Here the same text is given as a list of
characters, one definition per part: a string character's escaped form, a quoted string, an
integer, and a value with its items and members. The reader works on characters, so these are
the texts it is shown to read back.

Main statements: `toList_compact`, the compact form of a value is `Json.chars` of it; and
`newline_not_mem_chars`, a value whose numbers are all integers has no line feed in its compact
form, which is what lets a log hold one value per line.
-/
namespace FormatEngine

/-- A number that a reader keeps as it is written: an integer of 64 bits, never a float. -/
def JsonNumber.exact : JsonNumber → Bool
  | .natural n => n < 2 ^ 64
  | .negative n => decide (-2 ^ 63 ≤ n) && decide (n < 0)
  | .float _ => false

namespace Json

/-! ## Strings -/

/-- The characters a string character is written as: `"` and `\` and the control characters
escaped, every other character as it is. -/
def escapeChars (c : Char) : List Char :=
  match c with
  | '"' => ['\\', '"']
  | '\\' => ['\\', '\\']
  | '\n' => ['\\', 'n']
  | '\r' => ['\\', 'r']
  | '\t' => ['\\', 't']
  | c =>
    if c.toNat = 8 then ['\\', 'b']
    else if c.toNat = 12 then ['\\', 'f']
    else if c.toNat < 32 then
      ['\\', 'u', '0', '0', Bytes.hexDigit false (c.toNat / 16), Bytes.hexDigit false (c.toNat % 16)]
    else [c]

theorem toList_pushEscaped (acc : String) (c : Char) :
    (pushEscaped acc c).toList = acc.toList ++ escapeChars c := by
  unfold pushEscaped escapeChars
  split <;> simp only [apply_ite String.toList, String.toList_append, String.toList_push] <;>
    (try split_ifs) <;> simp

def quotedChars (s : String) : List Char := '"' :: s.toList.flatMap escapeChars ++ ['"']

theorem toList_foldl_pushEscaped (cs : List Char) (acc : String) :
    (cs.foldl pushEscaped acc).toList = acc.toList ++ cs.flatMap escapeChars := by
  induction cs generalizing acc with
  | nil => simp
  | cons c cs ih => simp [ih, toList_pushEscaped]

theorem toList_pushQuoted (acc s : String) :
    (pushQuoted acc s).toList = acc.toList ++ quotedChars s := by
  simp [pushQuoted, quotedChars, toList_foldl_pushEscaped]

/-! ## Integers -/

theorem toList_render_natural (n : Nat) :
    (JsonNumber.render (.natural n)).toList = Nat.toDigits 10 n := by
  simp [JsonNumber.render, Nat.toString_eq_repr, Nat.toList_repr]

theorem toList_render_negative {n : Int} (h : n < 0) :
    (JsonNumber.render (.negative n)).toList = '-' :: Nat.toDigits 10 n.natAbs := by
  cases n with
  | ofNat k => exact absurd h (by simp)
  | negSucc m =>
    show (Int.repr (Int.negSucc m)).toList = _
    simp [Int.repr, Nat.toList_repr]

/-! ## Values -/

mutual
def chars : Json → List Char
  | .null => ['n', 'u', 'l', 'l']
  | .bool b => if b then ['t', 'r', 'u', 'e'] else ['f', 'a', 'l', 's', 'e']
  | .number n => n.render.toList
  | .string s => quotedChars s
  | .array xs => '[' :: itemChars true xs ++ [']']
  | .object ms => '{' :: memberChars true ms ++ ['}']

/-- The characters of array items, comma-separated. -/
def itemChars (first : Bool) : List Json → List Char
  | [] => []
  | x :: xs => (if first then [] else [',']) ++ chars x ++ itemChars false xs

/-- The characters of object members, comma-separated, each key quoted and followed by `:`. -/
def memberChars (first : Bool) : List (String × Json) → List Char
  | [] => []
  | (k, v) :: ms =>
    (if first then [] else [',']) ++ quotedChars k ++ ':' :: chars v ++ memberChars false ms
end

mutual
theorem toList_pushCompact (acc : String) :
    ∀ j : Json, (pushCompact acc j).toList = acc.toList ++ j.chars
  | .null => by simp [pushCompact, chars]
  | .bool b => by cases b <;> simp [pushCompact, chars]
  | .number n => by simp [pushCompact, chars]
  | .string s => by simp [pushCompact, chars, toList_pushQuoted]
  | .array xs => by
    have h := toList_pushCompactItems (acc.push '[') true xs
    simp [pushCompact, chars, h]
  | .object ms => by
    have h := toList_pushCompactMembers (acc.push '{') true ms
    simp [pushCompact, chars, h]

theorem toList_pushCompactItems (acc : String) (first : Bool) :
    ∀ xs : List Json, (pushCompactItems acc first xs).toList = acc.toList ++ itemChars first xs
  | [] => by simp [pushCompactItems, itemChars]
  | x :: xs => by
    have hx := toList_pushCompact (if first then acc else acc.push ',') x
    have hxs :=
      toList_pushCompactItems (pushCompact (if first then acc else acc.push ',') x) false xs
    cases first <;> simp_all [pushCompactItems, itemChars]

theorem toList_pushCompactMembers (acc : String) (first : Bool) :
    ∀ ms : List (String × Json),
      (pushCompactMembers acc first ms).toList = acc.toList ++ memberChars first ms
  | [] => by simp [pushCompactMembers, memberChars]
  | (k, v) :: ms => by
    have hv := toList_pushCompact ((pushQuoted (if first then acc else acc.push ',') k).push ':') v
    have hms := toList_pushCompactMembers
      (pushCompact ((pushQuoted (if first then acc else acc.push ',') k).push ':') v) false ms
    cases first <;> simp_all [pushCompactMembers, memberChars, toList_pushQuoted]
end

theorem toList_compact (j : Json) : (compact j).toList = j.chars := by
  simp [compact, toList_pushCompact]

/-! ## No line feed -/

mutual
/-- Whether every number in a value is an exact integer. -/
def exact : Json → Bool
  | .number n => n.exact
  | .array xs => exactItems xs
  | .object ms => exactMembers ms
  | _ => true

def exactItems : List Json → Bool
  | [] => true
  | x :: xs => exact x && exactItems xs

def exactMembers : List (String × Json) → Bool
  | [] => true
  | (_, v) :: ms => exact v && exactMembers ms
end

theorem hexDigit_ne_newline {d : Nat} (hd : d < 16) : Bytes.hexDigit false d ≠ '\n' := by
  revert d
  decide

theorem newline_not_mem_escapeChars (c : Char) : '\n' ∉ escapeChars c := by
  unfold escapeChars
  split
  · simp
  · simp
  · simp
  · simp
  · simp
  · rename_i hn _ _ _
    split_ifs with h8 h12 h32
    · simp
    · simp
    · have h1 := hexDigit_ne_newline (d := c.toNat / 16) (by omega)
      have h2 := hexDigit_ne_newline (d := c.toNat % 16) (by omega)
      simp [h1.symm, h2.symm]
    · simp only [List.mem_singleton]
      rintro rfl
      simp at h32

theorem newline_not_mem_quotedChars (s : String) : '\n' ∉ quotedChars s := by
  simp [quotedChars, newline_not_mem_escapeChars]

theorem newline_not_mem_digits (n : Nat) : '\n' ∉ Nat.toDigits 10 n := fun h => by
  have := Nat.isDigit_of_mem_toDigits (by decide) (by decide) h
  simp at this

theorem newline_not_mem_number {n : JsonNumber} (h : n.exact) : '\n' ∉ n.render.toList := by
  cases n with
  | natural n => simpa [toList_render_natural] using newline_not_mem_digits n
  | negative n =>
    simp only [JsonNumber.exact, Bool.and_eq_true, decide_eq_true_eq] at h
    simpa [toList_render_negative h.2] using newline_not_mem_digits n.natAbs
  | float x => simp [JsonNumber.exact] at h

mutual
/-- A value whose numbers are all integers has no line feed in its compact form. -/
theorem newline_not_mem_chars : ∀ j : Json, j.exact → '\n' ∉ j.chars
  | .null, _ => by simp [chars]
  | .bool b, _ => by cases b <;> simp [chars]
  | .number n, h => by simpa [chars] using newline_not_mem_number (by simpa [exact] using h)
  | .string s, _ => by simpa [chars] using newline_not_mem_quotedChars s
  | .array xs, h => by
    have := newline_not_mem_itemChars true xs (by simpa [exact] using h)
    simpa [chars] using this
  | .object ms, h => by
    have := newline_not_mem_memberChars true ms (by simpa [exact] using h)
    simpa [chars] using this

theorem newline_not_mem_itemChars (first : Bool) :
    ∀ xs : List Json, exactItems xs → '\n' ∉ itemChars first xs
  | [], _ => by simp [itemChars]
  | x :: xs, h => by
    simp only [exactItems, Bool.and_eq_true] at h
    have hx := newline_not_mem_chars x h.1
    have hxs := newline_not_mem_itemChars false xs h.2
    cases first <;> simp [itemChars, hx, hxs]

theorem newline_not_mem_memberChars (first : Bool) :
    ∀ ms : List (String × Json), exactMembers ms → '\n' ∉ memberChars first ms
  | [], _ => by simp [memberChars]
  | (k, v) :: ms, h => by
    simp only [exactMembers, Bool.and_eq_true] at h
    have hv := newline_not_mem_chars v h.1
    have hms := newline_not_mem_memberChars false ms h.2
    have hk := newline_not_mem_quotedChars k
    cases first <;> simp_all [memberChars]
end

end Json
end FormatEngine
