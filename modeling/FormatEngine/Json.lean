import FormatEngine.Binary64
/-!
# JSON values

A JSON value whose numbers keep the distinctions a reader makes: a non-negative integer below
`2^64`, a negative integer of 64 bits, or a finite binary64. An object is a list of members in
the order it is written; an object read as a map keeps its keys sorted and each key once
(`Json.insert`), as a map in key order does.
-/
namespace FormatEngine

/-- A number as a JSON reader holds it. -/
inductive JsonNumber where
  /-- A non-negative integer below `2^64`. -/
  | natural (n : Nat)
  /-- A negative integer not below `-2^63`. -/
  | negative (n : Int)
  /-- A finite binary64. -/
  | float (x : Binary64)
deriving Inhabited

inductive Json where
  | null
  | bool (b : Bool)
  | number (n : JsonNumber)
  | string (s : String)
  | array (items : List Json)
  | object (members : List (String × Json))
deriving Inhabited

namespace Json

def int (n : Int) : Json := if n < 0 then .number (.negative n) else .number (.natural n.toNat)

def nat (n : Nat) : Json := .number (.natural n)

def optString : Option String → Json
  | some s => .string s
  | none => .null

/-- Inserts a member into a key-sorted member list, replacing the member of the same key. -/
def insert (k : String) (v : Json) : List (String × Json) → List (String × Json)
  | [] => [(k, v)]
  | (k', v') :: ms =>
    if k = k' then (k, v) :: ms
    else if k < k' then (k, v) :: (k', v') :: ms
    else (k', v') :: insert k v ms

/-- The members as a map holds them: sorted by key, the last of equal keys kept. -/
def sortMembers (ms : List (String × Json)) : List (String × Json) :=
  ms.foldl (fun acc (k, v) => insert k v acc) []

def get? (j : Json) (k : String) : Option Json :=
  match j with
  | .object ms => (ms.find? (·.1 == k)).map (·.2)
  | _ => none

def str? : Json → Option String
  | .string s => some s
  | _ => none

def members? : Json → Option (List (String × Json))
  | .object ms => some ms
  | _ => none

end Json
end FormatEngine
