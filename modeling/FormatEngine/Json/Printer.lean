import FormatEngine.Json
import FormatEngine.Bytes
import FormatEngine.Binary64.Shortest
/-!
# Writing JSON

The compact form has no blanks; the pretty form puts each member and item on its own line,
indented by two spaces per level, with `": "` after a key, and writes an empty array or object
as `[]` or `{}`. Strings escape `"`, `\` and the control characters (`\b \f \n \r \t`, others as
`\u00XX` in lowercase hex) and keep every other character as it is. Integers are written in
decimal and floats in their shortest form (`Layout.json`).
-/
namespace FormatEngine

def JsonNumber.render : JsonNumber → String
  | .natural n => toString n
  | .negative n => toString n
  | .float x =>
    match x.classify with
    | .finite .. => Binary64.shortestText Binary64.Layout.json x
    | _ => "null"

namespace Json

def pushEscaped (acc : String) (c : Char) : String :=
  match c with
  | '"' => acc ++ "\\\""
  | '\\' => acc ++ "\\\\"
  | '\n' => acc ++ "\\n"
  | '\r' => acc ++ "\\r"
  | '\t' => acc ++ "\\t"
  | c =>
    if c.toNat = 8 then acc ++ "\\b"
    else if c.toNat = 12 then acc ++ "\\f"
    else if c.toNat < 32 then
      acc ++ "\\u00" |>.push (Bytes.hexDigit false (c.toNat / 16)) |>.push
        (Bytes.hexDigit false (c.toNat % 16))
    else acc.push c

def pushQuoted (acc : String) (s : String) : String :=
  (s.toList.foldl pushEscaped (acc.push '"')).push '"'

def quote (s : String) : String := pushQuoted "" s

mutual
def pushCompact (acc : String) : Json → String
  | .null => acc ++ "null"
  | .bool b => acc ++ (if b then "true" else "false")
  | .number n => acc ++ n.render
  | .string s => pushQuoted acc s
  | .array xs => (pushCompactItems (acc.push '[') true xs).push ']'
  | .object ms => (pushCompactMembers (acc.push '{') true ms).push '}'

/-- Appends the compact forms of array items, comma-separated. -/
def pushCompactItems (acc : String) (first : Bool) : List Json → String
  | [] => acc
  | x :: xs => pushCompactItems (pushCompact (if first then acc else acc.push ',') x) false xs

/-- Appends the compact forms of object members, comma-separated. -/
def pushCompactMembers (acc : String) (first : Bool) : List (String × Json) → String
  | [] => acc
  | (k, v) :: ms =>
    pushCompactMembers (pushCompact ((pushQuoted (if first then acc else acc.push ',') k).push ':') v)
      false ms
end

def compact (j : Json) : String := pushCompact "" j

/-- Appends a newline and the indentation of a level. -/
def pushIndent (acc : String) (level : Nat) : String :=
  (List.replicate (2 * level) ' ').foldl String.push (acc.push '\n')

mutual
/-- Appends the pretty form of a value at an indentation level. -/
def pushPretty (acc : String) (level : Nat) : Json → String
  | .array [] => acc ++ "[]"
  | .object [] => acc ++ "{}"
  | .array xs => (pushIndent (pushPrettyItems (acc.push '[') level true xs) level).push ']'
  | .object ms => (pushIndent (pushPrettyMembers (acc.push '{') level true ms) level).push '}'
  | j => pushCompact acc j

/-- Appends array items, one per line. -/
def pushPrettyItems (acc : String) (level : Nat) (first : Bool) : List Json → String
  | [] => acc
  | x :: xs =>
    pushPrettyItems (pushPretty (pushIndent (if first then acc else acc.push ',') (level + 1))
      (level + 1) x) level false xs

/-- Appends object members, one per line. -/
def pushPrettyMembers (acc : String) (level : Nat) (first : Bool) :
    List (String × Json) → String
  | [] => acc
  | (k, v) :: ms =>
    pushPrettyMembers (pushPretty
      (pushQuoted (pushIndent (if first then acc else acc.push ',') (level + 1)) k ++ ": ")
      (level + 1) v) level false ms
end

def pretty (j : Json) : String := pushPretty "" 0 j

end Json
end FormatEngine
