import FormatEngine.Fixed
/-!
# Formatting configuration

A configuration says whether field widths are applied, how fixed-point texts write their
fraction, how many places they have, and how large a scratch slice each call takes from the
arena. Policies are read loosely from text: ASCII letters are lowercased, a few spellings are
known, and any other text gives the default. A valid configuration has at most 9 places and a
scratch slice of at least 24 bytes, which every converter's text fits.
-/
namespace FormatEngine

/-- Whether field widths and flags are applied. -/
inductive WidthPolicy where
  | apply
  | ignore
deriving DecidableEq, Inhabited

namespace WidthPolicy

/-- Reads a policy: `apply`, `pad`, `on` apply; `ignore`, `off`, `reference`, `none` ignore;
any other text applies. -/
def ofText (s : String) : WidthPolicy :=
  match s.toList.map Char.toLower with
  | ['i', 'g', 'n', 'o', 'r', 'e'] | ['o', 'f', 'f'] | ['n', 'o', 'n', 'e']
  | ['r', 'e', 'f', 'e', 'r', 'e', 'n', 'c', 'e'] => .ignore
  | _ => .apply

/-- Whether the policy pads fields to their width. -/
def pads : WidthPolicy → Bool
  | .apply => true
  | .ignore => false

def name : WidthPolicy → String
  | .apply => "apply"
  | .ignore => "ignore"

end WidthPolicy

namespace FloatStyle

/-- Reads a style: `padded`, `pad`, `fixed`, `zero` are padded; any other text is the
reference style. -/
def ofText (s : String) : FloatStyle :=
  match s.toList.map Char.toLower with
  | ['p', 'a', 'd', 'd', 'e', 'd'] | ['p', 'a', 'd'] | ['f', 'i', 'x', 'e', 'd']
  | ['z', 'e', 'r', 'o'] => .padded
  | _ => .reference

def name : FloatStyle → String
  | .reference => "reference"
  | .padded => "padded"

end FloatStyle

inductive ConfigError where
  | precisionTooLarge (requested max : Nat)
  | scratchTooSmall (requested min : Nat)
deriving DecidableEq, Inhabited

def ConfigError.message : ConfigError → String
  | .precisionTooLarge p m => s!"float precision {p} exceeds the maximum of {m}"
  | .scratchTooSmall s m => s!"scratch size {s} is below the minimum of {m} bytes"

/-- How a formatting call lays out its output. -/
structure FormatConfig where
  width : WidthPolicy := .apply
  floatStyle : FloatStyle := .reference
  precision : Nat := 6
  scratchSize : Nat := 100
deriving DecidableEq, Inhabited

namespace FormatConfig

/-- The smallest scratch slice a valid configuration takes. -/
def minScratch : Nat := 24

/-- Checks the precision first, then the scratch size. -/
def validate (c : FormatConfig) : Except ConfigError Unit :=
  if Fixed.maxPrecision < c.precision then .error (.precisionTooLarge c.precision Fixed.maxPrecision)
  else if c.scratchSize < minScratch then .error (.scratchTooSmall c.scratchSize minScratch)
  else .ok ()

/-- Sets the precision, then validates the whole configuration. -/
def withPrecision (c : FormatConfig) (p : Nat) : Except ConfigError FormatConfig :=
  let c := { c with precision := p }
  c.validate.map fun _ => c

/-- Sets the scratch size, then validates the whole configuration. -/
def withScratchSize (c : FormatConfig) (s : Nat) : Except ConfigError FormatConfig :=
  let c := { c with scratchSize := s }
  c.validate.map fun _ => c

/-- The defaults with the policies of the environment's two variables, each read loosely; an
unset variable reads as the empty text. -/
def ofEnvironment (width style : Option String) : FormatConfig :=
  { width := WidthPolicy.ofText (width.getD ""), floatStyle := FloatStyle.ofText (style.getD "") }

end FormatConfig
end FormatEngine
