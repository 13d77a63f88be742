/-
# JSON values

The values that a JSON text denotes. Objects keep their members in writing order, repeated keys
included, because a reader of documents has to notice a key that is written twice. Numbers keep
the parts they are written with, so that an integer is told from a fraction of the same size.
-/

namespace MarkupAudit

/-- A number as it is written: sign, whole part, digits after the point, power of ten. -/
structure Numeral where
  negative : Bool
  whole : Nat
  /-- The digits after the point; none if there is no point. -/
  fraction : List Char
  /-- The written power of ten, if there is one. -/
  exponent : Option Int
  deriving Repr, DecidableEq, Inhabited

/-- A JSON value. -/
inductive Json where
  | null
  | bool (value : Bool)
  | number (numeral : Numeral)
  | string (text : String)
  | array (items : List Json)
  | object (members : List (String × Json))
  deriving Repr, Inhabited

namespace Numeral

/-- The numeral of a natural number. -/
def ofNat (n : Nat) : Numeral := ⟨false, n, [], none⟩

/-- The natural number below 2^64 that is written without sign, point and power of ten. -/
def natural? (numeral : Numeral) : Option Nat :=
  if numeral.negative || !numeral.fraction.isEmpty || numeral.exponent.isSome then none
  else if numeral.whole < Nat.pow 2 64 then some numeral.whole
  else none

theorem natural?_ofNat {n : Nat} (small : n < Nat.pow 2 64) : (ofNat n).natural? = some n :=
  if_pos small

end Numeral

namespace Json

/-- A natural number as a value. -/
def natural (n : Nat) : Json := .number (.ofNat n)

/-- A value that may be absent; absence is written as null. -/
def optional {α : Type} (encode : α → Json) : Option α → Json
  | none => .null
  | some a => encode a

end Json

end MarkupAudit
