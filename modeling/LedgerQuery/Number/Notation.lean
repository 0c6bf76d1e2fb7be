import LedgerQuery.Number.Shortest

/-!
# Doubles as text

Two ways of writing the shortest digits: `plain`, which never uses an exponent and gives whole
numbers no fraction, and `tabular`, which keeps one digit after the point and turns to an exponent
for very large and very small values.
-/

namespace LedgerQuery.Number

/-- How the digits of a double are laid out. -/
structure FloatStyle where
  tie : Tie
  /-- What follows the digits of a whole number. -/
  wholeTail : String
  /-- Values whose point falls between these two places are written without an exponent. -/
  pointRange : Option (Int × Int)

/-- No exponent, no fraction on whole numbers. -/
def FloatStyle.plain : FloatStyle := ⟨.up, "", none⟩

/-- A fraction on whole numbers; an exponent from `1e16` on and below `1e-5`. -/
def FloatStyle.tabular : FloatStyle := ⟨.even, ".0", some (-4, 16)⟩

namespace Decimal

def positional (wholeTail : String) (d : Decimal) : String :=
  let n : Int := d.digits.length
  if d.point ≤ 0 then
    "0." ++ .ofList (List.replicate (-d.point).toNat '0' ++ d.digits)
  else if n ≤ d.point then
    .ofList (d.digits ++ List.replicate (d.point - n).toNat '0') ++ wholeTail
  else
    .ofList (d.digits.take d.point.toNat) ++ "." ++ .ofList (d.digits.drop d.point.toNat)

/-- One digit before the point, and an exponent. -/
def scientific (d : Decimal) : String :=
  let head := d.digits.take 1
  let rest := d.digits.drop 1
  .ofList head ++ (if rest.isEmpty then "" else "." ++ .ofList rest) ++ "e" ++
    toString (d.point - 1)

end Decimal

def Binary64.render (style : FloatStyle) (x : Binary64) : String :=
  if x.isNaN then "NaN"
  else
    let sign := if x.isNegative then "-" else ""
    if x.isInfinite then sign ++ "inf"
    else if x.isZero then sign ++ "0" ++ style.wholeTail
    else
      let d := x.shortest style.tie
      sign ++ match style.pointRange with
        | none => d.positional style.wholeTail
        | some (first, last) =>
          if first ≤ d.point && d.point ≤ last then d.positional style.wholeTail
          else d.scientific

example : (Binary64.mk 0x3fd5555555555555).render .plain = "0.3333333333333333" := by decide +kernel
example : (Binary64.mk 0x4034800000000000).render .tabular = "20.5" := by decide +kernel
example : (Binary64.mk 0x4034000000000000).render .tabular = "20.0" := by decide +kernel
example : (Binary64.mk 1).render .tabular = "5e-324" := by decide +kernel

end LedgerQuery.Number
