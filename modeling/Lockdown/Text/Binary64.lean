import Lockdown.Text.Elapsed
/-!
Non-negative double-precision numbers as exact values `mantissa * 2 ^ exponent`, rounded from
ratios, and the shortest decimal that rounds back to one. All arithmetic is on natural numbers.
-/
namespace Lockdown.Text

structure Binary64 where
  mantissa : Nat
  exponent : Int
  deriving DecidableEq, Repr, Inhabited

namespace Binary64

def minExponent : Int := -1074

/-- The least mantissa of full precision; mantissas stay below twice this. -/
def leastNormal : Nat := 0x10000000000000

def ratio (v : Binary64) : Nat × Nat :=
  if 0 ≤ v.exponent then (v.mantissa * Nat.pow 2 v.exponent.toNat, 1)
  else (v.mantissa, Nat.pow 2 (-v.exponent).toNat)

/-- The nearest double, a tie to the even mantissa. -/
def ofRatio (num den : Nat) : Binary64 :=
  if num = 0 then ⟨0, minExponent⟩
  else
    let low : Int := (Nat.log2 num : Int) - Nat.log2 den - 53
    let at_ (e : Int) : Nat :=
      if 0 ≤ e then roundDiv num (den * Nat.pow 2 e.toNat)
      else roundDiv (num * Nat.pow 2 (-e).toNat) den
    let floor := num * Nat.pow 2 (max 0 (-low)).toNat / (den * Nat.pow 2 (max 0 low).toNat)
    let e := max minExponent (if floor < 2 * leastNormal then low else low + 1)
    let m := at_ e
    if m = 2 * leastNormal then ⟨leastNormal, e + 1⟩ else ⟨m, e⟩

def ofNat (n : Nat) : Binary64 := ofRatio n 1

def times (a b : Binary64) : Binary64 :=
  ofRatio (a.ratio.1 * b.ratio.1) (a.ratio.2 * b.ratio.2)

/-- Exponents are not bounded above here; a larger one than this means infinity. -/
def maxExponent : Int := 971

def isFinite (v : Binary64) : Bool := v.exponent ≤ maxExponent

/-- The reals that round to a positive double, as two ratios over one denominator with the value
between them; the ends belong to it when the mantissa is even. -/
def interval (v : Binary64) : Nat × Nat × Nat × Nat :=
  let (num, den) := v.ratio
  let unit := if 0 ≤ v.exponent then Nat.pow 2 v.exponent.toNat else 1
  let below := if v.mantissa = leastNormal ∧ minExponent < v.exponent then unit else 2 * unit
  (4 * num - below, 4 * num, 4 * num + 2 * unit, 4 * den)

def magnitude (num den : Nat) : Int :=
  if den ≤ num then ((Nat.toDigits 10 (num / den)).length : Int) - 1
  else -(((List.range 400).find? fun k => den ≤ num * Nat.pow 10 k).getD 0 : Nat)

/-- `digits * 10 ^ place` with `count` digits inside the interval, the nearest one if several and
the upper one of two that are equally near. -/
def withDigits? (v : Binary64) (count : Nat) : Option (Nat × Int) :=
  let (lo, mid, hi, den) := v.interval
  let place : Int := magnitude mid den - count + 1
  let up := Nat.pow 10 (max 0 (-place)).toNat
  let down := den * Nat.pow 10 (max 0 place).toNat
  let inside (d : Nat) : Bool :=
    if v.mantissa % 2 = 0 then lo * up ≤ d * down && d * down ≤ hi * up
    else lo * up < d * down && d * down < hi * up
  let d := mid * up / down
  let nearest := if 2 * (mid * up - d * down) < down then [d, d + 1] else [d + 1, d]
  (nearest.find? inside).map (·, place)

/-- Seventeen digits always suffice. -/
def shortest (v : Binary64) : Nat × Int :=
  ((List.range 17).findSome? fun n => v.withDigits? (n + 1)).getD (0, 0)

def positional (digits : Nat) (place : Int) : String :=
  let ds := Nat.toDigits 10 digits
  if 0 ≤ place then String.ofList (ds ++ List.replicate place.toNat '0')
  else
    let n := (-place).toNat
    let ds := List.replicate (n + 1 - ds.length) '0' ++ ds
    let whole := ds.take (ds.length - n)
    let part := (ds.drop (ds.length - n)).reverse.dropWhile (· = '0')
    if part.isEmpty then String.ofList whole
    else String.ofList (whole ++ '.' :: part.reverse)

def text (v : Binary64) : String :=
  if v.mantissa = 0 then "0" else positional v.shortest.1 v.shortest.2

/-- Seconds of a time span: the part below a second is rounded first, then the sum. -/
def ofNanoseconds (n : Nat) : Binary64 :=
  let (num, den) := (ofRatio (n % 1000000000) 1000000000).ratio
  ofRatio (n / 1000000000 * den + num) den

end Binary64

end Lockdown.Text
