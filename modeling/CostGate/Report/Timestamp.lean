import CostGate.Number.Text

/-!
# Timestamps

Moments as seconds since the beginning of 1970 in universal time, and their dates in the
Gregorian calendar.
-/
namespace CostGate

structure Date where
  year : Int
  month : Nat
  day : Nat
  deriving Repr, DecidableEq

namespace Date

/-- The date of a day counted from the first of January 1970. Years are counted from March on, so
that a leap day is the last of its year; four hundred years make one cycle. -/
def ofDay (n : Int) : Date :=
  let shifted := n + 719468
  let cycle := shifted / 146097
  let inCycle := (shifted % 146097).toNat
  let yearInCycle := (inCycle - inCycle / 1460 + inCycle / 36524 - inCycle / 146096) / 365
  let inYear := inCycle - (365 * yearInCycle + yearInCycle / 4 - yearInCycle / 100)
  let month := (5 * inYear + 2) / 153
  let day := inYear - (153 * month + 2) / 5 + 1
  let year : Int := yearInCycle + cycle * 400
  if month < 10 then ⟨year, month + 3, day⟩ else ⟨year + 1, month - 9, day⟩

end Date

/-- Seconds since the beginning of 1970. -/
structure Timestamp where
  seconds : Int
  deriving Repr, DecidableEq

namespace Timestamp

def secondsPerDay : Int := 86400

def date (t : Timestamp) : Date := Date.ofDay (t.seconds / secondsPerDay)

def isValid (t : Timestamp) : Bool := decide ((-262143 : Int) ≤ t.date.year ∧ t.date.year ≤ 262142)

/-- A number with zeros in front up to a width. -/
def padded (width n : Nat) : List Char :=
  let ds := Number.numeral n
  Number.zeros (width - ds.length) ++ ds

/-- A year has four digits; outside of the first ten thousand it has a sign. -/
def yearText (year : Int) : List Char :=
  if 0 ≤ year ∧ year ≤ 9999 then padded 4 year.toNat
  else (if year < 0 then '-' else '+') :: padded 4 year.natAbs

/-- Date and time of day in universal time, to the second. -/
def text (t : Timestamp) : String :=
  let d := t.date
  let s := (t.seconds % secondsPerDay).toNat
  String.ofList (yearText d.year ++ '-' :: padded 2 d.month ++ '-' :: padded 2 d.day ++
    'T' :: padded 2 (s / 3600) ++ ':' :: padded 2 (s / 60 % 60) ++ ':' :: padded 2 (s % 60) ++
    ['Z'])

end Timestamp

end CostGate
