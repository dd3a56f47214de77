import CitationFusion.Clock
import CitationFusion.Decimal.Layout
import CitationFusion.Text.Ascii

/-!
# Replacing the time in the text of a response

A response that was kept is served as the text that it is, with a new time in it. The time is
found by what stands before it: of all places that look like the time, the last one is taken,
and it gets the new number. Every other octet stays.
-/

namespace CitationFusion.Took

open Ascii

/-- What stands before the time: `"extra":{"took":`. -/
def marker : Bytes :=
  [0x22, 0x65, 0x78, 0x74, 0x72, 0x61, 0x22, 0x3A, 0x7B, 0x22, 0x74, 0x6F, 0x6F, 0x6B, 0x22, 0x3A]

/-- How many digits a text begins with. -/
def countDigits (bs : Bytes) : Nat := (bs.takeWhile isDigit).length

/-- The length of the exponent part at the head of a text, if there is one. -/
def exponentLength (bs : Bytes) : Nat :=
  match bs with
  | [] => 0
  | e :: r =>
    if e == 0x65 || e == 0x45 then
      let sign := match r with
        | [] => 0
        | s :: _ => if s == plus || s == minus then 1 else 0
      let digits := countDigits (r.drop sign)
      if digits == 0 then 0 else 1 + sign + digits
    else 0

/-- The length of the fraction at the head of a text, if there is one. -/
def fractionLength (bs : Bytes) : Nat :=
  match bs with
  | [] => 0
  | p :: r =>
    let digits := countDigits r
    if p == point && digits != 0 then 1 + digits else 0

/-- The length of the longest number at the head of a text: an optional minus, digits, an
    optional fraction and an optional exponent part. -/
def numberLength? (bs : Bytes) : Option Nat :=
  let sign := match bs with
    | [] => 0
    | s :: _ => if s == minus then 1 else 0
  let whole := countDigits (bs.drop sign)
  if whole == 0 then none
  else
    let fraction := fractionLength (bs.drop (sign + whole))
    some (sign + whole + fraction + exponentLength (bs.drop (sign + whole + fraction)))

/-- The length of the marker and the number behind it at the head of a text. -/
def matchLength? (bs : Bytes) : Option Nat :=
  if marker.isPrefixOf bs then
    (numberLength? (bs.drop marker.length)).map (marker.length + ·)
  else none

/-- The last place that looks like the time: how many octets stand before it, and how many it
    takes. Places are looked for from the front and do not overlap: `skip` octets belong to the
    last one found, `passed` octets were passed. -/
def lastMatch (found : Option (Nat × Nat)) (skip passed : Nat) (bs : Bytes) :
    Option (Nat × Nat) :=
  match bs with
  | [] => found
  | b :: r =>
    match skip with
    | skip + 1 => lastMatch found skip (passed + 1) r
    | 0 =>
      match matchLength? (b :: r) with
      | some n => lastMatch (some (passed, n)) (n - 1) (passed + 1) r
      | none => lastMatch found 0 (passed + 1) r

/-- The text of a time in seconds, without an exponent. -/
def print (d : Duration) : Bytes := octets (Layout.plain.write d.seconds)

/-- The text with the given time; `none` when it has no place for one. -/
def patch? (body : Bytes) (d : Duration) : Option Bytes :=
  (lastMatch none 0 0 body).map fun (start, length) =>
    body.take start ++ (marker ++ print d) ++ body.drop (start + length)

/-- The text with the given time, if it has a place for one. -/
def patch (body : Bytes) (d : Duration) : Bytes := (patch? body d).getD body

end CitationFusion.Took
