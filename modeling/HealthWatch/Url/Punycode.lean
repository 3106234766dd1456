/-!
# Punycode

A label with characters beyond ASCII is written with ASCII letters and digits only: first its ASCII
characters, then the others as differences of code points and places, each a numeral to base
thirty-six whose digits have thresholds that adapt to the sizes so far.
-/

namespace HealthWatch.Url.Punycode

/-- The letter or digit of a number below thirty-six. -/
def digit (n : Nat) : Char := if n < 26 then Char.ofNat (97 + n) else Char.ofNat (22 + n)

/-- The number of a letter or digit. -/
def digitValue? (c : Char) : Option Nat :=
  if 'a' ≤ c ∧ c ≤ 'z' then some (c.toNat - 97)
  else if 'A' ≤ c ∧ c ≤ 'Z' then some (c.toNat - 65)
  else if c.isDigit then some (c.toNat - 22)
  else none

/-- The threshold of the digit whose place is `k`. -/
def threshold (k bias : Nat) : Nat := min 26 (max 1 (k - bias))

/-- A delta reduced to what one numeral of moderate length holds, and the places saved. -/
def shrink (delta k : Nat) : Nat × Nat :=
  if 455 < delta then shrink (delta / 35) (k + 36) else (delta, k)
termination_by delta
decreasing_by exact Nat.div_lt_self (by omega) (by omega)

/-- The bias after a delta, of which `points` characters have been written. -/
def adapt (delta points : Nat) (first : Bool) : Nat :=
  let d := if first then delta / 700 else delta / 2
  let (d, k) := shrink (d + d / points) 0
  k + 36 * d / (d + 38)

/-- The numeral of a delta, from the digit of place `k` on. -/
def numeral (bias : Nat) : Nat → (k q : Nat) → List Char
  | 0, _, _ => []
  | fuel + 1, k, q =>
    let t := threshold k bias
    if q < t then [digit q]
    else digit (t + (q - t) % (36 - t)) :: numeral bias fuel (k + 36) ((q - t) / (36 - t))

/-- What the encoder knows between two characters. -/
structure Coder where
  delta : Nat
  bias : Nat
  done : Nat
  out : List Char

/-- The numerals for the places of the code point `n` in a text, in which `basic` characters were
written first. -/
def writePlaces (basic n : Nat) (s : Coder) (c : Char) : Coder :=
  if c.toNat < n then { s with delta := s.delta + 1 }
  else if c.toNat = n then
    { delta := 0
      bias := adapt s.delta (s.done + 1) (s.done = basic)
      done := s.done + 1
      out := s.out ++ numeral s.bias (s.delta + 1) 36 s.delta }
  else s

/-- The encoding of a label, without the mark that tells encoded labels apart. -/
def encode (cs : List Char) : List Char :=
  let basic := cs.filter (·.toNat < 0x80)
  let points := ((cs.map Char.toNat).filter (0x80 ≤ ·)).mergeSort.eraseDups
  let start : Coder := ⟨0, 72, basic.length, if basic = [] then [] else basic ++ ['-']⟩
  (points.foldl (fun (p : Coder × Nat) n =>
    let s := { p.1 with delta := p.1.delta + (n - p.2) * (p.1.done + 1) }
    let s := cs.foldl (writePlaces basic.length n) s
    ({ s with delta := s.delta + 1 }, n + 1)) (start, 0x80)).1.out

/-- The value of the numeral at the front of a text, from the digit of place `k` on. -/
def readNumeral? (bias : Nat) : (k weight : Nat) → List Char → Option (Nat × List Char)
  | _, _, [] => none
  | k, weight, c :: cs => do
    let d ← digitValue? c
    let t := threshold k bias
    if d < t then some (d * weight, cs)
    else
      let (more, rest) ← readNumeral? bias (k + 36) (weight * (36 - t)) cs
      return (d * weight + more, rest)

/-- The characters of a label after the numerals of a text have been read into it. -/
def readPlaces? (basic : Nat) : Nat → (n i bias : Nat) → (out cs : List Char) → Option (List Char)
  | 0, _, _, _, _, _ => none
  | _ + 1, _, _, _, out, [] => some out
  | fuel + 1, n, i, bias, out, cs => do
    let (delta, rest) ← readNumeral? bias 36 1 cs
    let count := out.length + 1
    let place := i + delta
    let point := n + place / count
    if point < 0xD800 ∨ (0xE000 ≤ point ∧ point < 0x110000) then
      let at' := place % count
      let out' := out.take at' ++ Char.ofNat point :: out.drop at'
      readPlaces? basic fuel point (at' + 1) (adapt delta count (out.length = basic)) out' rest
    else none

def decode? (cs : List Char) : Option (List Char) :=
  let tail := (cs.reverse.takeWhile (· ≠ '-')).reverse
  let head := (cs.take (cs.length - tail.length)).dropLast
  if cs.any (0x80 ≤ ·.toNat) then none
  else readPlaces? head.length (tail.length + 1) 0x80 0 72 head tail

end HealthWatch.Url.Punycode
