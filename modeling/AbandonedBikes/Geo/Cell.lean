import AbandonedBikes.Geo.Point
import AbandonedBikes.Number.Binary64
import AbandonedBikes.Number.Positional
/-!
# Geohash cells

The earth is cut into cells by halving latitudes and longitudes in turn. A cell is named by the
bits of these choices, longitude first, five to a letter. Reports are filed one at a time within a
cell and its eight neighbours, so that two reports near enough to match each other never race.
-/

namespace AbandonedBikes.Cell

/-- The letters for five bits. -/
def alphabet : List Char := "0123456789bcdefghjkmnpqrstuvwxyz".toList

def letter (bits : Nat) : Char := alphabet.getD bits '0'

def letterBits (c : Char) : Nat := alphabet.idxOf c

/-- The first 32 binary digits of a number in `[1, 2)`, after the point. -/
def fractionBits (x : Float) : Nat := (x.toBits.toNat / Nat.pow 2 20) % Nat.pow 2 32

/-- Bits of two numbers in turn, the first number in the higher places. -/
def interleave : Nat → Nat → Nat → Nat
  | 0, _, _ => 0
  | count + 1, high, low =>
    interleave count (high / 2) (low / 2) * 4 + high % 2 * 2 + low % 2

/-- Every second bit of a number, from the lowest. -/
def everySecond : Nat → Nat → Nat
  | 0, _ => 0
  | count + 1, word => everySecond count (word / 4) * 2 + word % 2

/-- The top `count` groups of five bits of a word of 64 bits. -/
def topGroups (count word : Nat) : List Nat :=
  (List.range count).map fun i => word / Nat.pow 2 (59 - 5 * i) % 32

/-- Whether a place has coordinates on the earth. -/
def onEarth (point : Point) : Bool :=
  decide (-180.0 ≤ point.lng) && decide (point.lng ≤ 180.0) &&
    decide (-90.0 ≤ point.lat) && decide (point.lat ≤ 90.0)

/-- The name of the cell of a place, with one to twelve letters. -/
def encode? (point : Point) (length : Nat) : Option String :=
  if onEarth point ∧ 1 ≤ length ∧ length ≤ 12 then
    let lat := fractionBits (point.lat * 0.005555555555555556 + 1.5)
    let lng := fractionBits (point.lng * 0.002777777777777778 + 1.5)
    some (String.ofList ((topGroups length (interleave 32 lng lat)).map letter))
  else none

/-- The low end of the interval of `[-range, range)` that 32 binary digits select. -/
def lowEnd (range : Float) (bits : Nat) : Float :=
  let position := Float.ofBits (UInt64.ofNat (0x3ff0000000000000 + bits * Nat.pow 2 20))
  2.0 * range * (position - 1.0) - range

/-- The middle of a cell, and half of its height and width. -/
structure Box where
  center : Point
  halfHeight : Float
  halfWidth : Float

/-- The cell of a name. -/
def decode (name : String) : Box :=
  let bits := 5 * name.length
  let word := name.toList.foldl (fun word c => word * 32 + letterBits c) 0 * Nat.pow 2 (64 - bits)
  let minLat := lowEnd 90.0 (everySecond 32 word)
  let minLng := lowEnd 180.0 (everySecond 32 (word / 2))
  let maxLat := minLat + Binary64.halve 180.0 (bits / 2)
  let maxLng := minLng + Binary64.halve 360.0 (bits - bits / 2)
  { center := ⟨(minLat + maxLat) / 2.0, (minLng + maxLng) / 2.0⟩
    halfHeight := (maxLat - minLat) / 2.0
    halfWidth := (maxLng - minLng) / 2.0 }

/-- The name of the cell so many cells to the north and to the east. Going over a pole or over the
meridian of 180 degrees leads to the other side of the map. -/
def neighbour? (name : String) (north east : Float) : Option String :=
  let box := decode name
  let lng := box.center.lng + 2.0 * box.halfWidth * east
  let lat := box.center.lat + 2.0 * box.halfHeight * north
  encode? ⟨Binary64.wrapOnce (lat + 90.0) 180.0 - 90.0, Binary64.wrapOnce (lng + 180.0) 360.0 - 180.0⟩
    name.length

/-- The directions to the neighbours, clockwise from the north. -/
def directions : List (Float × Float) :=
  [(1, 0), (1, 1), (0, 1), (-1, 1), (-1, 0), (-1, -1), (0, -1), (1, -1)]

/-- Why a place has no cells. -/
inductive Error where
  | unencodable (point : Point)
  | noNeighbours (cell : String)

def Error.message : Error → String
  | .unencodable point =>
    "geohash encode failed for (" ++ Positional.text point.lat ++ ", " ++
      Positional.text point.lng ++ ")"
  | .noNeighbours cell => "geohash neighbours failed for " ++ cell

/-- The cell of a place and its eight neighbours, clockwise from the north. -/
def neighbourhood (point : Point) (length : Nat) : Except Error (List String) :=
  match encode? point length with
  | none => .error (.unencodable point)
  | some cell =>
    match directions.mapM fun (north, east) => neighbour? cell north east with
    | none => .error (.noNeighbours cell)
    | some neighbours => .ok (cell :: neighbours)

end AbandonedBikes.Cell
