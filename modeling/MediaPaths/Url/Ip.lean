import MediaPaths.Url.Error
import MediaPaths.Url.Percent

/-!
# IP addresses as hosts

An IPv4 address is written as up to four numbers, each decimal, octal or hexadecimal, of which the
last fills all bytes that are left. An IPv6 address is written as pieces of 16 bits; one run of zero
pieces may be left out, and the last two pieces may be written as an IPv4 address.
-/

namespace MediaPaths.Url

/-- Splits a text at every occurrence of a character. A text may be given by its code points too. -/
def splitOn {α : Type} [BEq α] (sep : α) : List α → List (List α)
  | [] => [[]]
  | c :: s =>
    if c == sep then [] :: splitOn sep s
    else
      match splitOn sep s with
      | [] => [[c]]
      | part :: parts => (c :: part) :: parts

/-- The number that digits of a base spell. -/
def numeral? (base : Nat) (s : List Char) : Option Nat :=
  s.foldlM (fun n c =>
    match hexValue? c with
    | some d => if d < base then some (n * base + d) else none
    | none => none) 0

/-! ## IPv4 -/

/-- One part of an IPv4 address: hexadecimal after `0x`, octal after `0`, decimal otherwise. -/
def ipv4Part? : List Char → Option Nat
  | [] => none
  | '0' :: 'x' :: s => numeral? 16 s
  | '0' :: 'X' :: s => numeral? 16 s
  | '0' :: c :: s => numeral? 8 (c :: s)
  | s => numeral? 10 s

/-- The last label of a host; an empty one after the last dot does not count. -/
def lastLabel (host : List Char) : List Char :=
  match (splitOn '.' host).reverse with
  | [] => []
  | [] :: rest => rest.headD []
  | last :: _ => last

/-- Whether a host has to be an IPv4 address: its last label is a number. -/
def endsInNumber (host : List Char) : Bool :=
  let last := lastLabel host
  (!last.isEmpty && last.all Char.isDigit) || (ipv4Part? last).isSome

/-- The parts of a host, without an empty one at the end. -/
def ipv4Parts (host : List Char) : List (List Char) :=
  let parts := splitOn '.' host
  if parts.getLast? == some [] then parts.dropLast else parts

/-- Reads an IPv4 address. -/
def ipv4? (host : List Char) : Option Nat := do
  let numbers ← (ipv4Parts host).mapM ipv4Part?
  let last ← numbers.getLast?
  let bytes := numbers.dropLast
  if 3 < bytes.length || bytes.any (255 < ·) || Nat.pow 256 (4 - bytes.length) ≤ last then none
  else
    let high := bytes.foldl (fun n b => n * 256 + b) 0
    some (high * Nat.pow 256 (4 - bytes.length) + last)

/-- An IPv4 address as four decimal numbers. -/
def writeIpv4 (n : Nat) : List Char :=
  let byte (i : Nat) : List Char := Nat.toDigits 10 (n / Nat.pow 256 i % 256)
  byte 3 ++ '.' :: byte 2 ++ '.' :: byte 1 ++ '.' :: byte 0

/-! ## IPv6 -/

/-- One decimal byte without leading zeros. -/
def decimalByte? (s : List Char) : Option Nat :=
  match s with
  | ['0'] => some 0
  | '0' :: _ => none
  | [] => none
  | _ => do
    let n ← numeral? 10 s
    if n < 256 then some n else none

/-- The two pieces that a trailing IPv4 address stands for. -/
def ipv4Pieces? (s : List Char) : Option (List Nat) := do
  match ← (splitOn '.' s).mapM decimalByte? with
  | [a, b, c, d] => some [a * 256 + b, c * 256 + d]
  | _ => none

/-- One piece of up to four hexadecimal digits. -/
def piece? (s : List Char) : Option Nat :=
  if s.isEmpty || 4 < s.length then none else numeral? 16 s

/-- Pieces separated by colons; the last may be an IPv4 address. -/
def pieces? : List (List Char) → Option (List Nat)
  | [] => some []
  | [s] => if s.contains '.' then ipv4Pieces? s else (piece? s).map fun n => [n]
  | s :: rest => do
    let n ← piece? s
    let more ← pieces? rest
    some (n :: more)

/-- The pieces of a side of the gap; an empty side has none. -/
def side? (s : List Char) : Option (List Nat) :=
  if s.isEmpty then some [] else pieces? (splitOn ':' s)

/-- Splits a text at the first gap, two colons. -/
def splitGap? : List Char → Option (List Char × List Char)
  | ':' :: ':' :: s => some ([], s)
  | [] => none
  | c :: s => (splitGap? s).map fun (a, b) => (c :: a, b)

/-- Reads an IPv6 address: eight pieces, or fewer around a gap. Before a gap there is no IPv4
address. -/
def ipv6? (s : List Char) : Option (List Nat) :=
  match splitGap? s with
  | none => do
    let ps ← pieces? (splitOn ':' s)
    if ps.length = 8 then some ps else none
  | some (before, after) => do
    if before.contains '.' then none
    let front ← side? before
    let back ← side? after
    if front.length + back.length < 8 then
      some (front ++ List.replicate (8 - front.length - back.length) 0 ++ back)
    else none

/-- The length of the run of zeros at the front. -/
def zeroRun (ps : List Nat) : Nat := (ps.takeWhile (· == 0)).length

/-- The longest run of at least two zero pieces, the first of several: its start and length. -/
def longestRun? (ps : List Nat) : Option (Nat × Nat) :=
  let runs := (List.range ps.length).map fun i => (i, zeroRun (ps.drop i))
  let best := runs.foldl (fun best run => if best.2 < run.2 then run else best) (0, 0)
  if best.2 < 2 then none else some best

/-- Pieces in hexadecimal digits, separated by colons. -/
def joinPieces (ps : List Nat) : List Char := [':'].intercalate (ps.map (Nat.toDigits 16))

/-- An IPv6 address in brackets. -/
def writeIpv6 (ps : List Nat) : List Char :=
  match longestRun? ps with
  | none => '[' :: joinPieces ps ++ [']']
  | some (start, length) =>
    '[' :: joinPieces (ps.take start) ++ ':' :: ':' :: joinPieces (ps.drop (start + length)) ++ [']']

end MediaPaths.Url
