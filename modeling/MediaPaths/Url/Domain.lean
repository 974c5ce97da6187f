import MediaPaths.Unicode.Direction
import MediaPaths.Unicode.DomainMapping
import MediaPaths.Unicode.Normal
import MediaPaths.Unicode.Property
import MediaPaths.Url.Punycode

/-!
# Domain names

A domain name is brought to one form: letters in lower case, characters beyond ASCII replaced as the
rules for international names say, and labels with such characters written in Punycode behind `xn--`.
Labels that come in Punycode have to be what would be written.
-/

namespace MediaPaths.Url.Domain

open Unicode CodeSet

/-- Whether an ASCII character is forbidden in domain names. -/
def isForbidden (c : Char) : Bool :=
  c.toNat ≤ 0x20 || c.toNat == 0x7F ||
    ['%', '#', '/', ':', '<', '>', '?', '@', '[', '\\', ']', '^', '|'].contains c

/-! ## Mapping -/

/-- Whether a mapping such as `100/17=101` is about a code point, and what it is mapped to then. -/
def applyRun? (n : Nat) (run : String) : Option (List Nat) :=
  match run.splitOn "=" with
  | [source, target] =>
    let target := (target.splitOn "-").map hexNumber
    let shifted (first count step : Nat) : Option (List Nat) :=
      if first ≤ n ∧ n ≤ first + count * step ∧ (n - first) % step = 0 then
        some (target.map (· + (n - first)))
      else none
    match source.splitOn "+", source.splitOn "/" with
    | [first, count], _ => shifted (hexNumber first) (hexNumber count) 1
    | _, [first, count] => shifted (hexNumber first) (hexNumber count) 2
    | _, _ => shifted (hexNumber source) 0 1
  | _ => none

/-- The characters that a character beyond ASCII is replaced by, unless it is not allowed. -/
def mapWide? (n : Nat) : Option (List Nat) :=
  if inRanges n (decode domainDisallowed).ranges then none
  else if inRanges n (decode domainIgnored).ranges then some []
  else some (((words domainMappings).findSome? (applyRun? n)).getD [n])

/-- The characters that a character is replaced by, unless it is not allowed. -/
def map? (c : Char) : Option (List Nat) :=
  if c.toNat < 0x80 then some [c.toLower.toNat] else mapWide? c.toNat

/-- Whether a code point may stand in a domain name as far as ASCII is concerned. Letters are in lower
case by then. -/
def isAllowed (n : Nat) : Bool :=
  0x80 ≤ n || !(isForbidden (Char.ofNat n) || (Char.ofNat n).isUpper)

/-- Whether a character stays as it is. -/
def isStable (n : Nat) : Bool := mapWide? n == some [n]

/-! ## Labels -/

/-- The bidirectional class of a code point. -/
def bidiClass (n : Nat) : String :=
  ((bidiClasses.find? fun row => inRanges n (decode row.2).ranges).map (·.1)).getD "l"

/-- The joining type of a code point. -/
def joiningType (n : Nat) : String :=
  ((joiningTypes.find? fun row => inRanges n (decode row.2).ranges).map (·.1)).getD "u"

/-- Whether the joiner `n` between the characters before it, given from the last, and after it is in
order: it follows a sign that takes a vowel away, or stands between letters that join. -/
def joinerFits (n : Nat) (before after : List Nat) : Bool :=
  let virama := (before.head?.map combiningClass) == some 9
  let outward (ns : List Nat) : Option String := (ns.map joiningType).find? (· != "t")
  let left := outward before
  let right := outward after
  virama || (n == 0x200C && (left == some "l" || left == some "d") &&
    (right == some "r" || right == some "d"))

/-- Whether all joiners of a label are in order. -/
def joinersFit : (before : List Nat) → List Nat → Bool
  | _, [] => true
  | before, n :: after =>
    (if n == 0x200C || n == 0x200D then joinerFits n before after else true) &&
      joinersFit (n :: before) after

/-- Whether a label may be written in Punycode: it begins with no mark and its joiners are in
order. -/
def isSound (label : List Nat) : Bool :=
  !(label.head?.any fun n => inRanges n (categorySet "m").ranges) && joinersFit [] label

/-- Whether a label runs in one direction: it begins with a letter, has no characters of the other
direction, ends in a letter or a digit, and does not mix two kinds of digits. -/
def isDirected (label : List Nat) : Bool :=
  let classes := label.map bidiClass
  let last := (classes.reverse.dropWhile (· == "nsm")).head?.getD ""
  let neutral := ["es", "cs", "et", "on", "bn", "nsm"]
  match classes with
  | [] => true
  | "l" :: _ => classes.all (("l" :: "en" :: neutral).contains ·) && ["l", "en"].contains last
  | c :: _ =>
    (c == "r" || c == "al") &&
      classes.all (("r" :: "al" :: "an" :: "en" :: neutral).contains ·) &&
      ["r", "al", "en", "an"].contains last && !(classes.contains "en" && classes.contains "an")

/-- A label as it was meant: a label behind `xn--` is read. -/
def readLabel? (label : List Nat) : Option (List Nat) :=
  let s := label.map Char.ofNat
  match s with
  | 'x' :: 'n' :: '-' :: '-' :: code =>
    if label.any (0x80 ≤ ·) then none
    else
      match Punycode.decode? code with
      | none => none
      | some ns =>
        if ns.all (· < 0x80) || normalize ns != ns || !ns.all stays || !isSound ns then none
        else some ns
  | _ => if label.all (· < 0x80) || isSound label then some label else none
where
  /-- Whether a character may stand in a label that comes in Punycode. -/
  stays (n : Nat) : Bool := if n < 0x80 then isAllowed n && n != '.'.toNat else isStable n

/-- A label in ASCII. -/
def writeLabel (label : List Nat) : List Char :=
  if label.all (· < 0x80) then label.map Char.ofNat
  else ['x', 'n', '-', '-'] ++ Punycode.encode label

/-- Splits code points at the dots. -/
def labels (ns : List Nat) : List (List Nat) := splitOn '.'.toNat ns

/-- The code points of a domain name once its characters have been replaced and put together, if all
of them may stand in it. -/
def prepare? (host : List Char) : Option (List Nat) := do
  let mapped ← host.mapM map?
  let ns := if mapped.flatten.all (· < 0x80) then mapped.flatten else normalize mapped.flatten
  if ns.all isAllowed then some ns else none

/-- The one form of a domain name, if it is one. -/
def toAscii? (host : List Char) : Option (List Char) := do
  let ns ← prepare? host
  let meant ← (labels ns).mapM readLabel?
  let rightward := meant.any fun l => l.any fun n =>
    0x80 ≤ n && ["r", "al", "an"].contains (bidiClass n)
  if rightward && !meant.all isDirected then none
  else some (['.'].intercalate (meant.map writeLabel))

end MediaPaths.Url.Domain
