/-!
# White space

The characters with the Unicode property `White_Space`, and the text left when they are taken off
both ends. `trim_eq_self` says that nothing else is ever taken.
-/

namespace MediaPaths.Text

/-- Whether a character has the Unicode property `White_Space`. -/
def isBlank (c : Char) : Bool :=
  let n := c.toNat
  (0x9 ≤ n && n ≤ 0xD) || n == 0x20 || n == 0x85 || n == 0xA0 || n == 0x1680 ||
    (0x2000 ≤ n && n ≤ 0x200A) || n == 0x2028 || n == 0x2029 || n == 0x202F || n == 0x205F ||
    n == 0x3000

/-- The text without the white space at its end. -/
def trimEnd (s : List Char) : List Char :=
  (s.reverse.dropWhile isBlank).reverse

/-- The text without the white space at either end. -/
def trim (s : List Char) : List Char :=
  trimEnd (s.dropWhile isBlank)

theorem trimEnd_eq_self {s : List Char} (h : ∀ c, s.getLast? = some c → isBlank c = false) :
    trimEnd s = s := by
  unfold trimEnd
  cases hr : s.reverse with
  | nil => simp_all
  | cons c r =>
    have hl : s.getLast? = some c := by simp [List.getLast?_eq_head?_reverse, hr]
    rw [List.dropWhile_cons_of_neg (by simp [h c hl]), ← hr, List.reverse_reverse]

/-- A text that neither begins nor ends in white space is left as it is. -/
theorem trim_eq_self {s : List Char} (hd : ∀ c, s.head? = some c → isBlank c = false)
    (hl : ∀ c, s.getLast? = some c → isBlank c = false) : trim s = s := by
  unfold trim
  cases s with
  | nil => rfl
  | cons c r => simp [hd c rfl, trimEnd_eq_self hl]

end MediaPaths.Text
