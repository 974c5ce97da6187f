import MediaPaths.Number.Shortest

/-!
# JSON values

Numbers are whole numbers of 64 bits where they fit, and binary64 numbers otherwise. The members of
an object are kept in the order of their names, each name once; a later member takes the place of an
earlier one.
-/

namespace MediaPaths.Json

open Number

/-- Numbers as they are told apart when read. -/
inductive Number where
  /-- A whole number from 0 on. -/
  | natural (n : UInt64)
  /-- The opposite of a positive whole number. -/
  | negative (n : Nat)
  /-- A finite binary64 number, given by its sign and its magnitude in units. -/
  | float (negative : Bool) (units : Nat)
  deriving DecidableEq, Repr, Inhabited

namespace Number

/-- A number written in full. -/
def text : Number → String
  | natural n => toString n.toNat
  | negative n => "-" ++ toString n
  | float neg units =>
    (if neg then "-" else "") ++ String.ofList (Binary64.text units)

end Number

/-- JSON values. -/
inductive Value where
  /-- The value `null`. -/
  | null
  /-- A truth value. -/
  | bool (b : Bool)
  /-- A number. -/
  | number (n : Number)
  /-- A text. -/
  | string (s : String)
  /-- A list of values. -/
  | array (elements : List Value)
  /-- Values under names, in the order of the names. -/
  | object (members : List (String × Value))
  deriving Inhabited

/-- The members of an object. -/
abbrev Members := List (String × Value)

namespace Members

/-- Puts a value under a name, in the place of the value that was there. -/
def insert (name : String) (v : Value) : Members → Members
  | [] => [(name, v)]
  | (k, w) :: rest =>
    if name < k then (name, v) :: (k, w) :: rest
    else if name == k then (name, v) :: rest
    else (k, w) :: insert name v rest

/-- The members of a list, of which later ones win. -/
def ofList (ms : List (String × Value)) : Members :=
  ms.foldl (fun acc m => insert m.1 m.2 acc) []

/-- The members of both, of which those of the second win. -/
def overlay (base top : Members) : Members :=
  top.foldl (fun acc m => insert m.1 m.2 acc) base

/-- The value under a name. -/
def get? (ms : Members) (name : String) : Option Value :=
  (ms.find? (·.1 == name)).map (·.2)

theorem get?_insert (ms : Members) (k name : String) (v : Value) :
    (insert k v ms).get? name = if name = k then some v else ms.get? name := by
  induction ms with
  | nil =>
    by_cases h : name = k
    · simp [insert, get?, h]
    · simp [insert, get?, h, Ne.symm h]
  | cons m rest ih =>
    obtain ⟨j, w⟩ := m
    simp only [insert]
    split
    · by_cases h : name = k
      · simp [get?, h]
      · simp [get?, h, Ne.symm h]
    · split
      · rename_i hj
        have hj : k = j := by simpa using hj
        subst hj
        by_cases h : name = k
        · simp [get?, h]
        · simp [get?, h, Ne.symm h]
      · rename_i hlt hne
        have hne : k ≠ j := by simpa using hne
        by_cases hj : j = name
        · subst hj
          simp [get?, hne.symm]
        · have hj' : (j == name) = false := by simp [hj]
          have e₁ : get? ((j, w) :: insert k v rest) name = get? (insert k v rest) name := by
            simp [get?, hj']
          have e₂ : get? ((j, w) :: rest) name = get? rest name := by
            simp [get?, hj']
          rw [e₁, e₂, ih]

end Members

namespace Value

/-- The natural number `n`, which fits into 64 bits. -/
def ofNat (n : Nat) : Value := number (.natural n.toUInt64)

end Value

end MediaPaths.Json
