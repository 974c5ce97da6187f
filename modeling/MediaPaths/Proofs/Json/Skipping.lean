import MediaPaths.Proofs.Json.Reading

/-!
# Passing over takes one value

What is passed over is spelled as the grammar says too. The text that is left to pass over closes the arrays
and objects that are open, the innermost first.
-/

namespace MediaPaths.Json

variable {α : Type} {P : α → List Char → Prop} {b cs rest u v : List Char} {f : Enclosing} {fuel : Nat}
  {step : SkipStep} {stack : List Enclosing}

/-! ## Numbers and names -/

theorem skipExponent_sound (h : skipExponent cs = .ok rest) : Runs cs rest := by
  have hdigits : ∀ {ds : List Char}, (if (ds.takeWhile Char.isDigit).isEmpty then .error .invalidNumber
      else .ok (ds.dropWhile Char.isDigit)) = (.ok rest : Except Error (List Char)) → Runs ds rest := by
    intro ds h
    split at h <;> cases h
    exact runs_digits ds
  unfold skipExponent at h
  dsimp only at h
  split at h
  · exact .cons (by decide) (hdigits h)
  · exact .cons (by decide) (hdigits h)
  · exact hdigits h

theorem skipOptionalExponent_sound (h : skipOptionalExponent cs = .ok rest) : Runs cs rest := by
  unfold skipOptionalExponent at h
  split at h
  · split at h
    · rename_i c cs hc
      refine .cons ?_ (skipExponent_sound h)
      simp only [Bool.or_eq_true, beq_iff_eq] at hc
      rcases hc with rfl | rfl <;> decide
    · cases h
      exact .refl _
  · cases h
    exact .refl _

theorem skipNumber_sound (h : skipNumber cs = .ok rest) : Runs (cs.dropWhile Char.isDigit) rest := by
  unfold skipNumber at h
  dsimp only at h
  generalize cs.dropWhile Char.isDigit = after at h
  split at h
  · cases h
  · split at h
    · cases h
    · split at h
      · split at h
        · cases h
        · exact .cons (by decide) ((runs_digits _).trans (skipOptionalExponent_sound h))
      · exact skipOptionalExponent_sound h

theorem skipName_sound (h : skipName cs = .ok rest) :
    ∃ b raw c, cs = b ++ '"' :: raw ++ '"' :: c ++ ':' :: rest ∧ Blank b ∧ Quoted raw ∧ Blank c := by
  obtain ⟨b, hb, heq⟩ := exists_blank cs
  unfold skipName at h
  split at h
  · cases h
  · rename_i hquote
    split at h
    · cases h
    · rename_i r hr
      obtain ⟨raw, rfl, hraw⟩ := skipString_sound hr
      obtain ⟨c, hc, heq'⟩ := exists_blank r
      split at h
      · cases h
      · rename_i hcolon
        cases h
        rw [hcolon] at heq'
        exact ⟨b, raw, c, by rw [heq, hquote, heq']; simp, hb, hraw, hc⟩
      · cases h
  · cases h

/-! ## What is open -/

namespace Enclosing

/-- The character that opens it. -/
def opening : Enclosing → Char
  | array => '['
  | object => '\x7b'

/-- The character that closes it. -/
def closing : Enclosing → Char
  | array => ']'
  | object => '\x7d'

/-- An element or a member. -/
def Item : Enclosing → List Char → Prop
  | array => IsValue
  | object => fun v => ∃ m, Labelled Spells m v

/-- Elements or members. -/
def Items (f : Enclosing) (v : List Char) : Prop :=
  ∃ us : List Unit, Series (fun _ => f.Item) us v

/-- What stands between what opens and what closes it. -/
def Inside (f : Enclosing) (v : List Char) : Prop := Blank v ∨ f.Items v

/-- What stands between an element or a member and what closes it. -/
def After (f : Enclosing) (v : List Char) : Prop :=
  Blank v ∨ ∃ c w, v = c ++ ',' :: w ∧ Blank c ∧ f.Items w

theorem Items.blank_append (hb : Blank b) (h : f.Items v) : f.Items (b ++ v) := by
  obtain ⟨us, h⟩ := h
  exact ⟨us, h.blank_append hb⟩

theorem items_of_after (hb : Blank b) (hu : f.Item u) (h : f.After v) : f.Items (b ++ u ++ v) := by
  rcases h with hv | ⟨c, w, rfl, hc, us, hw⟩
  · exact ⟨[()], .one hb hu hv⟩
  · refine ⟨() :: us, ?_⟩
    rw [← List.append_assoc]
    exact .cons hb hu hc hw

end Enclosing

theorem Series.choose {us : List Unit} (h : Series (fun _ v => ∃ a, P a v) us v) : ∃ as, Series P as v := by
  induction h with
  | one hb h hc =>
    obtain ⟨a, ha⟩ := h
    exact ⟨_, .one hb ha hc⟩
  | cons hb h hc _ ih =>
    obtain ⟨a, ha⟩ := h
    obtain ⟨as, has⟩ := ih
    exact ⟨_, .cons hb ha hc has⟩

theorem isValue_of_inside (h : f.Inside v) : IsValue (f.opening :: v ++ [f.closing]) := by
  cases f with
  | array =>
    rcases h with hb | ⟨us, h⟩
    · exact ⟨_, .emptyArray hb⟩
    · obtain ⟨ts, hts⟩ := Series.choose h
      exact ⟨_, .array hts⟩
  | object =>
    rcases h with hb | ⟨us, h⟩
    · exact ⟨_, .emptyObject hb⟩
    · obtain ⟨ms, hms⟩ := Series.choose h
      exact ⟨_, .object hms⟩

/-- Closes all that is open, after an element or a member of the innermost. -/
inductive Closes : List Enclosing → List Char → Prop where
  | nil : Closes [] []
  | cons {f : Enclosing} {stack : List Enclosing} {u v : List Char} (h : f.After u) (hr : Closes stack v) :
      Closes (f :: stack) (u ++ f.closing :: v)

/-- What there is to pass over from each step on. -/
def Completes : SkipStep → List Enclosing → List Char → Prop
  | .value, stack, v => ∃ b u w, v = b ++ u ++ w ∧ Blank b ∧ IsValue u ∧ Closes stack w
  | .ended, stack, v => Closes stack v
  | .opened, [], v => v = []
  | .opened, f :: stack, v => ∃ u w, v = u ++ f.closing :: w ∧ f.Inside u ∧ Closes stack w

/-! ## Passing over -/

/-- What goes on with an element or a member. -/
theorem completes_item {g : List Char → Except Error (List Char)}
    (hg : ∀ ⦃cs rest⦄, g cs = .ok rest → ∃ v, cs = v ++ rest ∧ Completes .value (f :: stack) v)
    (h : (match f with
      | .array => g cs
      | .object =>
        match skipName cs with
        | .ok rest => g rest
        | .error e => .error e) = .ok rest) :
    ∃ b u u' w, cs = b ++ u ++ u' ++ f.closing :: w ++ rest ∧ Blank b ∧ f.Item u ∧ f.After u' ∧
      Closes stack w := by
  cases f with
  | array =>
    obtain ⟨v, rfl, b, u, w, rfl, hb, hu, hw⟩ := hg h
    cases hw with
    | cons ha hr => exact ⟨b, u, _, _, by simp, hb, hu, ha, hr⟩
  | object =>
    dsimp only at h
    split at h
    · rename_i r hname
      obtain ⟨b, raw, c, rfl, hb, hraw, hc⟩ := skipName_sound hname
      obtain ⟨v, rfl, b', u, w, rfl, hb', ⟨t, ht⟩, hw⟩ := hg h
      cases hw with
      | cons ha hr =>
        exact ⟨b, '"' :: raw ++ '"' :: c ++ ':' :: b' ++ u, _, _, by simp, hb, ⟨_, .mk hraw hc hb' ht⟩, ha, hr⟩
    · cases h

/-- What goes on behind a value that is no array and no object. -/
theorem completes_scalar {result : Except Error (List Char)} {g : List Char → Except Error (List Char)}
    (hg : ∀ ⦃cs rest⦄, g cs = .ok rest → ∃ v, cs = v ++ rest ∧ Completes .ended stack v)
    (hresult : ∀ ⦃r⦄, result = .ok r → ∃ u, cs = u ++ r ∧ IsValue u)
    (h : (match result with
      | .ok r => g r
      | .error e => .error e) = .ok rest) :
    ∃ u w, cs = u ++ (w ++ rest) ∧ IsValue u ∧ Closes stack w := by
  split at h
  · rename_i r
    obtain ⟨u, rfl, hu⟩ := hresult rfl
    obtain ⟨w, rfl, hw⟩ := hg h
    exact ⟨u, w, rfl, hu, hw⟩
  · cases h

/-- What goes on behind the opening of an array or object. -/
theorem completes_opened (h : ∃ v, cs = v ++ rest ∧ Completes .opened (f :: stack) v) :
    ∃ u w, f.opening :: cs = u ++ (w ++ rest) ∧ IsValue u ∧ Closes stack w := by
  obtain ⟨_, rfl, u, w, rfl, hu, hw⟩ := h
  exact ⟨f.opening :: u ++ [f.closing], w, by simp, isValue_of_inside hu, hw⟩

/-- With so many rounds, what is passed over is what there is to pass over. -/
def Passes (fuel : Nat) : Prop :=
  ∀ step stack ⦃cs rest⦄, skipFrom fuel step stack cs = .ok rest →
    ∃ v, cs = v ++ rest ∧ Completes step stack v

theorem passes_value (ih : Passes fuel) (h : skipFrom (fuel + 1) .value stack cs = .ok rest) :
    ∃ v, cs = v ++ rest ∧ Completes .value stack v := by
  obtain ⟨b, hb, heq⟩ := exists_blank cs
  suffices hvalue : ∃ u w, skipBlank cs = u ++ (w ++ rest) ∧ IsValue u ∧ Closes stack w by
    obtain ⟨u, w, hskip, hu, hw⟩ := hvalue
    exact ⟨b ++ u ++ w, by rw [heq, hskip]; simp, b, u, w, rfl, hb, hu, hw⟩
  unfold skipFrom at h
  split at h
  · cases h
  · rename_i c cs' hskip
    rw [hskip]
    dsimp only at h
    split at h
    · exact completes_scalar (ih _ _) (fun _ hr => readWord_null_sound hr) h
    · exact completes_scalar (ih _ _) (fun _ hr => (readWord_sound (by decide) hr).isValue (by decide)) h
    · exact completes_scalar (ih _ _) (fun _ hr => (readWord_sound (by decide) hr).isValue (by decide)) h
    · refine completes_scalar (ih _ _) (fun r hr => ?_) h
      obtain ⟨raw, rfl, hraw⟩ := skipString_sound hr
      exact ⟨'"' :: raw ++ ['"'], by simp, _, .string hraw⟩
    · exact completes_scalar (ih _ _)
        (fun _ hr => ((runs_digits _).trans (skipNumber_sound hr)).isValue (by decide)) h
    · exact completes_opened (ih _ (.array :: stack) h)
    · exact completes_opened (ih _ (.object :: stack) h)
    · split at h
      · rename_i hc
        refine completes_scalar (ih _ _) (fun r hr => ?_) h
        have hafter := skipNumber_sound hr
        rw [List.dropWhile_cons_of_pos hc] at hafter
        exact ((runs_digits cs').trans hafter).isValue (isPlain_of_isDigit hc)
      · cases h

theorem passes_ended (ih : Passes fuel) (h : skipFrom (fuel + 1) .ended (f :: stack) cs = .ok rest) :
    ∃ v, cs = v ++ rest ∧ Completes .ended (f :: stack) v := by
  obtain ⟨b, hb, heq⟩ := exists_blank cs
  unfold skipFrom at h
  dsimp only at h
  cases hskip : skipBlank cs with
  | nil => cases f <;> simp [hskip] at h
  | cons c cs' =>
    rw [hskip] at h heq
    by_cases hclose : c = f.closing
    · subst hclose
      have hrest : skipFrom fuel .ended stack cs' = .ok rest := by cases f <;> exact h
      obtain ⟨v, rfl, hv⟩ := ih .ended stack hrest
      exact ⟨b ++ f.closing :: v, by simp [heq], .cons (.inl hb) hv⟩
    · by_cases hcomma : c = ','
      · subst hcomma
        obtain ⟨b', u, u', w, rfl, hb', hu, hu', hw⟩ := completes_item (ih .value (f :: stack)) h
        exact ⟨(b ++ ',' :: (b' ++ u ++ u')) ++ f.closing :: w, by simp [heq],
          .cons (.inr ⟨b, _, rfl, hb, f.items_of_after hb' hu hu'⟩) hw⟩
      · cases f <;> split at h <;> simp_all [Enclosing.closing]

theorem passes_opened (ih : Passes fuel) (h : skipFrom (fuel + 1) .opened (f :: stack) cs = .ok rest) :
    ∃ v, cs = v ++ rest ∧ Completes .opened (f :: stack) v := by
  obtain ⟨b, hb, heq⟩ := exists_blank cs
  unfold skipFrom at h
  dsimp only at h
  cases hskip : skipBlank cs with
  | nil => cases f <;> simp [hskip] at h
  | cons c cs' =>
    rw [hskip] at h heq
    by_cases hclose : c = f.closing
    · subst hclose
      have hrest : skipFrom fuel .ended stack cs' = .ok rest := by cases f <;> exact h
      obtain ⟨v, rfl, hv⟩ := ih .ended stack hrest
      exact ⟨b ++ f.closing :: v, by simp [heq], b, v, rfl, .inl hb, hv⟩
    · suffices hnext : ∃ b u u' w, c :: cs' = b ++ u ++ u' ++ f.closing :: w ++ rest ∧ Blank b ∧ f.Item u ∧
          f.After u' ∧ Closes stack w by
        obtain ⟨b', u, u', w, hcs, hb', hu, hu', hw⟩ := hnext
        rw [hcs] at heq
        exact ⟨(b ++ (b' ++ u ++ u')) ++ f.closing :: w, by simp [heq], _, _, rfl,
          .inr ((f.items_of_after hb' hu hu').blank_append hb), hw⟩
      refine completes_item (ih .value (f :: stack)) ?_
      cases f <;> split at h <;> first | exact h | simp_all [Enclosing.closing]

theorem skipFrom_sound (fuel : Nat) : Passes fuel := by
  induction fuel with
  | zero =>
    intro step stack cs rest h
    cases h
  | succ fuel ih =>
    intro step stack cs rest h
    cases step with
    | value => exact passes_value ih h
    | ended =>
      cases stack with
      | nil =>
        cases h
        exact ⟨[], rfl, .nil⟩
      | cons => exact passes_ended ih h
    | opened =>
      cases stack with
      | nil =>
        cases h
        exact ⟨[], rfl, rfl⟩
      | cons => exact passes_opened ih h

/-- Passes over one value. -/
theorem skipValue_sound (h : skipValue cs = .ok rest) : Front IsValue cs rest := by
  obtain ⟨_, rfl, b, u, w, rfl, hb, hu, hw⟩ := skipFrom_sound _ .value [] h
  cases hw
  exact ⟨b, u, by simp, hb, hu⟩

end MediaPaths.Json
