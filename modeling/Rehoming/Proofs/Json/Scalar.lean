import Rehoming.Json.Printer
import Rehoming.Json.Reader
import Rehoming.Number.RealText
import Rehoming.Proofs.Number.Natural
/-!
# Numbers and strings that are read back

Strings and whole numbers are read back from their texts.  A number ends where its text does:
it is read in the same way when a comma or a closing bracket follows, so that it is enough to
know how it is read on its own.
-/

namespace Rehoming.Json

/-- Nothing follows, or a character that ends a value inside a container. -/
def Closed (rest : List Char) : Prop :=
  ∀ c ∈ rest.head?, c = ',' ∨ c = ']' ∨ c = '\x7d'

variable {cs rest r : List Char} {j : Json} {negative : Bool}

/-! ### The end of a number -/

theorem digitRun_cons_of_none {c : Char} (h : Number.digit? c = none) :
  digitRun (c :: r) = ([], c :: r)
  := by
  rw [digitRun, h]

theorem digitRun_cons_of_some {c : Char} {d : Nat} (h : Number.digit? c = some d) :
  digitRun (c :: r) = (d :: (digitRun r).1, (digitRun r).2)
  := by
  rw [digitRun, h]

theorem digitRun_append (hrest : Closed rest) (cs : List Char) :
  digitRun (cs ++ rest) = ((digitRun cs).1, (digitRun cs).2 ++ rest)
  := by
  induction cs with
  | nil =>
    cases rest with
    | nil => rfl
    | cons c rest =>
      have hc : Number.digit? c = none := by
        rcases hrest c rfl with rfl | rfl | rfl <;> rfl
      exact digitRun_cons_of_none hc
  | cons c cs ih =>
    rw [List.cons_append]
    cases hc : Number.digit? c with
    | none => rw [digitRun_cons_of_none hc, digitRun_cons_of_none hc, List.cons_append]
    | some d => rw [digitRun_cons_of_some hc, digitRun_cons_of_some hc, ih]

theorem fractionPart_of_ne {c : Char} (h : c ≠ '.') :
  fractionPart (c :: r) = some (none, c :: r)
  := by
  unfold fractionPart
  split
  next heq => exact absurd (List.cons.inj heq).1 h
  next => rfl

theorem fractionPart_append {fraction : Option (List Nat)} (hrest : Closed rest)
    (h : fractionPart cs = some (fraction, r)) :
  fractionPart (cs ++ rest) = some (fraction, r ++ rest)
  := by
  cases cs with
  | nil =>
    cases h
    cases rest with
    | nil => rfl
    | cons c rest =>
      apply fractionPart_of_ne
      rintro rfl
      simpa using hrest '.' rfl
  | cons c cs =>
    rw [List.cons_append]
    by_cases hc : c = '.'
    · subst hc
      simp only [fractionPart, digitRun_append hrest] at h ⊢
      generalize digitRun cs = run at h ⊢
      obtain ⟨ds, tail⟩ := run
      cases ds with
      | nil => cases h
      | cons d ds => cases h; rfl
    · rw [fractionPart_of_ne hc] at h ⊢
      cases h
      rfl

theorem exponentPart_of_ne {c : Char} (h : c ≠ 'e') (h' : c ≠ 'E') :
  exponentPart (c :: r) = some (none, c :: r)
  := by
  simp [exponentPart, h, h']

/-- The exponent of a sign and a run of digits. -/
def exponentOf (negative : Bool) : List Nat × List Char → Option (Option Int × List Char)
  | ([], _) => none
  | (ds, r) =>
    let n : Nat := ds.foldl (fun n d => 10 * n + d) 0
    some (some (if negative then -(n : Int) else n), r)

theorem exponentPart_of_mark {c : Char} (h : (c = 'e' || c = 'E') = true) :
  exponentPart (c :: r) =
    exponentOf (Number.takeSign r).1 (digitRun (Number.takeSign r).2)
  := by
  simp only [exponentPart, h, if_true]
  cases r with
  | nil => rfl
  | cons sign r =>
    by_cases hplus : sign = '+'
    · subst hplus
      rfl
    by_cases hminus : sign = '-'
    · subst hminus
      rfl
    · simp [Number.takeSign, hplus, hminus]
      rfl

theorem takeSign_append (h : cs ≠ []) (rest : List Char) :
  Number.takeSign (cs ++ rest) = ((Number.takeSign cs).1, (Number.takeSign cs).2 ++ rest)
  := by
  cases cs with
  | nil => exact absurd rfl h
  | cons c cs =>
    rw [List.cons_append]
    unfold Number.takeSign
    split <;> simp_all

theorem exponentPart_append {exponent : Option Int} (hrest : Closed rest)
    (h : exponentPart cs = some (exponent, r)) :
  exponentPart (cs ++ rest) = some (exponent, r ++ rest)
  := by
  cases cs with
  | nil =>
    cases h
    cases rest with
    | nil => rfl
    | cons c rest =>
      apply exponentPart_of_ne <;> rintro rfl
      · simpa using hrest 'e' rfl
      · simpa using hrest 'E' rfl
  | cons c cs =>
    rw [List.cons_append]
    by_cases hc : (c = 'e' || c = 'E') = true
    · have hcs : cs ≠ [] := by
        rintro rfl
        rw [exponentPart_of_mark hc] at h
        cases h
      rw [exponentPart_of_mark hc] at h ⊢
      simp only [takeSign_append hcs, digitRun_append hrest]
      generalize digitRun (Number.takeSign cs).2 = run at h ⊢
      obtain ⟨ds, tail⟩ := run
      cases ds with
      | nil => cases h
      | cons d ds => cases h; rfl
    · simp only [Bool.or_eq_true, decide_eq_true_eq, not_or] at hc
      rw [exponentPart_of_ne hc.1 hc.2] at h ⊢
      cases h
      rfl

theorem readUnsigned_append (hrest : Closed rest) (h : readUnsigned negative cs = (j, some r)) :
  readUnsigned negative (cs ++ rest) = (j, some (r ++ rest))
  := by
  simp only [readUnsigned, digitRun_append hrest] at h ⊢
  generalize digitRun cs = run at h ⊢
  obtain ⟨whole, tail⟩ := run
  split at h
  next => cases h
  next => cases h
  next hempty hzero heq =>
    cases heq
    cases hfraction : fractionPart tail with
    | none => simp [hfraction] at h
    | some found =>
      obtain ⟨fraction, r⟩ := found
      cases hexponent : exponentPart r with
      | none => simp [hfraction, hexponent] at h
      | some found =>
        obtain ⟨exponent, r⟩ := found
        simp only [hfraction, hexponent, Prod.mk.injEq, Option.some.injEq] at h
        obtain ⟨rfl, rfl⟩ := h
        simp [fractionPart_append hrest hfraction, exponentPart_append hrest hexponent]

/-! ### Numbers -/

/-- A text that is read as a number to its end. -/
def IsNumeral (cs : List Char) (j : Json) : Prop :=
  ∃ c r, cs = c :: r
    ∧ (c = '-' ∧ readUnsigned true r = (j, some [])
      ∨ (Number.digit? c).isSome = true ∧ readUnsigned false cs = (j, some []))

theorem readScalar_of_isSome {c : Char} (h : (Number.digit? c).isSome = true) :
  readScalar (c :: r) = readUnsigned false (c :: r)
  := by
  unfold readScalar
  split
  case h_6 => rfl
  all_goals
    next heq =>
      cases heq
      cases h

theorem IsNumeral.readScalar_append (h : IsNumeral cs j) (hrest : Closed rest) :
  readScalar (cs ++ rest) = (j, some rest)
  := by
  obtain ⟨c, r, rfl, ⟨rfl, h⟩ | ⟨hdigit, h⟩⟩ := h
  · exact readUnsigned_append hrest h
  · rw [List.cons_append, readScalar_of_isSome hdigit]
    exact readUnsigned_append hrest h

/-- A number that is read begins with a sign or a digit, and the text of every other value does
not. -/
theorem isNumeral_of_readScalar {x : Double} (h : readScalar cs = (.real x, some [])) :
  IsNumeral cs (.real x)
  := by
  unfold readScalar at h
  split at h
  next r =>
    unfold readString at h
    split at h
    · cases h
    · split at h <;> cases h
  next r => exact ⟨'-', r, rfl, .inl ⟨rfl, h⟩⟩
  next r => unfold readWord at h; split at h <;> cases h
  next r => unfold readWord at h; split at h <;> cases h
  next r => unfold readWord at h; split at h <;> cases h
  next =>
    cases cs with
    | nil => cases h
    | cons c r =>
      refine ⟨c, r, rfl, .inr ⟨?_, h⟩⟩
      cases hc : Number.digit? c with
      | some d => rfl
      | none => simp [readUnsigned, digitRun_cons_of_none hc] at h

/-! ### Whole numbers -/

theorem digitRun_of_all (h : cs.all Char.isDigit = true) :
  digitRun cs = (cs.map fun c => c.toNat - '0'.toNat, [])
  := by
  induction cs with
  | nil => rfl
  | cons c cs ih =>
    obtain ⟨hc, hcs⟩ := Bool.and_eq_true_iff.mp h
    have hdigit : Number.digit? c = some (c.toNat - '0'.toNat) := by
      rw [Number.digit?_eq, if_pos hc]
    rw [digitRun_cons_of_some hdigit, ih hcs, List.map_cons]

theorem le_foldl_digits (n : Nat) (ds : List Nat) :
  n ≤ ds.foldl (fun n d => 10 * n + d) n
  := by
  induction ds generalizing n with
  | nil => exact Nat.le_refl n
  | cons d rest ih =>
    have hrest := ih (10 * n + d)
    rw [List.foldl_cons]
    omega

/-- The digits of a number that fits are all taken. -/
theorem absorb_of_lt {n taken : Nat} {ds : List Nat}
    (h : ds.foldl (fun n d => 10 * n + d) n < Number.wordLimit 64) :
  absorb n taken ds = (ds.foldl (fun n d => 10 * n + d) n, taken + ds.length, [])
  := by
  induction ds generalizing n taken with
  | nil => rfl
  | cons d rest ih =>
    rw [List.foldl_cons] at h ⊢
    have hnext := Nat.lt_of_le_of_lt (le_foldl_digits (10 * n + d) rest) h
    rw [absorb, if_pos hnext, ih h, List.length_cons, Nat.add_right_comm, Nat.add_assoc]

/-- No number but zero begins with the digit zero. -/
theorem toDigits_ne_zero_cons {n : Nat} (h : 0 < n) (r : List Char) :
  Nat.toDigits 10 n ≠ '0' :: r
  := by
  induction n using Nat.strongRecOn generalizing r with
  | ind n ih =>
    rw [Nat.toDigits_eq_if (by decide)]
    split
    next hlt =>
      have hall : ∀ m < 10, 0 < m → m.digitChar ≠ '0' := by decide
      intro heq
      exact hall n hlt h (List.cons.inj heq).1
    next hge =>
      intro heq
      cases hinit : Nat.toDigits 10 (n / 10) with
      | nil => exact Nat.toDigits_ne_nil hinit
      | cons c init =>
        rw [hinit, List.cons_append] at heq
        obtain ⟨rfl, -⟩ := List.cons.inj heq
        exact ih (n / 10) (by omega) (by omega) init hinit

/-- The digits of a number are those of a numeral without leading zeros. -/
theorem toDigits_eq_cons_cons {n : Nat} {c c' : Char} (h : Nat.toDigits 10 n = c :: c' :: r) :
  c.toNat - '0'.toNat ≠ 0
  := by
  have hc : c.isDigit = true :=
    List.all_eq_true.mp (Number.all_isDigit_toDigits n) c (h ▸ List.mem_cons_self)
  simp only [Char.isDigit_iff_toNat] at hc
  intro hzero
  obtain rfl : c = '0' := by
    apply Char.toNat_inj.mp
    omega
  rcases Nat.eq_zero_or_pos n with rfl | hn
  · cases h
  · exact toDigits_ne_zero_cons hn _ h

theorem readUnsigned_toDigits {n : Nat} (hn : n < Number.wordLimit 64)
    (hnegative : negative = true → 0 < n ∧ n ≤ Number.wordLimit 63) :
  readUnsigned negative (Nat.toDigits 10 n) = (.int (if negative then -n else n), some [])
  := by
  have hvalue : ((Nat.toDigits 10 n).map fun c => c.toNat - '0'.toNat).foldl
      (fun n d => 10 * n + d) 0 = n := by
    rw [List.foldl_map, ← Nat.ofDigitChars_eq_foldl, Nat.ofDigitChars_ten_toDigits]
  have hnumber : numberOf negative ((Nat.toDigits 10 n).map fun c => c.toNat - '0'.toNat) none none
      = .int (if negative then -n else n) := by
    rw [numberOf, absorb_of_lt (hvalue.symm ▸ hn), hvalue]
    cases negative with
    | false => rfl
    | true => simp [hnegative rfl]
  simp only [readUnsigned, digitRun_of_all (Number.all_isDigit_toDigits n)]
  split
  next heq => simp at heq
  next heq =>
    obtain ⟨c, cs, hc, hzero, hcs⟩ := List.map_eq_cons_iff.mp (Prod.mk.inj heq).1
    obtain ⟨c', cs, rfl, -, -⟩ := List.map_eq_cons_iff.mp hcs
    exact absurd hzero (toDigits_eq_cons_cons hc)
  next heq =>
    cases heq
    simp only [fractionPart, exponentPart, hnumber]

/-- A whole number that fits into 64 bits is read back. -/
theorem isNumeral_int {i : Int} (hlow : -(Number.wordLimit 63 : Int) ≤ i)
    (hhigh : i < Number.wordLimit 64) :
  IsNumeral (toString i).toList (.int i)
  := by
  have hword : Number.wordLimit 63 < Number.wordLimit 64 := by decide
  have hrepr : (toString i).toList =
      if 0 ≤ i then Nat.toDigits 10 i.toNat else '-' :: Nat.toDigits 10 (-i).toNat := by
    change i.repr.toList = _
    rw [Int.repr_eq_if]
    split <;> simp [Nat.repr_eq_ofList_toDigits]
  rw [hrepr]
  split
  next hi =>
    cases hdigits : Nat.toDigits 10 i.toNat with
    | nil => exact absurd hdigits Nat.toDigits_ne_nil
    | cons c r =>
      refine ⟨c, r, rfl, .inr ⟨?_, ?_⟩⟩
      · have hc := List.all_eq_true.mp (Number.all_isDigit_toDigits i.toNat) c (hdigits ▸ List.mem_cons_self)
        rw [Number.digit?_eq, if_pos hc, Option.isSome_some]
      · rw [← hdigits, @readUnsigned_toDigits false _ (by omega) (fun h => nomatch h)]
        simp only [Bool.false_eq_true, if_false, Int.toNat_of_nonneg hi]
  next hi =>
    refine ⟨'-', _, rfl, .inl ⟨rfl, ?_⟩⟩
    rw [@readUnsigned_toDigits true _ (by omega) (by omega)]
    simp only [if_true]
    congr 2
    omega

/-! ### Strings -/

/-- A control character is read back from its number. -/
theorem hex4?_control :
    ∀ n < 0x20, hex4? '0' '0' (hexDigit (n / 16)) (hexDigit (n % 16)) = some n := by
  decide

theorem stringUnits_plain {c : Char} (hquote : c ≠ '"') (hslash : c ≠ '\\') (hc : ¬ c.toNat < 0x20) :
  stringUnits (c :: r) = (stringUnits r).map fun (units, r) => (c.toNat :: units, r)
  := by
  rw [stringUnits]
  · simp [hslash, hc]
  · exact hquote
  · rintro _ _ _ _ _ rfl
    contradiction
  · rintro _ _ rfl
    contradiction

/-- Every character of a string is read back from what is written of it. -/
theorem stringUnits_escaped (c : Char) (r : List Char) :
  stringUnits (escaped c ++ r) = (stringUnits r).map fun (units, r) => (c.toNat :: units, r)
  := by
  unfold escaped
  split
  next hc => subst hc; rfl
  split
  next hc => subst hc; rfl
  split
  next hc => subst hc; rfl
  split
  next hc => subst hc; rfl
  split
  next hc => subst hc; rfl
  split
  next hc => rw [hc]; rfl
  split
  next hc => rw [hc]; rfl
  split
  next hc =>
    simp only [List.cons_append, List.nil_append]
    rw [stringUnits, hex4?_control _ hc]
    rfl
  next hquote hslash _ _ _ _ _ hc => exact stringUnits_plain hquote hslash hc

theorem stringUnits_flatMap (cs rest : List Char) :
  stringUnits (cs.flatMap escaped ++ '"' :: rest) = some (cs.map Char.toNat, rest)
  := by
  induction cs with
  | nil => rfl
  | cons c cs ih =>
    rw [List.flatMap_cons, List.append_assoc, stringUnits_escaped, ih]
    rfl

/-- No character is a surrogate. -/
theorem pairUp_map_toNat (cs : List Char) :
  pairUp (cs.map Char.toNat) = some cs
  := by
  have hsurrogate (c : Char) : ¬ (0xD800 ≤ c.toNat ∧ c.toNat ≤ 0xDFFF) := by
    have hvalid := c.valid
    simp only [UInt32.isValidChar, Nat.isValidChar] at hvalid
    change c.val.toNat < 0xd800 ∨ _ at hvalid
    change ¬ (0xD800 ≤ c.val.toNat ∧ c.val.toNat ≤ 0xDFFF)
    omega
  induction cs with
  | nil => rfl
  | cons c cs ih =>
    cases cs with
    | nil => simp [pairUp, hsurrogate c]
    | cons c' cs =>
      have hc := hsurrogate c
      simp only [List.map_cons] at ih ⊢
      rw [pairUp, if_neg (by omega), if_neg hc, ih, Option.map_some, Char.ofNat_toNat]

theorem readString_quoted (s : String) (rest : List Char) :
  readString (s.toList.flatMap escaped ++ '"' :: rest) = (.str s, some rest)
  := by
  simp only [readString, stringUnits_flatMap, pairUp_map_toNat, String.ofList_toList]

end Rehoming.Json
