import Rehoming.Proofs.Number.Natural
import Rehoming.Proofs.Time.Calendar
import Rehoming.Proofs.Time.Instant
import Rehoming.Time.Rfc3339
/-!
# Timestamps that are read back

An instant is read back from its timestamp.  Every number of a timestamp is followed by something
that is not a digit, so that the reader stops where the number does, however wide it is.

Exactly the instants that are read from some text are written such that they are read again:
those of a day that can be written, with leap seconds at the end of a minute only.
-/

namespace Rehoming.Time

variable {cs ds rest r : List Char} {c : Char} {n width : Nat}

/-! ### Digits -/

/-- A text that does not go on with a digit. -/
def EndsNumber (rest : List Char) : Prop :=
  ∀ c ∈ rest.head?, c.isDigit = false

theorem isWhite_eq_false_of_isDigit (h : c.isDigit = true) :
  Text.isWhite c = false
  := by
  obtain ⟨hzero, hnine⟩ := Char.isDigit_iff_toNat.mp h
  rw [show '0'.toNat = 48 from rfl] at hzero
  rw [show '9'.toNat = 57 from rfl] at hnine
  unfold Text.isWhite
  generalize c.toNat = n at hzero hnine
  rw [Bool.eq_false_iff]
  intro hwhite
  simp only [Bool.or_eq_true, Bool.and_eq_true, decide_eq_true_eq, beq_iff_eq] at hwhite
  omega

theorem isSome_digit? (c : Char) :
  (Number.digit? c).isSome = c.isDigit
  := by
  rw [Number.digit?_eq]
  cases c.isDigit <;> rfl

theorem takeWhile_digits_append (hdigits : ds.all Char.isDigit = true) (hrest : EndsNumber rest) :
  (ds ++ rest).takeWhile (fun c => (Number.digit? c).isSome) = ds
  := by
  have hnone : rest.takeWhile (fun c => (Number.digit? c).isSome) = [] := by
    cases rest with
    | nil => rfl
    | cons c rest =>
      rw [List.takeWhile_cons_of_neg]
      rw [isSome_digit?, hrest c rfl]
      decide
  rw [List.takeWhile_append_of_pos, hnone, List.append_nil]
  intro c hc
  rw [isSome_digit?]
  exact List.all_eq_true.mp hdigits c hc

theorem EndsNumber.cons (h : c.isDigit = false) (rest : List Char) :
  EndsNumber (c :: rest)
  := by
  intro _ hc
  cases hc
  exact h

theorem EndsNumber.take (h : EndsNumber rest) (n : Nat) :
  EndsNumber (rest.take n)
  := by
  intro c hc
  cases n with
  | zero => simp at hc
  | succ n =>
    rw [List.head?_take, if_neg (Nat.succ_ne_zero n)] at hc
    exact h c hc

theorem unspaced?_append (h : Number.digits? ds = some n) (hwidth : ds.length ≤ width)
    (hrest : EndsNumber rest) :
  unspaced? width (ds ++ rest) = some (n, rest)
  := by
  have hdigits := (Number.digits?_eq_some_iff.mp h).2.1
  rw [unspaced?, List.take_append, List.take_of_length_le hwidth,
    takeWhile_digits_append hdigits (hrest.take _)]
  simp [h]

theorem trimFront_cons (h : Text.isWhite c = false) (r : List Char) :
  Text.trimFront (c :: r) = c :: r
  := List.dropWhile_cons_of_neg (by simp [h])

theorem trimFront_append (h : Number.digits? ds = some n) (rest : List Char) :
  Text.trimFront (ds ++ rest) = ds ++ rest
  := by
  obtain ⟨hne, hdigits, -⟩ := Number.digits?_eq_some_iff.mp h
  cases ds with
  | nil => exact absurd rfl hne
  | cons c ds =>
    rw [List.all_cons, Bool.and_eq_true] at hdigits
    exact trimFront_cons (isWhite_eq_false_of_isDigit hdigits.1) _

theorem number?_append (h : Number.digits? ds = some n) (hwidth : ds.length ≤ width)
    (hrest : EndsNumber rest) :
  number? width (ds ++ rest) = some (n, rest)
  := by
  rw [number?, trimFront_append h, unspaced?_append h hwidth hrest]

theorem mark?_cons (h : Text.isWhite c = false) (r : List Char) :
  mark? c (c :: r) = some r
  := by
  rw [mark?, trimFront_cons h]
  simp

/-! ### Numbers with zeros in front -/

theorem toList_padded (width n : Nat) :
  (padded width n).toList
    = List.replicate (width - (Nat.toDigits 10 n).length) '0' ++ Nat.toDigits 10 n
  := by
  simp [padded, Nat.repr_eq_ofList_toDigits]

theorem digits?_padded (width n : Nat) :
  Number.digits? (padded width n).toList = some n
  := by
  rw [toList_padded]
  apply Number.digits?_eq_some_iff.mpr
  refine ⟨?_, ?_, ?_⟩
  · simp
  · simp [Number.all_isDigit_toDigits]
  · rw [Nat.ofDigitChars_append, Nat.ofDigitChars_replicate_zero]
    simp

theorem length_padded (hpos : 0 < width) (h : n < Nat.pow 10 width) :
  (padded width n).toList.length = width
  := by
  have hlength : (Nat.toDigits 10 n).length ≤ width :=
    (Nat.length_toDigits_le_iff (by decide) hpos).mpr h
  rw [toList_padded, List.length_append, List.length_replicate]
  omega

theorem number?_padded (h : n < 100) (hrest : EndsNumber rest) :
  number? 2 ((padded 2 n).toList ++ rest) = some (n, rest)
  := number?_append (digits?_padded 2 n) (Nat.le_of_eq (length_padded (by decide) h)) hrest

/-! ### Parts of a timestamp -/

theorem year?_of_isDigit (h : c.isDigit = true) (r : List Char) :
  year? (c :: r) = (unspaced? 4 (c :: r)).map fun p => ((p.1 : Int), p.2)
  := by
  rw [year?, trimFront_cons (isWhite_eq_false_of_isDigit h)]
  split
  next heq => cases heq; cases h
  next heq => cases heq; cases h
  next => rfl

theorem year?_minus (r : List Char) :
  year? ('-' :: r) = (unspaced? r.length r).map fun p => (-(p.1 : Int), p.2)
  := rfl

theorem year?_plus (r : List Char) :
  year? ('+' :: r) = (unspaced? r.length r).map fun p => ((p.1 : Int), p.2)
  := rfl

theorem year?_append (hrest : EndsNumber rest) (y : Int) :
  year? ((yearText y).toList ++ rest) = some (y, rest)
  := by
  rw [yearText]
  split
  case isTrue h =>
    have hdigits := digits?_padded 4 y.toNat
    have hlt : y.toNat < 10000 := by omega
    have hlength : (padded 4 y.toNat).toList.length = 4 := length_padded (by decide) hlt
    have hread := unspaced?_append hdigits (Nat.le_of_eq hlength) hrest
    generalize (padded 4 y.toNat).toList = ds at *
    cases ds with
    | nil => cases hlength
    | cons c ds =>
      have hc : c.isDigit = true :=
        (Bool.and_eq_true_iff.mp (Number.digits?_eq_some_iff.mp hdigits).2.1).1
      rw [List.cons_append] at hread ⊢
      rw [year?_of_isDigit hc, hread, Option.map_some, Int.toNat_of_nonneg h.1]
  case isFalse =>
    -- Behind a sign there may be any number of digits.
    have hdigits := digits?_padded 4 y.natAbs
    generalize (padded 4 y.natAbs) = digits at *
    have hread : unspaced? (digits.toList ++ rest).length (digits.toList ++ rest)
        = some (y.natAbs, rest) := unspaced?_append hdigits (by simp) hrest
    by_cases hneg : y < 0
    · have hy : -(y.natAbs : Int) = y := by omega
      have htext : ("-" ++ digits).toList ++ rest = '-' :: (digits.toList ++ rest) := by simp
      rw [if_pos hneg, htext, year?_minus, hread, Option.map_some, hy]
    · have hy : (y.natAbs : Int) = y := by omega
      have htext : ("+" ++ digits).toList ++ rest = '+' :: (digits.toList ++ rest) := by simp
      rw [if_neg hneg, htext, year?_plus, hread, Option.map_some, hy]

/-- A fraction of a second of at most nine digits. -/
theorem fraction?_padded (hpos : 0 < width) (hwidth : width ≤ 9) (hn : n < Nat.pow 10 width)
    (hrest : EndsNumber rest) :
  fraction? (("." ++ padded width n).toList ++ rest) = some (n * Nat.pow 10 (9 - width), rest)
  := by
  have hdigits := digits?_padded width n
  have hlength : (padded width n).toList.length = width := length_padded hpos hn
  generalize padded width n = digits at *
  have htext : ("." ++ digits).toList ++ rest = '.' :: (digits.toList ++ rest) := by simp
  have hnine : digits.toList.take 9 = digits.toList := List.take_of_length_le (by omega)
  have hall := (Number.digits?_eq_some_iff.mp hdigits).2.1
  simp only [htext, fraction?, takeWhile_digits_append hall hrest, hnine, hdigits,
    Option.map_some, hlength, List.drop_left' hlength]

theorem fraction?_append (hn : n < 1000000000) (rest : List Char) :
  fraction? ((fractionText n).toList ++ 'Z' :: rest) = some (n, 'Z' :: rest)
  := by
  have hz : EndsNumber ('Z' :: rest) := .cons rfl rest
  have hmillis (h : n % 1000000 = 0) : n / 1000000 * Nat.pow 10 (9 - 3) = n :=
    Nat.div_mul_cancel (Nat.dvd_of_mod_eq_zero h)
  have hmicros (h : n % 1000 = 0) : n / 1000 * Nat.pow 10 (9 - 6) = n :=
    Nat.div_mul_cancel (Nat.dvd_of_mod_eq_zero h)
  have hnanos : n * Nat.pow 10 (9 - 9) = n := Nat.mul_one n
  rw [fractionText]
  split
  case isTrue h => rw [h]; rfl
  case isFalse =>
    split
    case isTrue h =>
      have hlt : n / 1000000 < Nat.pow 10 3 := Nat.div_lt_of_lt_mul hn
      rw [fraction?_padded (by decide) (by decide) hlt hz, hmillis h]
    case isFalse =>
      split
      case isTrue h =>
        have hlt : n / 1000 < Nat.pow 10 6 := Nat.div_lt_of_lt_mul hn
        rw [fraction?_padded (by decide) (by decide) hlt hz, hmicros h]
      case isFalse =>
        have hlt : n < Nat.pow 10 9 := hn
        rw [fraction?_padded (by decide) (by decide) hlt hz, hnanos]

/-- The nanoseconds of a second are below a second. -/
theorem lt_of_fraction? (h : fraction? cs = some (n, r)) :
  n < 1000000000
  := by
  unfold fraction? at h
  split at h
  next digits =>
    obtain ⟨m, hm, hmr⟩ := Option.map_eq_some_iff.mp h
    obtain ⟨rfl, -⟩ := Prod.mk.inj hmr
    have hlt := Number.lt_of_digits? hm
    generalize hnine : List.take 9 _ = nine at *
    have hlength : nine.length ≤ 9 := by
      rw [← hnine]
      exact List.length_take_le 9 _
    calc
      m * Nat.pow 10 (9 - nine.length) < Nat.pow 10 nine.length * Nat.pow 10 (9 - nine.length) :=
        Nat.mul_lt_mul_of_pos_right hlt (Nat.pow_pos (by decide))
      _ = Nat.pow 10 (nine.length + (9 - nine.length)) := (Nat.pow_add 10 _ _).symm
      _ = Nat.pow 10 9 := by rw [Nat.add_sub_cancel' hlength]
  next =>
    cases h
    decide

/-- Offsets are whole minutes. -/
theorem emod_of_offset? {offset : Int} (h : offset? cs = some (offset, r)) :
  offset % 60 = 0
  := by
  unfold offset? at h
  split at h
  next => cases h; rfl
  next => cases h; rfl
  next =>
    split at h
    case isTrue => cases h; rfl
    case isFalse =>
      simp only [Option.bind_eq_bind, Option.bind_eq_some_iff, Prod.exists] at h
      obtain ⟨sign, -, hours, _, -, minutes, _, -, h⟩ := h
      split at h
      · cases h
        rw [show (hours : Int) * 3600 + minutes * 60 = (hours * 60 + minutes) * 60 by omega,
          ← Int.mul_assoc]
        exact Int.mul_emod_left _ 60
      · cases h
  next => cases h

/-! ### Timestamps -/

namespace Instant

variable {t : Instant}

/-- An instant of a day that can be written, and in a leap second only at the end of a minute. -/
structure Writable (t : Instant) : Prop where
  day : isWritable t.day = true
  leap : t.inLeapSecond = true → t.secondOfDay % 60 = 59

instance (t : Instant) : Decidable t.Writable :=
  decidable_of_iff (isWritable t.day = true ∧ (t.inLeapSecond = true → t.secondOfDay % 60 = 59))
    ⟨fun h => ⟨h.1, h.2⟩, fun h => ⟨h.day, h.leap⟩⟩

/-- The second of a minute that is written for an instant. -/
def writtenSecond (t : Instant) : Nat :=
  t.secondOfDay % 60 + (if t.inLeapSecond then 1 else 0)

theorem toList_text (t : Instant) :
  t.text.toList =
    (yearText (dateOf t.day).year).toList
      ++ '-' :: ((padded 2 (dateOf t.day).month).toList
      ++ '-' :: ((padded 2 (dateOf t.day).day).toList
      ++ 'T' :: ((padded 2 (t.secondOfDay / 3600)).toList
      ++ ':' :: ((padded 2 (t.secondOfDay / 60 % 60)).toList
      ++ ':' :: ((padded 2 t.writtenSecond).toList
      ++ ((fractionText (t.nanos % 1000000000)).toList ++ ['Z']))))))
  := by
  simp [text, dateText, clockText, writtenSecond]

theorem endsNumber_fractionText (n : Nat) (rest : List Char) :
  EndsNumber ((fractionText n).toList ++ 'Z' :: rest)
  := by
  have hpoint (digits : String) : EndsNumber (("." ++ digits).toList ++ 'Z' :: rest) := by
    have htext : ("." ++ digits).toList = '.' :: digits.toList := by simp
    rw [htext]
    exact .cons rfl _
  rw [fractionText]
  split
  · exact .cons rfl rest
  · split
    · apply hpoint
    · split <;> apply hpoint

theorem writtenSecond_le (t : Instant) :
  t.writtenSecond ≤ 60
  := by
  rw [writtenSecond]
  split <;> omega

/-- Whether an instant is in a leap second is seen from its second. -/
theorem Writable.writtenSecond_eq_iff (h : t.Writable) :
  t.writtenSecond = 60 ↔ t.inLeapSecond = true
  := by
  rw [writtenSecond]
  cases hin : t.inLeapSecond with
  | false =>
    have hlt : t.secondOfDay % 60 < 60 := Nat.mod_lt _ (by decide)
    simp [Nat.ne_of_lt hlt]
  | true => simp [h.leap hin]

theorem Writable.second_eq (h : t.Writable) :
  t.writtenSecond - (if t.writtenSecond = 60 then 1 else 0) = t.secondOfDay % 60
  := by
  by_cases hin : t.inLeapSecond = true
  · rw [if_pos (h.writtenSecond_eq_iff.mpr hin), writtenSecond, if_pos hin, Nat.add_sub_cancel]
  · rw [if_neg (mt h.writtenSecond_eq_iff.mp hin), writtenSecond, if_neg hin, Nat.add_zero,
      Nat.sub_zero]

theorem Writable.nanos_eq (h : t.Writable) :
  t.nanos % 1000000000 + (if t.writtenSecond = 60 then 1 else 0) * 1000000000 = t.nanos
  := by
  have hlt := t.nanos_lt
  have hin : t.writtenSecond = 60 ↔ 1000000000 ≤ t.nanos := by
    rw [h.writtenSecond_eq_iff, inLeapSecond, nanosPerSecond, decide_eq_true_iff]
    omega
  by_cases hleap : t.writtenSecond = 60
  · rw [if_pos hleap]
    omega
  · rw [if_neg hleap]
    omega

theorem bind_of_eq {α β : Type} {o : Option α} {f : α → Option β} {a : α} {b : β}
    (ho : o = some a) (hf : f a = some b) :
  o >>= f = some b
  := by
  rw [ho]
  exact hf

/-- An instant is read back from its timestamp. -/
theorem Writable.ofText?_text (h : t.Writable) :
  ofText? t.text = some t
  := by
  have hexists := exists_dateOf t.day
  have hmonth := Date.month_le_of_exists hexists
  have hday := Date.day_le_of_exists hexists
  have hclock := t.secondOfDay_lt
  have hhour : t.secondOfDay / 3600 < 24 := by omega
  have hminute : t.secondOfDay / 60 % 60 < 60 := by omega
  have hfraction : t.nanos % 1000000000 < 1000000000 := Nat.mod_lt _ (by decide)
  have hseconds : t.day * 86400 + (t.secondOfDay / 3600 : Nat) * 3600
      + (t.secondOfDay / 60 % 60 : Nat) * 60 + (t.secondOfDay % 60 : Nat) - 0 = t.seconds := by
    have heq := t.day_add_secondOfDay
    omega
  rw [ofText?, toList_text]
  refine bind_of_eq (year?_append (.cons rfl _) _) ?_
  refine bind_of_eq (mark?_cons rfl _) ?_
  refine bind_of_eq (number?_padded (Nat.lt_of_le_of_lt hmonth (by decide)) (.cons rfl _)) ?_
  refine bind_of_eq (mark?_cons rfl _) ?_
  refine bind_of_eq (number?_padded (Nat.lt_of_le_of_lt hday (by decide)) (.cons rfl _)) ?_
  refine bind_of_eq rfl ?_
  refine bind_of_eq (number?_padded (Nat.lt_trans hhour (by decide)) (.cons rfl _)) ?_
  refine bind_of_eq (mark?_cons rfl _) ?_
  refine bind_of_eq (number?_padded (Nat.lt_trans hminute (by decide)) (.cons rfl _)) ?_
  refine bind_of_eq (mark?_cons rfl _) ?_
  refine bind_of_eq (number?_padded (Nat.lt_of_le_of_lt t.writtenSecond_le (by decide))
    (endsNumber_fractionText _ _)) ?_
  refine bind_of_eq (fraction?_append hfraction _) ?_
  refine bind_of_eq rfl ?_
  dsimp only
  rw [dayNumber_dateOf, h.second_eq, h.nanos_eq, hseconds, ofSeconds_seconds_nanos, if_pos h.day,
    if_pos]
  simp [hexists, h.day, hhour, hminute, t.writtenSecond_le]

/-- An instant that is read can be written. -/
theorem writable_of_ofText? {s : String} (h : ofText? s = some t) :
  t.Writable
  := by
  obtain ⟨⟨year, _⟩, -, h⟩ := Option.bind_eq_some_iff.mp h
  obtain ⟨_, -, h⟩ := Option.bind_eq_some_iff.mp h
  obtain ⟨⟨month, _⟩, -, h⟩ := Option.bind_eq_some_iff.mp h
  obtain ⟨_, -, h⟩ := Option.bind_eq_some_iff.mp h
  obtain ⟨⟨day, _⟩, -, h⟩ := Option.bind_eq_some_iff.mp h
  obtain ⟨_, -, h⟩ := Option.bind_eq_some_iff.mp h
  obtain ⟨⟨hour, _⟩, -, h⟩ := Option.bind_eq_some_iff.mp h
  obtain ⟨_, -, h⟩ := Option.bind_eq_some_iff.mp h
  obtain ⟨⟨minute, _⟩, -, h⟩ := Option.bind_eq_some_iff.mp h
  obtain ⟨_, -, h⟩ := Option.bind_eq_some_iff.mp h
  obtain ⟨⟨second, _⟩, -, h⟩ := Option.bind_eq_some_iff.mp h
  obtain ⟨⟨nanos, _⟩, hfraction, h⟩ := Option.bind_eq_some_iff.mp h
  obtain ⟨⟨offset, _⟩, hoffset, h⟩ := Option.bind_eq_some_iff.mp h
  simp only [Option.ite_none_right_eq_some, Option.some.injEq] at h
  obtain ⟨-, hday, rfl⟩ := h
  refine ⟨hday, ?_⟩
  clear hday
  have hnanos := lt_of_fraction? hfraction
  have hminutes := emod_of_offset? hoffset
  by_cases hsecond : second = 60
  · subst hsecond
    intro
    rw [if_pos rfl, secondOfDay_ofSeconds (by omega)]
    omega
  · intro hleap
    rw [if_neg hsecond, inLeapSecond_ofSeconds (by omega)] at hleap
    omega

/-- The instants that are read from some text are those that can be written, and these are read
from their timestamps. -/
theorem exists_ofText?_iff :
  (∃ s, ofText? s = some t) ↔ t.Writable
  := ⟨fun ⟨_, h⟩ => writable_of_ofText? h, fun h => ⟨t.text, h.ofText?_text⟩⟩

example : (ofText? "2016-12-31T23:59:60.5Z").map text = some "2016-12-31T23:59:60.500Z" := by
  decide +kernel

end Instant

end Rehoming.Time
