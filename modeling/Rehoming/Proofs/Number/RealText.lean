import Rehoming.Number.RealText
import Rehoming.Proofs.Number.Natural
import Mathlib.Data.List.TakeDrop
/-!
# The texts of real numbers

A text is read as a real number exactly if the grammar says so: a sign or none, and then a word, or
digits with or without a point among them and an exponent or none.
-/

namespace Rehoming.Number

/-- A sign, or none. -/
inductive Sign : Bool → List Char → Prop where
  | absent : Sign false []
  | plus : Sign false ['+']
  | minus : Sign true ['-']

/-- An exponent, or none: a mark, a sign or none, and digits. -/
inductive Exponent : List Char → Int → Prop where
  | absent : Exponent [] 0
  | present {mark : Char} {negative : Bool} {sign digits : List Char} {n : Nat}
      (hmark : mark = 'e' ∨ mark = 'E') (hsign : Sign negative sign) (hdigits : digits? digits = some n) :
      Exponent (mark :: (sign ++ digits)) (if negative then -(n : Int) else n)

/-- A decimal number: digits on either side of a point, or digits without a point, and an exponent
or none. -/
inductive Decimal : List Char → Nat → Int → Prop where
  | mk {whole point fraction tail : List Char} {n : Nat} {e : Int}
      (hpoint : point = ['.'] ∨ point = [] ∧ fraction = [])
      (hwhole : whole.all Char.isDigit = true) (hfraction : fraction.all Char.isDigit = true)
      (hdigits : digits? (whole ++ fraction) = some n) (htail : Exponent tail e) :
      Decimal (whole ++ (point ++ (fraction ++ tail))) n (e - fraction.length)

/-- A real number: a sign or none, and a word or a decimal number. -/
inductive RealText : List Char → Reading → Prop where
  | nan {negative : Bool} {sign word : List Char} (hsign : Sign negative sign)
      (hword : word.map Char.toLower = "nan".toList) : RealText (sign ++ word) .nan
  | infinite {negative : Bool} {sign word : List Char} (hsign : Sign negative sign)
      (hword : word.map Char.toLower = "inf".toList ∨ word.map Char.toLower = "infinity".toList) :
      RealText (sign ++ word) (.infinite negative)
  | decimal {negative : Bool} {sign cs : List Char} {n : Nat} {e : Int} (hsign : Sign negative sign)
      (hdecimal : Decimal cs n e) : RealText (sign ++ cs) (.decimal negative n e)

variable {negative : Bool} {sign cs rest whole fraction tail : List Char} {n : Nat} {e : Int}
  {r : Reading}

/-! ### Signs -/

theorem takeSign_spec (cs : List Char) :
  ∃ negative sign rest, takeSign cs = (negative, rest) ∧ Sign negative sign ∧ sign ++ rest = cs
  := by
  rw [takeSign.eq_def]
  split
  · exact ⟨_, _, _, rfl, .minus, rfl⟩
  · exact ⟨_, _, _, rfl, .plus, rfl⟩
  · exact ⟨_, _, _, rfl, .absent, rfl⟩

/-- A sign is taken off what does not begin with one. -/
theorem takeSign_append (h : Sign negative sign) (hplus : cs.head? ≠ some '+')
    (hminus : cs.head? ≠ some '-') :
  takeSign (sign ++ cs) = (negative, cs)
  := by
  cases h with
  | plus => rfl
  | minus => rfl
  | absent =>
    cases cs with
    | nil => rfl
    | cons c r =>
      rw [List.nil_append, takeSign]
      · rintro r heq
        obtain ⟨rfl, -⟩ := List.cons.inj heq
        cases hminus rfl
      · rintro r heq
        obtain ⟨rfl, -⟩ := List.cons.inj heq
        cases hplus rfl

/-! ### Digits -/

theorem spanDigits_eq (cs : List Char) :
  spanDigits cs = (cs.takeWhile Char.isDigit, cs.dropWhile Char.isDigit)
  := by
  have hdigit : (fun c => (digit? c).isSome) = Char.isDigit := by
    funext c
    rw [digit?_eq]
    split
    next hc => simp [hc]
    next hc => simp [hc]
  rw [spanDigits, hdigit, List.span_eq_takeWhile_dropWhile]

/-- Digits are taken off what does not begin with one. -/
theorem spanDigits_append (h : whole.all Char.isDigit = true)
    (hrest : ∀ c, rest.head? = some c → c.isDigit = false) :
  spanDigits (whole ++ rest) = (whole, rest)
  := by
  have hall : ∀ c ∈ whole, c.isDigit = true := List.all_eq_true.mp h
  rw [spanDigits_eq, List.takeWhile_append_of_pos hall, List.dropWhile_append_of_pos hall]
  cases rest with
  | nil => simp
  | cons c r => simp [hrest c rfl]

theorem exists_digits_append (cs : List Char) :
  ∃ whole rest, whole ++ rest = cs ∧ whole.all Char.isDigit = true
    ∧ ∀ c, rest.head? = some c → c.isDigit = false
  := by
  refine ⟨cs.takeWhile Char.isDigit, cs.dropWhile Char.isDigit, List.takeWhile_append_dropWhile,
    List.all_takeWhile, ?_⟩
  intro c hc
  have hhead := List.head?_dropWhile_not Char.isDigit cs
  rw [hc] at hhead
  simpa using hhead

theorem exponent?_cons {mark : Char} (hmark : mark = 'e' ∨ mark = 'E') (cs : List Char) :
  exponent? (mark :: cs)
    = (digits? (takeSign cs).2).map fun n : Nat => if (takeSign cs).1 then -(n : Int) else n
  := by
  rw [exponent?, if_pos hmark]
  cases hdigits : digits? (takeSign cs).2 with
  | none => simp only [hdigits]; rfl
  | some n => simp only [hdigits]; rfl

theorem exponent?_eq_some_iff :
  exponent? tail = some e ↔ Exponent tail e
  := by
  constructor
  · intro h
    cases tail with
    | nil =>
      obtain rfl := Option.some.inj h
      exact .absent
    | cons mark cs =>
      by_cases hmark : mark = 'e' ∨ mark = 'E'
      · obtain ⟨negative, sign, rest, htake, hsign, rfl⟩ := takeSign_spec cs
        rw [exponent?_cons hmark, htake] at h
        obtain ⟨n, hn, rfl⟩ := Option.map_eq_some_iff.mp h
        exact .present hmark hsign hn
      · rw [exponent?, if_neg hmark] at h
        cases h
  · intro h
    cases h with
    | absent => rfl
    | present hmark hsign hdigits =>
      obtain ⟨hne, hall, -⟩ := digits?_eq_some_iff.mp hdigits
      obtain ⟨first, later, rfl⟩ := List.exists_cons_of_ne_nil hne
      have hfirst : first.isDigit = true := List.all_eq_true.mp hall first List.mem_cons_self
      rw [exponent?_cons hmark, takeSign_append hsign]
      · simp [hdigits]
      · rintro ⟨⟩
        cases hfirst
      · rintro ⟨⟩
        cases hfirst

/-! ### Decimal numbers -/

/-- No exponent begins with a digit or a point. -/
theorem Exponent.head_ne {c : Char} (h : Exponent tail e) (hc : tail.head? = some c) :
  c.isDigit = false ∧ c ≠ '.'
  := by
  cases h with
  | absent => cases hc
  | present hmark hsign hdigits =>
    obtain rfl := Option.some.inj hc
    obtain rfl | rfl := hmark
    · decide
    · decide

theorem decimal?_of_point (hwhole : whole.all Char.isDigit = true)
    (hfraction : fraction.all Char.isDigit = true)
    (htail : ∀ c, tail.head? = some c → c.isDigit = false) :
  decimal? negative (whole ++ '.' :: (fraction ++ tail))
    = (digits? (whole ++ fraction)).bind fun n =>
        (exponent? tail).map fun e => .decimal negative n (e - fraction.length)
  := by
  have hpoint : spanDigits (whole ++ '.' :: (fraction ++ tail))
      = (whole, '.' :: (fraction ++ tail)) := by
    apply spanDigits_append hwhole
    rintro c ⟨⟩
    rfl
  simp only [decimal?, hpoint, spanDigits_append hfraction htail]

theorem decimal?_of_no_point (hwhole : whole.all Char.isDigit = true)
    (htail : ∀ c, tail.head? = some c → c.isDigit = false ∧ c ≠ '.') :
  decimal? negative (whole ++ tail)
    = (digits? whole).bind fun n => (exponent? tail).map fun e => .decimal negative n e
  := by
  have hspan := spanDigits_append hwhole fun c hc => (htail c hc).1
  cases tail with
  | nil =>
    rw [List.append_nil] at hspan ⊢
    simp [decimal?, hspan]
  | cons c r =>
    have hc : c ≠ '.' := (htail c rfl).2
    simp [decimal?, hspan, hc]

/-- What is read as a decimal number is one. -/
theorem decimal_of_decimal? (h : decimal? negative cs = some r) :
  ∃ n e, Decimal cs n e ∧ r = .decimal negative n e
  := by
  obtain ⟨whole, rest, rfl, hwhole, hrest⟩ := exists_digits_append cs
  by_cases hpoint : rest.head? = some '.'
  · obtain ⟨after, rfl⟩ := List.head?_eq_some_iff.mp hpoint
    obtain ⟨fraction, tail, rfl, hfraction, htail⟩ := exists_digits_append after
    rw [decimal?_of_point hwhole hfraction htail] at h
    obtain ⟨n, hdigits, hn⟩ := Option.bind_eq_some_iff.mp h
    obtain ⟨e, he, rfl⟩ := Option.map_eq_some_iff.mp hn
    exact ⟨_, _, .mk (.inl rfl) hwhole hfraction hdigits (exponent?_eq_some_iff.mp he), rfl⟩
  · have htail : ∀ c, rest.head? = some c → c.isDigit = false ∧ c ≠ '.' := by
      intro c hc
      refine ⟨hrest c hc, ?_⟩
      rintro rfl
      exact hpoint hc
    rw [decimal?_of_no_point hwhole htail] at h
    obtain ⟨n, hdigits, hn⟩ := Option.bind_eq_some_iff.mp h
    obtain ⟨e, he, rfl⟩ := Option.map_eq_some_iff.mp hn
    have hdecimal := Decimal.mk (.inr ⟨rfl, rfl⟩) hwhole rfl
      (by rwa [List.append_nil]) (exponent?_eq_some_iff.mp he)
    simp only [List.nil_append, List.length_nil, Int.natCast_zero, Int.sub_zero] at hdecimal
    exact ⟨n, e, hdecimal, rfl⟩

/-- A decimal number is read as one. -/
theorem Decimal.decimal?_eq (h : Decimal cs n e) :
  decimal? negative cs = some (.decimal negative n e)
  := by
  cases h with
  | mk hpoint hwhole hfraction hdigits htail =>
    have hread := exponent?_eq_some_iff.mpr htail
    obtain rfl | ⟨rfl, rfl⟩ := hpoint
    · rw [List.singleton_append, decimal?_of_point hwhole hfraction fun c hc => (htail.head_ne hc).1,
        hdigits, hread]
      rfl
    · rw [List.append_nil] at hdigits
      rw [List.nil_append, List.nil_append, decimal?_of_no_point hwhole fun c hc => htail.head_ne hc,
        hdigits, hread]
      simp

/-- A decimal number begins with a digit or a point. -/
theorem Decimal.exists_head (h : Decimal cs n e) :
  ∃ c, cs.head? = some c ∧ (c.isDigit = true ∨ c = '.')
  := by
  cases h with
  | mk hpoint hwhole hfraction hdigits htail =>
    obtain ⟨hne, -, -⟩ := digits?_eq_some_iff.mp hdigits
    rename_i whole point fraction tail e
    cases whole with
    | cons c r => exact ⟨c, rfl, .inl (List.all_eq_true.mp hwhole c List.mem_cons_self)⟩
    | nil =>
      obtain rfl | ⟨rfl, rfl⟩ := hpoint
      · exact ⟨'.', rfl, .inr rfl⟩
      · cases hne rfl

/-! ### All texts -/

theorem head?_map_toLower {c : Char} (h : cs.head? = some c) :
  (cs.map Char.toLower).head? = some c.toLower
  := by
  rw [List.head?_map, h, Option.map_some]

theorem toLower_of_isDigit {c : Char} (h : c.isDigit = true ∨ c = '.') :
  c.toLower = c
  := by
  obtain h | rfl := h
  · have hnine := (Char.isDigit_iff_toNat.mp h).2
    apply dif_neg
    rintro ⟨hcapital, -⟩
    have hlow : 65 ≤ c.toNat := hcapital
    have hhigh : c.toNat ≤ 57 := hnine
    omega
  · rfl

theorem reading?_of_takeSign {s : String} (h : takeSign s.toList = (negative, cs)) :
  reading? s =
    if cs.map Char.toLower = "nan".toList then some .nan
    else if cs.map Char.toLower = "inf".toList ∨ cs.map Char.toLower = "infinity".toList then
      some (.infinite negative)
    else decimal? negative cs
  := by
  rw [reading?, h]

/-- What follows a sign is found behind it if it begins like a word or like a number. -/
theorem takeSign_append_of_toLower (hsign : Sign negative sign) {c : Char}
    (hc : (cs.map Char.toLower).head? = some c) (hplus : c ≠ '+') (hminus : c ≠ '-') :
  takeSign (sign ++ cs) = (negative, cs)
  := by
  apply takeSign_append hsign
  · intro hhead
    rw [head?_map_toLower hhead] at hc
    exact hplus (Option.some.inj hc).symm
  · intro hhead
    rw [head?_map_toLower hhead] at hc
    exact hminus (Option.some.inj hc).symm

theorem realText_of_reading? {s : String} (h : reading? s = some r) :
  RealText s.toList r
  := by
  obtain ⟨negative, sign, rest, htake, hsign, hs⟩ := takeSign_spec s.toList
  rw [reading?_of_takeSign htake] at h
  rw [← hs]
  split at h
  next hword =>
    obtain rfl := Option.some.inj h
    exact .nan hsign hword
  next =>
    split at h
    next hword =>
      obtain rfl := Option.some.inj h
      exact .infinite hsign hword
    next =>
      obtain ⟨n, e, hdecimal, rfl⟩ := decimal_of_decimal? h
      exact .decimal hsign hdecimal

/-- A decimal number behind a sign is none of the words, which begin with a letter. -/
theorem reading?_of_decimal {s : String} (hsign : Sign negative sign) (hdecimal : Decimal cs n e)
    (hs : s.toList = sign ++ cs) :
  reading? s = some (.decimal negative n e)
  := by
  obtain ⟨c, hc, hfirst⟩ := hdecimal.exists_head
  have hhead := head?_map_toLower hc
  rw [toLower_of_isDigit hfirst] at hhead
  have hnot {d : Char} (hd : d.isDigit = false ∧ d ≠ '.') : c ≠ d := by
    rintro rfl
    obtain h | h := hfirst
    · rw [hd.1] at h
      cases h
    · exact hd.2 h
  have hword {d : Char} {word : List Char} (hd : d.isDigit = false ∧ d ≠ '.')
      (hword : word.head? = some d) : cs.map Char.toLower ≠ word := by
    rintro rfl
    rw [hword] at hhead
    exact hnot hd (Option.some.inj hhead).symm
  have htake : takeSign s.toList = (negative, cs) := by
    rw [hs]
    apply takeSign_append_of_toLower hsign hhead (hnot (by decide)) (hnot (by decide))
  rw [reading?_of_takeSign htake, if_neg (hword (d := 'n') (by decide) rfl), if_neg, hdecimal.decimal?_eq]
  exact not_or.mpr ⟨hword (d := 'i') (by decide) rfl, hword (d := 'i') (by decide) rfl⟩

/-- A text is read as a real number exactly if it is one by the grammar. -/
theorem reading?_eq_some_iff {s : String} :
  reading? s = some r ↔ RealText s.toList r
  := by
  constructor
  · exact realText_of_reading?
  intro h
  generalize hs : s.toList = text at h
  cases h with
  | nan hsign hword =>
    have htake := takeSign_append_of_toLower hsign (c := 'n') (by rw [hword]; rfl) (by decide) (by decide)
    rw [reading?_of_takeSign (hs ▸ htake), if_pos hword]
  | infinite hsign hword =>
    have hhead := hword.elim (congrArg List.head?) (congrArg List.head?)
    have htake := takeSign_append_of_toLower hsign (c := 'i') hhead (by decide) (by decide)
    have hnot : ¬("inf".toList = "nan".toList ∨ "infinity".toList = "nan".toList) := by decide
    rw [reading?_of_takeSign (hs ▸ htake), if_neg, if_pos hword]
    intro hnan
    rw [hnan] at hword
    exact hnot (hword.imp Eq.symm Eq.symm)
  | decimal hsign hdecimal => exact reading?_of_decimal hsign hdecimal hs

end Rehoming.Number
