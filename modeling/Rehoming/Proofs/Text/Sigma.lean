import Rehoming.Text.Lowercase
/-!
# Lowercase forms of parts

The lowercase form of a part of a text stands in the lowercase form of the text, if the capital
sigmas of the part have the same form in the part and in the text.  They may have different
ones: the sigma that ends a part may be followed by a letter in the text.
-/

namespace Rehoming.Text

variable {before before' cs more after after' : List Char}

/-- The lowercase form of the characters between `before`, which is given nearest first, and
`after`. -/
def lowercaseBetween (before : List Char) (cs after : List Char) : List Char :=
  match cs with
  | [] => []
  | c :: r =>
    (if c = capitalSigma then [lowercaseSigma before (r ++ after)] else lowercaseChar c)
      ++ lowercaseBetween (c :: before) r after

theorem lowercaseAfter_eq (before cs : List Char) :
  lowercaseAfter before cs = lowercaseBetween before cs []
  := by
  induction cs generalizing before with
  | nil => rfl
  | cons c r ih => rw [lowercaseAfter, lowercaseBetween, ih, List.append_nil]

theorem lowercaseBetween_append (before cs more after : List Char) :
  lowercaseBetween before (cs ++ more) after
    = lowercaseBetween before cs (more ++ after) ++ lowercaseBetween (cs.reverse ++ before) more after
  := by
  induction cs generalizing before with
  | nil => rfl
  | cons c r ih =>
    rw [List.cons_append, lowercaseBetween, ih, lowercaseBetween, List.append_assoc, List.append_assoc,
      List.reverse_cons, List.append_assoc, List.singleton_append]

/-- Between other characters the lowercase form of some is the same exactly if that of each of
their capital sigmas is. -/
theorem lowercaseBetween_eq_iff :
  lowercaseBetween before cs after = lowercaseBetween before' cs after'
    ↔ ∀ front back, cs = front ++ capitalSigma :: back →
        lowercaseSigma (front.reverse ++ before) (back ++ after)
          = lowercaseSigma (front.reverse ++ before') (back ++ after')
  := by
  induction cs generalizing before before' with
  | nil => simp [lowercaseBetween]
  | cons c r ih =>
    rw [lowercaseBetween, lowercaseBetween]
    constructor
    · intro h front back hcs
      obtain ⟨hfirst, hrest⟩ := List.append_inj h (by split <;> rfl)
      obtain ⟨rfl, hcs⟩ | ⟨front, rfl, hr⟩ := List.cons_eq_append_iff.mp hcs
      · obtain ⟨rfl, rfl⟩ := List.cons.inj hcs
        simpa using hfirst
      · simpa using ih.mp hrest front back hr
    · intro h
      congr 1
      · split
        next hc =>
          have hfirst := h [] r (congrArg (· :: r) hc)
          simpa using hfirst
        next => rfl
      · rw [ih]
        rintro front back rfl
        simpa using h (c :: front) back rfl

/-- That the capital sigmas of some characters have the same lowercase forms between `before`,
which is given nearest first, and `after` as they have without. -/
def KeepsSigmas (before cs after : List Char) : Prop :=
  ∀ front back, cs = front ++ capitalSigma :: back →
    lowercaseSigma (front.reverse ++ before) (back ++ after) = lowercaseSigma front.reverse back

theorem keepsSigmas_iff :
  KeepsSigmas before cs after ↔ lowercaseBetween before cs after = lowercaseAfter [] cs
  := by
  rw [lowercaseAfter_eq, lowercaseBetween_eq_iff]
  simp only [KeepsSigmas, List.append_nil]

theorem keepsSigmas_of_not_mem (h : capitalSigma ∉ cs) :
  KeepsSigmas before cs after
  := by
  rintro front back rfl
  simp at h

/-- What stands behind some characters and does not start with a cased letter does not tell
whether they do. -/
theorem startsCased_append (h : startsCased more = false) :
  startsCased (cs ++ more) = startsCased cs
  := by
  cases hdrop : cs.dropWhile (fun c => inRanges ignorableRanges c.toNat) with
  | nil =>
    rw [startsCased, List.dropWhile_append, hdrop, List.isEmpty_nil, if_pos rfl, ← startsCased, h,
      startsCased, hdrop]
  | cons c r =>
    rw [startsCased, startsCased, List.dropWhile_append, hdrop]
    rfl

/-- If no cased letter stands at either end, case-ignorable characters in between not counted,
the capital sigmas keep their forms. -/
theorem keepsSigmas_of_whole (hbefore : startsCased before = false)
    (hafter : startsCased after = false) :
  KeepsSigmas before cs after
  := by
  intro front back _
  rw [lowercaseSigma, startsCased_append hbefore, startsCased_append hafter, ← lowercaseSigma]

/-- The lowercase form of a part whose capital sigmas keep their forms stands in the lowercase
form of the whole. -/
theorem lowercaseAfter_infix {front back : List Char} (h : KeepsSigmas front.reverse cs back) :
  lowercaseAfter [] cs <:+: lowercaseAfter [] (front ++ cs ++ back)
  := by
  rw [lowercaseAfter_eq [] (front ++ cs ++ back), lowercaseBetween_append, lowercaseBetween_append]
  simp only [List.append_nil]
  rw [keepsSigmas_iff.mp h]
  apply List.infix_append

end Rehoming.Text
