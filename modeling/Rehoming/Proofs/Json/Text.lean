import Rehoming.Proofs.Json.Scalar
/-!
# Documents that are read back from their texts

A document without flaws is read back from its text, if its whole numbers fit into 64 bits, its
doubles are read back from theirs, and its containers are nested no deeper than the reader
goes.
-/

namespace Rehoming

/-- The text of a double is read as the double, to its end. -/
def Double.ReadsBack (x : Double) : Prop :=
  Json.readScalar x.text.toList = (.real x, some [])

namespace Json

/-! ### The texts of containers -/

mutual

/-- The text of a document is put behind the text that is there. -/
theorem appendTo_eq (out : String) (j : Json) :
  appendTo out j = out ++ j.text
  := by
  cases j with
  | bool b => cases b <;> simp [text, appendTo]
  | arr items =>
    simp only [text, appendTo, String.empty_append]
    rw [appendItems_eq, appendItems_eq "["]
    simp only [String.append_assoc]
  | obj members =>
    simp only [text, appendTo, String.empty_append]
    rw [appendMembers_eq, appendMembers_eq "\x7b"]
    simp only [String.append_assoc]
  | _ => simp [text, appendTo]

theorem appendItems_eq (out : String) (first : Bool) (items : List Json) :
  appendItems out first items = out ++ appendItems "" first items
  := by
  cases items with
  | nil => simp [appendItems]
  | cons j rest =>
    simp only [appendItems]
    rw [appendItems_eq (appendTo _ j), appendTo_eq _ j]
    conv => rhs; rw [appendItems_eq (appendTo _ j), appendTo_eq _ j]
    cases first <;> simp [String.append_assoc]

theorem appendMembers_eq (out : String) (first : Bool) (members : List (String × Json)) :
  appendMembers out first members = out ++ appendMembers "" first members
  := by
  cases members with
  | nil => simp [appendMembers]
  | cons m rest =>
    obtain ⟨key, j⟩ := m
    simp only [appendMembers]
    rw [appendMembers_eq (appendTo _ j), appendTo_eq _ j]
    conv => rhs; rw [appendMembers_eq (appendTo _ j), appendTo_eq _ j]
    cases first <;> simp [String.append_assoc]

end

/-- The text of a member of an object. -/
def memberText (m : String × Json) : List Char :=
  '"' :: (m.1.toList.flatMap escaped ++ '"' :: ':' :: m.2.text.toList)

theorem toList_appendItems (items : List Json) :
  (appendItems "" false items).toList = items.flatMap fun j => ',' :: j.text.toList
  := by
  induction items with
  | nil => simp [appendItems]
  | cons j rest ih =>
    rw [appendItems, appendItems_eq, appendTo_eq, String.toList_append, ih]
    simp

theorem toList_appendMembers (members : List (String × Json)) :
  (appendMembers "" false members).toList = members.flatMap fun m => ',' :: memberText m
  := by
  induction members with
  | nil => simp [appendMembers]
  | cons m rest ih =>
    rw [appendMembers, appendMembers_eq, appendTo_eq, String.toList_append, ih]
    simp [memberText, quoted]

theorem toList_text_arr (j : Json) (rest : List Json) :
  (Json.arr (j :: rest)).text.toList
    = '[' :: (j.text.toList ++ (rest.flatMap fun j => ',' :: j.text.toList) ++ [']'])
  := by
  rw [text, appendTo, appendItems, appendItems_eq, appendTo_eq]
  simp [toList_appendItems]

theorem toList_text_obj (m : String × Json) (rest : List (String × Json)) :
  (Json.obj (m :: rest)).text.toList
    = '\x7b' :: (memberText m ++ (rest.flatMap fun m => ',' :: memberText m) ++ ['\x7d'])
  := by
  rw [text, appendTo, appendMembers, appendMembers_eq, appendTo_eq]
  simp [toList_appendMembers, memberText, quoted]

/-! ### What a text can tell -/

mutual

/-- How deep the containers of a document are nested. -/
def nesting : Json → Nat
  | .arr items => itemsNesting items + 1
  | .obj members => membersNesting members + 1
  | _ => 0

/-- How deep the containers of some documents are nested. -/
def itemsNesting : List Json → Nat
  | [] => 0
  | j :: r => max (nesting j) (itemsNesting r)

/-- How deep the containers of the values of some members are nested. -/
def membersNesting : List (String × Json) → Nat
  | [] => 0
  | (_, j) :: r => max (nesting j) (membersNesting r)

end

mutual

/-- The doubles of a document. -/
def doubles : Json → List Double
  | .real x => [x]
  | .arr items => itemsDoubles items
  | .obj members => membersDoubles members
  | _ => []

/-- The doubles of some documents. -/
def itemsDoubles : List Json → List Double
  | [] => []
  | j :: r => doubles j ++ itemsDoubles r

/-- The doubles of the values of some members. -/
def membersDoubles : List (String × Json) → List Double
  | [] => []
  | (_, j) :: r => doubles j ++ membersDoubles r

end

theorem nesting_le_itemsNesting {items : List Json} {j : Json} (h : j ∈ items) :
  j.nesting ≤ itemsNesting items
  := by
  induction items with
  | nil => cases h
  | cons k rest ih =>
    rw [itemsNesting]
    rcases List.mem_cons.mp h with rfl | h
    · exact Nat.le_max_left _ _
    · exact Nat.le_trans (ih h) (Nat.le_max_right _ _)

theorem nesting_le_membersNesting {members : List (String × Json)} {m : String × Json}
    (h : m ∈ members) :
  m.2.nesting ≤ membersNesting members
  := by
  induction members with
  | nil => cases h
  | cons k rest ih =>
    rw [membersNesting]
    rcases List.mem_cons.mp h with rfl | h
    · exact Nat.le_max_left _ _
    · exact Nat.le_trans (ih h) (Nat.le_max_right _ _)

theorem itemsDoubles_eq_flatMap (items : List Json) :
  itemsDoubles items = items.flatMap doubles
  := by
  induction items with
  | nil => rfl
  | cons j rest ih => rw [itemsDoubles, ih, List.flatMap_cons]

theorem membersDoubles_eq_flatMap (members : List (String × Json)) :
  membersDoubles members = members.flatMap (doubles ·.2)
  := by
  induction members with
  | nil => rfl
  | cons m rest ih => rw [membersDoubles, ih, List.flatMap_cons]

/-- A document without flaws whose whole numbers fit into 64 bits. -/
inductive Plain : Json → Prop
  | null : Plain .null
  | bool (b : Bool) : Plain (.bool b)
  | int {i : Int} (hlow : -(Number.wordLimit 63 : Int) ≤ i) (hhigh : i < Number.wordLimit 64) :
    Plain (.int i)
  | real (x : Double) : Plain (.real x)
  | str (s : String) : Plain (.str s)
  | arr {items : List Json} (h : ∀ j ∈ items, Plain j) : Plain (.arr items)
  | obj {members : List (String × Json)} (h : ∀ m ∈ members, Plain m.2) : Plain (.obj members)

/-! ### Reading values -/

/-- A document is read from its text whatever follows that can follow a value, with fuel in
proportion to the length of the text, when `depth` containers may be opened. -/
structure IsRead (depth : Nat) (j : Json) : Prop where
  begins : ∃ c cs, j.text.toList = c :: cs ∧ isSpace c = false ∧ c ≠ ']'
  reads : ∀ fuel rest, 2 * j.text.toList.length ≤ fuel → Closed rest →
    readValue fuel depth (j.text.toList ++ rest) = (j, some rest)

variable {depth : Nat} {j : Json} {cs rest : List Char}

theorem skipSpace_cons {c : Char} (h : isSpace c = false) :
  skipSpace (c :: cs) = c :: cs
  := by
  simp [skipSpace, h]

/-- White space and the brackets that are looked for where a value begins. -/
def nonScalar : List Char :=
  [' ', '\n', '\t', '\r', '[', ']', '\x7b']

theorem readValue_scalar {c : Char} (hc : c ∉ nonScalar) (fuel depth : Nat) :
  readValue (fuel + 1) depth (c :: cs) = readScalar (c :: cs)
  := by
  simp only [nonScalar, List.mem_cons, List.not_mem_nil, or_false, not_or] at hc
  have hspace : isSpace c = false := by simp [isSpace, hc]
  rw [readValue, skipSpace_cons hspace]
  all_goals simp [skipSpace_cons hspace, hc]

theorem IsRead.of_scalar {c : Char} (htext : j.text.toList = c :: cs) (hc : c ∉ nonScalar)
    (hread : ∀ rest, Closed rest → readScalar (c :: (cs ++ rest)) = (j, some rest)) :
  IsRead depth j
  where
  begins := by
    simp only [nonScalar, List.mem_cons, List.not_mem_nil, or_false, not_or] at hc
    exact ⟨c, cs, htext, by simp [isSpace, hc], hc.2.2.2.2.2.1⟩
  reads := by
    intro fuel rest hfuel hrest
    cases fuel with
    | zero => simp [htext] at hfuel
    | succ fuel => rw [htext, List.cons_append, readValue_scalar hc, hread rest hrest]

theorem IsRead.of_numeral (h : IsNumeral j.text.toList j) :
  IsRead depth j
  := by
  have hread (rest : List Char) : Closed rest → _ := h.readScalar_append
  obtain ⟨c, r, htext, hc⟩ := h
  rw [htext] at hread
  apply IsRead.of_scalar htext _ hread
  rcases hc with ⟨rfl, -⟩ | ⟨hdigit, -⟩
  · decide
  · intro hin
    have hnone : (nonScalar.all fun c => (Number.digit? c).isNone) = true := by decide
    rw [Option.isNone_iff_eq_none.mp (List.all_eq_true.mp hnone c hin)] at hdigit
    cases hdigit

/-- The items of an array are read one after the other. -/
theorem readItems_text {j : Json} {rest : List Json} (hj : IsRead depth j)
    (hrest : ∀ k ∈ rest, IsRead depth k) (fuel : Nat) (after : List Char)
    (hfuel : 2 * (j.text.toList ++ rest.flatMap fun j => ',' :: j.text.toList).length < fuel) :
  readItems fuel depth
      (j.text.toList ++ (rest.flatMap fun j => ',' :: j.text.toList) ++ ']' :: after)
    = (j :: rest, some after)
  := by
  induction rest generalizing j fuel with
  | nil =>
    cases fuel with
    | zero => omega
    | succ fuel =>
      simp only [List.flatMap_nil, List.append_nil] at hfuel ⊢
      rw [readItems, hj.reads fuel _ (by omega) (by simp [Closed])]
      rfl
  | cons k rest ih =>
    cases fuel with
    | zero => omega
    | succ fuel =>
      simp only [List.flatMap_cons, List.length_append, List.length_cons] at hfuel
      simp only [List.flatMap_cons, List.append_assoc, List.cons_append]
      rw [readItems, hj.reads fuel _ (by omega) (by simp [Closed])]
      have hnext := ih (hrest k List.mem_cons_self)
        (fun l hl => hrest l (List.mem_cons_of_mem _ hl)) fuel (by simp only [List.length_append]; omega)
      simp only [List.append_assoc] at hnext
      simp [skipSpace_cons (show isSpace ',' = false from rfl), hnext]

/-- A member of an object is read, and what follows it tells whether it is the last. -/
theorem readMembers_memberText {m : String × Json} (hm : IsRead depth m.2) {fuel : Nat}
    (hfuel : 2 * (memberText m).length ≤ fuel) {after : List Char} (hafter : Closed after) :
  readMembers (fuel + 1) depth (memberText m ++ after) =
    match skipSpace after with
    | '\x7d' :: r => ([m], some r)
    | ',' :: r => let (members, r) := readMembers fuel depth r; (m :: members, r)
    | _ => ([m, ("", .flawed .brokenKey)], none)
  := by
  simp only [memberText, List.length_cons, List.length_append] at hfuel
  simp only [memberText, List.cons_append, List.append_assoc]
  rw [readMembers, skipSpace_cons rfl]
  simp only [readString_quoted]
  rw [skipSpace_cons rfl]
  simp only [hm.reads fuel after (by omega) hafter]
  rfl

/-- The members of an object are read one after the other. -/
theorem readMembers_text {m : String × Json} {rest : List (String × Json)}
    (hm : IsRead depth m.2) (hrest : ∀ k ∈ rest, IsRead depth k.2) (fuel : Nat)
    (after : List Char)
    (hfuel : 2 * (memberText m ++ rest.flatMap fun m => ',' :: memberText m).length < fuel) :
  readMembers fuel depth
      (memberText m ++ (rest.flatMap fun m => ',' :: memberText m) ++ '\x7d' :: after)
    = (m :: rest, some after)
  := by
  induction rest generalizing m fuel with
  | nil =>
    cases fuel with
    | zero => omega
    | succ fuel =>
      simp only [List.flatMap_nil, List.append_nil] at hfuel ⊢
      rw [readMembers_memberText hm (by omega) (by simp [Closed])]
      rfl
  | cons k rest ih =>
    cases fuel with
    | zero => omega
    | succ fuel =>
      simp only [List.flatMap_cons, List.length_append, List.length_cons] at hfuel
      have hnext := ih (hrest k List.mem_cons_self)
        (fun l hl => hrest l (List.mem_cons_of_mem _ hl)) fuel
        (by simp only [List.length_append]; omega)
      simp only [List.append_assoc] at hnext
      simp only [List.flatMap_cons, List.append_assoc, List.cons_append]
      rw [readMembers_memberText hm (by omega) (by simp [Closed])]
      simp [skipSpace_cons (show isSpace ',' = false from rfl), hnext]

theorem readValue_items {c : Char} (hspace : isSpace c = false) (hclosing : c ≠ ']')
    {fuel : Nat} {items : List Json} {after : Option (List Char)}
    (h : readItems fuel depth (c :: cs) = (items, after)) :
  readValue (fuel + 1) (depth + 1) ('[' :: c :: cs) = (.arr items, after)
  := by
  have hopen : skipSpace ('[' :: c :: cs) = '[' :: c :: cs := skipSpace_cons rfl
  simp [readValue, hopen, skipSpace_cons hspace, hclosing, h]

theorem IsRead.of_arr {items : List Json} (h : ∀ j ∈ items, IsRead depth j) :
  IsRead (depth + 1) (.arr items)
  := by
  cases items with
  | nil =>
    refine ⟨⟨'[', [']'], rfl, rfl, by decide⟩, ?_⟩
    rintro (_ | fuel) rest hfuel -
    · cases hfuel
    · rfl
  | cons j items =>
    have htext := toList_text_arr j items
    refine ⟨⟨'[', _, htext, rfl, by decide⟩, ?_⟩
    rintro (_ | fuel) rest hfuel -
    · simp [htext] at hfuel
    · have hj := h j List.mem_cons_self
      have hread := readItems_text hj (fun k hk => h k (List.mem_cons_of_mem _ hk)) fuel rest
        (by simp only [htext, List.length_cons, List.length_append] at hfuel ⊢; omega)
      obtain ⟨c, cs, hbegins, hspace, hclosing⟩ := hj.begins
      rw [hbegins] at hread
      rw [htext, hbegins]
      simp only [List.cons_append, List.append_assoc, List.nil_append] at hread ⊢
      exact readValue_items hspace hclosing hread

theorem readValue_members {fuel : Nat} {members : List (String × Json)}
    {after : Option (List Char)} (h : readMembers fuel depth ('"' :: cs) = (members, after)) :
  readValue (fuel + 1) (depth + 1) ('\x7b' :: '"' :: cs) = (.obj members, after)
  := by
  have hopen : skipSpace ('\x7b' :: '"' :: cs) = '\x7b' :: '"' :: cs := skipSpace_cons rfl
  have hkey : skipSpace ('"' :: cs) = '"' :: cs := skipSpace_cons rfl
  simp [readValue, hopen, hkey, h]

theorem IsRead.of_obj {members : List (String × Json)} (h : ∀ m ∈ members, IsRead depth m.2) :
  IsRead (depth + 1) (.obj members)
  := by
  cases members with
  | nil =>
    refine ⟨⟨'\x7b', ['\x7d'], rfl, rfl, by decide⟩, ?_⟩
    rintro (_ | fuel) rest hfuel -
    · cases hfuel
    · rfl
  | cons m members =>
    have htext := toList_text_obj m members
    refine ⟨⟨'\x7b', _, htext, rfl, by decide⟩, ?_⟩
    rintro (_ | fuel) rest hfuel -
    · simp [htext] at hfuel
    · have hread := readMembers_text (h m List.mem_cons_self)
        (fun k hk => h k (List.mem_cons_of_mem _ hk)) fuel rest
        (by simp only [htext, List.length_cons, List.length_append] at hfuel ⊢; omega)
      rw [htext]
      simp only [memberText, List.cons_append, List.append_assoc, List.nil_append] at hread ⊢
      exact readValue_members hread

/-- A document is read back from its text. -/
theorem Plain.isRead (h : j.Plain) (hnesting : j.nesting ≤ depth)
    (hdoubles : ∀ x ∈ j.doubles, x.ReadsBack) :
  IsRead depth j
  := by
  induction h generalizing depth with
  | null => exact .of_scalar rfl (by decide) fun _ _ => rfl
  | bool b =>
    cases b with
    | true => exact .of_scalar rfl (by decide) fun _ _ => rfl
    | false => exact .of_scalar rfl (by decide) fun _ _ => rfl
  | @int i hlow hhigh =>
    apply IsRead.of_numeral
    have htext : (Json.int i).text = toString i := String.empty_append
    rw [htext]
    exact isNumeral_int hlow hhigh
  | real x =>
    apply IsRead.of_numeral
    have htext : (Json.real x).text = x.text := String.empty_append
    rw [htext]
    exact isNumeral_of_readScalar (hdoubles x List.mem_cons_self)
  | str s =>
    have htext : (Json.str s).text.toList = '"' :: (s.toList.flatMap escaped ++ ['"']) := by
      simp [text, appendTo, quoted]
    apply IsRead.of_scalar htext (by decide)
    intro rest _
    simpa [readScalar] using readString_quoted s rest
  | @arr items _ ih =>
    cases depth with
    | zero => cases hnesting
    | succ depth =>
      have hitems : itemsNesting items ≤ depth := Nat.le_of_succ_le_succ hnesting
      apply IsRead.of_arr
      intro j hj
      apply ih j hj (Nat.le_trans (nesting_le_itemsNesting hj) hitems)
      intro x hx
      apply hdoubles
      rw [doubles, itemsDoubles_eq_flatMap]
      exact List.mem_flatMap_of_mem hj hx
  | @obj members _ ih =>
    cases depth with
    | zero => cases hnesting
    | succ depth =>
      have hmembers : membersNesting members ≤ depth := Nat.le_of_succ_le_succ hnesting
      apply IsRead.of_obj
      intro m hm
      apply ih m hm (Nat.le_trans (nesting_le_membersNesting hm) hmembers)
      intro x hx
      apply hdoubles
      rw [doubles, membersDoubles_eq_flatMap]
      exact List.mem_flatMap_of_mem hm hx

/-- A document is read back from its text, if its doubles are and it is not nested too deep. -/
theorem Plain.ofText_text (h : j.Plain) (hnesting : j.nesting ≤ depthLimit)
    (hdoubles : ∀ x ∈ j.doubles, x.ReadsBack) :
  ofText j.text = j
  := by
  have hread := (h.isRead hnesting hdoubles).reads (2 * j.text.toList.length + 2) []
    (Nat.le_add_right _ _) (by simp [Closed])
  rw [List.append_nil] at hread
  rw [ofText, hread]

end Json

end Rehoming
