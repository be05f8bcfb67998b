import Rehoming.Proofs.Service.Mutation
/-!
# Starting over

How often a commit starts over.  A write that comes too late uses up one of the retries; with
none left it ends the commit, and nothing else ends it as a write that came too late.  The
retries are counted down; a byte that counts them up never overflows.
-/

namespace Rehoming

/-- That a program only keeps the books, and does not return that a write came too late. -/
def Program.Settles {β : Type} (p : Program (Except Refusal β)) : Prop :=
  ∃ result, p.Concludes result
    ∧ ∀ expected current, result ≠ .error (.store (.staleWrite expected current))

/-- That a program, or the rest of one, reads a record and writes it, and starts over at most
`left` times when its write comes too late.  It has found a record and is about to write it, or
has not looked it up yet. -/
inductive Program.Tries {β : Type} (id : ApplicationId) :
    (left : Nat) → (found : Option Application) → Program (Except Refusal β) → Prop
  | settled {left found p} : p.Settles → Tries id left found p
  | read {left found call next} {σ : Sight} :
      σ.permits call → (∀ w, Tries id left found (next (World.answer call w).1)) →
      Tries id left found (.ask call next)
  | fetch {left next} :
      (next (.ok none)).Settles →
      (∀ before, before.applicationId = id → Tries id left (some before) (next (.ok (some before)))) →
      Tries id left none (.ask (.fetch id false) next)
  | update {left a before next} :
      a.applicationId = id →
      (∀ stored, (next (.ok stored)).Settles) →
      (∀ e, (∀ expected current, e ≠ .staleWrite expected current) → (next (.error e)).Settles) →
      (∀ expected current, left = 0 →
        next (.error (.staleWrite expected current))
          = .done (.error (.store (.staleWrite expected current)))) →
      (∀ expected current more, left = more + 1 →
        Tries id more none (next (.error (.staleWrite expected current)))) →
      Tries id left (some before) (.ask (.update a before.version) next)

/-- A call, and the world that answered it. -/
structure Exchange where
  call : Call
  world : World

/-- Whether a record has been looked up. -/
def Exchange.isLookup (x : Exchange) : Bool :=
  match x.call with
  | .fetch _ _ => true
  | _ => false

/-- Whether a client has tried to write over a record. -/
def Exchange.isUpdate (x : Exchange) : Bool :=
  match x.call with
  | .update _ _ => true
  | _ => false

/-- That a program, given the answers to some calls, leaves another one to be run. -/
inductive Program.Reaches {α : Type} : Program α → List Exchange → Program α → Prop
  | stay (p : Program α) : Reaches p [] p
  | ask {call next w rest p} :
      Reaches (next (World.answer call w).1) rest p → Reaches (.ask call next) (⟨call, w⟩ :: rest) p

variable {α β : Type} {id : ApplicationId} {left : Nat} {found : Option Application}

/-! ### What settles -/

theorem Program.settles_of_ne {e : Refusal}
    (h : ∀ expected current, e ≠ .store (.staleWrite expected current)) :
  (Program.done (.error e) : Program (Except Refusal β)).Settles
  := by
  use .error e, .done _
  intro expected current hlate
  apply h expected current (Except.error.inj hlate)

/-- A refusal that is no failure of a store settles. -/
theorem Program.settles_of_kind {e : Refusal} (h : e.kind ≠ .storeFailure) :
  (Program.done (.error e) : Program (Except Refusal β)).Settles
  := by
  apply Program.settles_of_ne
  rintro expected current rfl
  exact h rfl

/-- What answers a value in the end settles. -/
theorem Program.Concludes.settles {p : Program (Except Refusal β)} {b : β}
    (h : p.Concludes (.ok b)) :
  p.Settles
  := by
  use .ok b, h
  intro expected current hlate
  cases hlate

/-! ### Reading first -/

/-- What reads and then goes on trying tries. -/
theorem Program.Obeys.tries {E : Rehoming.World → Prop} {p : Program α} {σ : Sight}
    {f : α → Program (Except Refusal β)} (hworlds : ∀ w, E w)
    (h : p.Obeys (reading E) (fun _ a => (f a).Tries id left found) σ) :
  (p.bind f).Tries id left found
  := by
  induction p generalizing σ with
  | done a => exact h
  | ask call next ih =>
    rw [Program.ask_bind]
    apply Program.Tries.read h.1
    intro w
    apply ih
    apply h.2 w (hworlds w)

/-- A program with two outcomes has both at once. -/
theorem Program.Obeys.and {D : Discipline} {post post' : Sight → α → Prop} {p : Program α}
    {σ : Sight} (h : p.Obeys D post σ) (h' : p.Obeys D post' σ) :
  p.Obeys D (fun σ a => post σ a ∧ post' σ a) σ
  := by
  induction p generalizing σ with
  | done a => exact ⟨h, h'⟩
  | ask call next ih =>
    use h.1
    intro w hw
    apply ih _ (h.2 w hw) (h'.2 w hw)

namespace Service

/-- An operation that reads, and declines what it does not go on with, tries as often as the
rest of it. -/
theorem Obeys.tries {x : Service α} {f : α → Service β} {σ : Sight}
    (h : x.Obeys (reading fun _ => True) (fun _ a => (f a).run.Tries id left found)
      (fun _ e => e.kind ≠ .storeFailure) σ) :
  (x >>= f).run.Tries id left found
  := by
  rw [run_bind]
  apply Program.Obeys.tries (fun _ => trivial)
  apply Program.Obeys.mono (fun _ hw => hw) (fun _ _ hcall => hcall) _ h
  rintro σ (e | a) hr
  · exact .settled (Program.settles_of_kind hr)
  · exact hr

/-! ### Commits -/

section Commit

variable {policy : Policy} {actor : Actor} {change : Change α} {tail : Committed α → Service β}

/-- An attempt tries once, and once more for every retry with which it goes on when its write
comes too late. -/
theorem attempt_tries {late : Nat → Nat → Service (Committed α)}
    (hamends : ChangeAmends (fun _ => True) policy actor change)
    (hdeclines : ChangeDeclines (fun _ => True) change)
    (htail : ∀ done, ∃ b, (tail done).run.Concludes (.ok b))
    (hlast : ∀ expected current, left = 0 →
      (late expected current >>= tail).run = .done (.error (.store (.staleWrite expected current))))
    (hagain : ∀ expected current more, left = more + 1 →
      (late expected current >>= tail).run.Tries id more none) :
  (attempt policy id change late >>= tail).run.Tries id left none
  := by
  rw [attempt, LawfulMonad.bind_assoc, run_ask_bind]
  apply Program.Tries.fetch
  · exact Program.settles_of_kind (e := .applicationNotFound id) (by simp [Refusal.kind])
  intro before hname
  rw [stored_ok, pure_bind, LawfulMonad.bind_assoc, present_some, pure_bind, LawfulMonad.bind_assoc,
    run_ask_bind]
  apply Program.Tries.read (show Sight.permits {} .now from rfl)
  intro w
  rw [LawfulMonad.bind_assoc]
  apply Obeys.tries
  apply Program.Obeys.mono (fun _ hw => hw) (fun _ _ hcall => hcall) _
    ((hamends before (World.answer .now w).1 {} rfl).and
      (hdeclines before (World.answer .now w).1 {} rfl))
  rintro σ (e | ⟨draft, outcome⟩) ⟨hdraft, hkind⟩
  · exact hkind
  · obtain ⟨-, -, -, hdraft⟩ := hdraft
    simp only
    rw [LawfulMonad.bind_assoc, run_ask_bind]
    apply Program.Tries.update
    · exact hdraft.applicationId.trans hname
    · intro stored
      obtain ⟨b, hb⟩ := htail ⟨before, stored, outcome⟩
      exact hb.settles
    · rintro (_ | _ | ⟨expected, current⟩ | _ | _) hother
      case staleWrite => cases hother expected current rfl
      all_goals exact Program.settles_of_ne (by rintro expected current ⟨⟩)
    · exact hlast
    · exact hagain

/-- A commit tries once, and once more for each of its retries. -/
theorem commit_tries (hamends : ChangeAmends (fun _ => True) policy actor change)
    (hdeclines : ChangeDeclines (fun _ => True) change)
    (htail : ∀ done, ∃ b, (tail done).run.Concludes (.ok b)) (retries : Nat) :
  (commit policy id change retries >>= tail).run.Tries id retries none
  := by
  induction retries with
  | zero =>
    apply attempt_tries hamends hdeclines htail
    · intro expected current _
      rfl
    · intro expected current more hmore
      cases hmore
  | succ retries ih =>
    apply attempt_tries hamends hdeclines htail
    · intro expected current hnone
      cases hnone
    · intro expected current more hmore
      obtain rfl := Nat.succ.inj hmore
      exact ih

/-! ### Counting in a byte -/

/-- A byte below another one can be counted up. -/
theorem toNat_succ_of_lt {count limit : UInt8} (h : count < limit) :
  (count + 1).toNat = count.toNat + 1
  := by
  have hlimit := limit.toNat_lt
  rw [UInt8.lt_iff_toNat_lt] at h
  rw [UInt8.toNat_add, UInt8.toNat_one, Nat.mod_eq_of_lt (by omega)]

/-- A commit that counts, in a byte, the writes that have come too late so far, up to a limit;
should the byte overflow, it goes on with `overflow`. -/
def commitCounting (policy : Policy) (id : ApplicationId) (change : Change α)
    (overflow : Service (Committed α)) (limit count : UInt8) : Service (Committed α) :=
  attempt policy id change fun expected current =>
    if _h : count < limit then
      if count = 255 then overflow else commitCounting policy id change overflow limit (count + 1)
    else throw (.store (.staleWrite expected current))
termination_by limit.toNat - count.toNat
decreasing_by
  rw [toNat_succ_of_lt _h]
  rw [UInt8.lt_iff_toNat_lt] at _h
  omega

/-- The byte never overflows: a commit that counts up to a limit is the commit that counts down
what is left. -/
theorem commitCounting_eq (overflow : Service (Committed α)) (limit count : UInt8) :
  commitCounting policy id change overflow limit count
    = commit policy id change (limit.toNat - count.toNat)
  := by
  induction hleft : limit.toNat - count.toNat generalizing count with
  | zero =>
    have hlast : ¬ count < limit := by
      rw [UInt8.lt_iff_toNat_lt]
      omega
    rw [commitCounting, commit]
    simp only [hlast, reduceDIte]
  | succ left ih =>
    have hmore : count < limit := by
      rw [UInt8.lt_iff_toNat_lt]
      omega
    have hbelow : count ≠ 255 := by
      rintro rfl
      have hlimit := limit.toNat_lt
      have hbyte : (255 : UInt8).toNat = 255 := rfl
      omega
    rw [commitCounting, commit]
    simp only [hmore, hbelow, reduceDIte, reduceIte]
    rw [ih (count + 1) (by rw [toNat_succ_of_lt hmore]; omega)]

end Commit

end Service

/-- What commits a change tries once, and once more for each retry of the policy. -/
theorem Program.Commits.tries {policy : Policy} {who : Actor → Prop} {reply : Application → β}
    {p : Program (Except Refusal β)} (h : p.Commits (fun _ => True) policy who id reply) :
  p.Tries id policy.transitionRetries none
  := by
  induction h with
  | refused e hkind => exact .settled (Program.settles_of_kind hkind)
  | resolve hnext ih =>
    apply Program.Tries.read (show Sight.permits {} (.findStaffRescue _) from trivial)
    intro w
    apply ih w trivial
  | commit hwho hamends hdeclines htail =>
    apply Service.commit_tries hamends hdeclines
    intro done
    exact ⟨_, htail done⟩

/-! ### Bounds on the updates -/

section Updates

variable {call : Call}
  {next : call.Answer → Program (Except Refusal β)} {p rest : Program (Except Refusal β)}
  {exchanges : List Exchange} {w : Rehoming.World}

/-- Keeping the books is no look-up and no update. -/
theorem Call.isBookkeeping.aside (h : call.isBookkeeping = true) :
  (Exchange.mk call w).isLookup = false ∧ (Exchange.mk call w).isUpdate = false
  := by
  cases call with
  | fresh | record | log => exact ⟨rfl, rfl⟩
  | _ => cases h

/-- What a change reads is no look-up of a record, and it updates none. -/
theorem Sight.permits.aside {σ : Sight} (h : σ.permits call) :
  (Exchange.mk call w).isLookup = false ∧ (Exchange.mk call w).isUpdate = false
  := by
  cases call with
  | now | fresh | findActive | findUser | findPet | findStaffRescue | questionsForRescue =>
    exact ⟨rfl, rfl⟩
  | insert | update | fetch | search | listForRescue | matchingUsers | matchingPets | record
  | eventsFor | eventsForMany | log => cases h

/-- What settles asks to keep the books, and settles after that. -/
theorem Program.Settles.ask (h : (Program.ask call next).Settles) :
  call.isBookkeeping = true ∧ ∀ w, (next (World.answer call w).1).Settles
  := by
  obtain ⟨result, hconcludes, hresult⟩ := h
  cases hconcludes with
  | ask hcall hnext =>
    use hcall
    intro w
    use result, hnext w

/-- What settles goes on settling, and updates nothing. -/
theorem Program.Settles.reaches (h : p.Settles) (hreaches : p.Reaches exchanges rest) :
  rest.Settles ∧ exchanges.countP Exchange.isUpdate = 0
  := by
  induction hreaches with
  | stay p => exact ⟨h, rfl⟩
  | ask hnext ih =>
    obtain ⟨hcall, hsettles⟩ := h.ask
    obtain ⟨hrest, hcount⟩ := ih (hsettles _)
    use hrest
    rw [List.countP_cons_of_neg (by simp [Call.isBookkeeping.aside hcall]), hcount]

theorem Program.Settles.ne_stale (h : p.Settles) (expected current : Nat) :
  p ≠ .done (.error (.store (.staleWrite expected current)))
  := by
  rintro rfl
  obtain ⟨result, hconcludes, hresult⟩ := h
  cases hconcludes with
  | done => exact hresult expected current rfl

/-- What a program that tries makes of a call and its answer, with what is left to be run after
it.  It goes on trying, or it finds the record, or its write comes too late, and it gives up or
starts over, or it has done what it can. -/
inductive Program.Continues (id : ApplicationId) :
    (left : Nat) → (found : Option Application) → Exchange → Program (Except Refusal β) → Prop
  | aside {left found x rest} :
      x.isLookup = false → x.isUpdate = false → rest.Tries id left found →
      Continues id left found x rest
  | found {left before w rest} :
      w.records.find? id = some before → rest.Tries id left (some before) →
      Continues id left none ⟨.fetch id false, w⟩ rest
  | last {a before w expected current} :
      a.applicationId = id →
      (World.answer (.update a before.version) w).1 = .error (.staleWrite expected current) →
      Continues id 0 (some before) ⟨.update a before.version, w⟩
        (.done (.error (.store (.staleWrite expected current))))
  | again {more a before w expected current rest} :
      a.applicationId = id →
      (World.answer (.update a before.version) w).1 = .error (.staleWrite expected current) →
      rest.Tries id more none → Continues id (more + 1) (some before) ⟨.update a before.version, w⟩ rest
  | settled {left found x rest} : rest.Settles → Continues id left found x rest

theorem Program.Tries.continues (h : (Program.ask call next).Tries id left found) (w : Rehoming.World) :
  Program.Continues id left found ⟨call, w⟩ (next (World.answer call w).1)
  := by
  cases h with
  | settled hsettles => exact .settled (hsettles.ask.2 w)
  | read hcall hreads => exact .aside hcall.aside.1 hcall.aside.2 (hreads w)
  | @fetch _ _ hmissing hfound =>
    simp only [World.answer]
    cases hfetch : w.records.fetch id false with
    | none => exact .settled hmissing
    | some before =>
      obtain ⟨hstored, -⟩ := Records.fetch_eq_some_iff.mp hfetch
      exact .found hstored (hfound before (Records.applicationId_of_find? hstored))
  | @update left a before _ hname hok herror hlast hagain =>
    cases hanswer : (World.answer (.update a before.version) w).1 with
    | ok stored => exact .settled (hok stored)
    | error e =>
      by_cases hlate : ∃ expected current, e = .staleWrite expected current
      case neg => exact .settled (herror e (by simpa using hlate))
      obtain ⟨expected, current, rfl⟩ := hlate
      cases left with
      | zero =>
        rw [hlast expected current rfl]
        exact .last hname hanswer
      | succ more => exact .again hname hanswer (hagain expected current more rfl)

/-- What tries a number of times updates once more than it starts over, at the most. -/
theorem Program.Tries.countP_isUpdate_le (h : p.Tries id left found)
    (hreaches : p.Reaches exchanges rest) :
  exchanges.countP Exchange.isUpdate ≤ left + 1
  := by
  induction hreaches generalizing left found with
  | stay p => apply Nat.zero_le
  | @ask call next w exchanges rest hnext ih =>
    rw [List.countP_cons]
    have hcontinues := h.continues w
    generalize next (World.answer call w).1 = later at hnext ih hcontinues
    cases hcontinues with
    | aside hlookup hupdate htries => simpa [hupdate] using ih htries
    | found hstored htries => simpa [Exchange.isUpdate] using ih htries
    | last hname hlate =>
      cases hnext
      simp [Exchange.isUpdate]
    | again hname hlate htries => simpa [Exchange.isUpdate] using ih htries
    | settled hsettles =>
      rw [(hsettles.reaches hnext).2]
      split <;> omega

end Updates

end Rehoming
