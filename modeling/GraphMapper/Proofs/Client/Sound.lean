import GraphMapper.Proofs.Client.Routing

/-!
# Worlds in which transactions are sound

The handles that a client gives out are used in any order, by the client and by its callers, and
all of them speak to one driver. A world is **sound** (`GraphMapper.World.Sound`) if its handles are
settled, no two of them hold the same transaction, what they hold has not been ended, and no
statement was run in a transaction that had been.

Whatever happens to a client happens to one handle at a time: it goes on holding what it holds,
begins the next transaction, or ends the one it holds (`GraphMapper.Transaction.Effect`), while the
other handles stay as they are (`GraphMapper.World.Changes`). So it is enough to know that such a
change leaves a sound world sound (`GraphMapper.World.Sound.change`).
-/

namespace GraphMapper

open GraphMapper.Action

variable {σ : Type}

/-! ### Exchanges about transactions -/

namespace Exchange

/-- The transaction that an exchange runs a statement in. -/
def ranIn? (x : Exchange) : Option Nat :=
  match x.call with
  | .run (.transaction work) _ _ => some work
  | _ => none

/-- The transaction that is over with an exchange, whether the driver manages to end it or not. -/
def over? (x : Exchange) : Option Nat :=
  match x.call with
  | .commit work | .rollback work | .closeTransaction work => some work
  | _ => none

/-- An exchange that neither runs a statement in a transaction nor ends one. -/
def Neutral (x : Exchange) : Prop := x.ranIn? = none ∧ x.over? = none

end Exchange

/-- **A statement is never run in a transaction that is over**: none comes after the exchange by
which it was committed, rolled back or closed. -/
def InTime (xs : List Exchange) : Prop :=
  xs.Pairwise fun x y => ∀ work, x.over? = some work → y.ranIn? ≠ some work

/-! ### Changes of one handle -/

/-- **What can happen to a handle** by some exchanges, `next` being the number of the next
session. -/
inductive Transaction.Effect (t : Transaction) (next : Nat) (xs : List Exchange) :
    Transaction → Prop where
  /-- It stays; statements may be run in the transaction that it holds. -/
  | stays (ran : ∀ x ∈ xs, ∀ work, x.ranIn? = some work → t.work? = some work)
    (going : ∀ x ∈ xs, x.over? = none) : Effect t next xs t
  /-- The next transaction is begun. -/
  | begins (database : Value) (idle : t.isActive = false)
    (asked : xs.filterMap Exchange.requested? = [next]) (neutral : ∀ x ∈ xs, x.Neutral) :
    Effect t next xs ⟨database, .active, some next, some next⟩
  /-- The transaction that it holds is ended. -/
  | ends (database : Value) (quiet : ∀ x ∈ xs, x.ranIn? = none)
    (ended : ∀ x ∈ xs, ∀ work, x.over? = some work → t.work? = some work) :
    Effect t next xs ⟨database, .idle, none, none⟩

/-- **A world changes into another at one handle** by some exchanges; the others stay. -/
structure World.Changes (w v : World σ) (handle : Nat) (xs : List Exchange) : Prop where
  /-- The exchanges are added to the trace. -/
  trace : v.trace = w.trace ++ xs
  /-- The sessions asked for are counted. -/
  sessions : v.sessions = w.sessions + (xs.filterMap Exchange.requested?).length
  /-- They are the next ones. -/
  numbered : Transaction.Numbered (w.sessions + 1) xs
  /-- The other handles stay. -/
  others : ∀ i, i ≠ handle → v.transaction i = w.transaction i
  /-- Something happens to the handle. -/
  effect : (w.transaction handle).Effect (w.sessions + 1) xs (v.transaction handle)

namespace Transaction

variable {t t' : Transaction} {next : Nat} {xs : List Exchange}

theorem Effect.settled (h : t.Effect next xs t') (ht : t.Settled) : t'.Settled := by
  cases h with
  | stays => exact ht
  | begins database => exact .active database next
  | ends database => exact .idle database

/-- Only the transaction that is held ends. -/
theorem Effect.ended (h : t.Effect next xs t') {x : Exchange} (hx : x ∈ xs) {work : Nat}
    (isOver : x.over? = some work) : t.work? = some work := by
  cases h with
  | stays _ going => rw [going x hx] at isOver; cases isOver
  | begins _ _ _ neutral => rw [(neutral x hx).2] at isOver; cases isOver
  | ends _ _ ended => exact ended x hx work isOver

/-- Statements run in the transaction that is held. -/
theorem Effect.ran (h : t.Effect next xs t') {x : Exchange} (hx : x ∈ xs) {work : Nat}
    (ran : x.ranIn? = some work) : t.work? = some work := by
  cases h with
  | stays running => exact running x hx work ran
  | begins _ _ _ neutral => rw [(neutral x hx).1] at ran; cases ran
  | ends _ quiet => rw [quiet x hx] at ran; cases ran

/-- No statement is run while a transaction is being ended. -/
theorem Effect.inTime (h : t.Effect next xs t') : InTime xs := by
  refine List.pairwise_iff_forall_sublist.mpr fun {x y} sub work isOver ran => ?_
  have hx : x ∈ xs := sub.subset List.mem_cons_self
  have hy : y ∈ xs := sub.subset (List.mem_cons_of_mem _ List.mem_cons_self)
  cases h with
  | stays _ going => rw [going x hx] at isOver; cases isOver
  | begins _ _ _ neutral => rw [(neutral x hx).2] at isOver; cases isOver
  | ends _ quiet => rw [quiet y hy] at ran; cases ran

/-- What the handle holds afterwards it has held before, and it is not over, or it is new. -/
theorem Effect.holds (h : t.Effect next xs t') {work : Nat} (holds : t'.work? = some work) :
    (∀ x ∈ xs, x.over? = none) ∧
      (t.work? = some work ∨ work = next ∧ xs.filterMap Exchange.requested? = [next]) := by
  cases h with
  | stays _ going => exact ⟨going, .inl holds⟩
  | begins _ _ asked neutral =>
    exact ⟨fun x hx => (neutral x hx).2, .inr ⟨(Option.some.inj holds).symm, asked⟩⟩
  | ends => cases holds

theorem neutral_running {session : Nat} {statement : String} {parameters : Value}
    {e : Except Failure Result} (h : Running (.session session) statement parameters xs e) :
    ∀ x ∈ xs, x.Neutral := by
  cases h <;> simp [Exchange.Neutral, Exchange.ranIn?, Exchange.over?]

theorem Opening.neutral {e : Except Failure Nat} (h : Opening next e xs) : ∀ x ∈ xs, x.Neutral := by
  cases h <;> simp [Exchange.Neutral, Exchange.ranIn?, Exchange.over?]

theorem Opening.requested? (h : Opening next (.ok next) xs) :
    xs.filterMap Exchange.requested? = [next] := by
  cases h
  rfl

theorem Opening.numbered {e : Except Failure Nat} (h : Opening next e xs) : Numbered next xs := by
  cases h <;> rfl

/-- Neutral exchanges leave a handle as it is. -/
theorem Effect.of_neutral (h : ∀ x ∈ xs, x.Neutral) : t.Effect next xs t := by
  refine .stays (fun x hx work ran => ?_) fun x hx => (h x hx).2
  rw [(h x hx).1] at ran
  cases ran

theorem effect_running {work : Nat} {statement : String} {parameters : Value}
    {e : Except Failure Result} (h : Running (.transaction work) statement parameters xs e)
    (holds : t.work? = some work) : t.Effect next xs t := by
  cases h <;> exact .stays (by simpa [Exchange.ranIn?] using holds) (by simp [Exchange.over?])

/-- **A turn of a handle** has one of the effects. -/
theorem Turn.effect {m : Move} {e : Except Failure Unit} (h : Turn t next m e xs t') :
    t.Effect next xs t' := by
  cases h with
  | refused | idled | misused => exact .of_neutral (by simp)
  | unbegun _ _ opening => exact .of_neutral opening.neutral
  | begun _ idle opening => exact .begins t.database idle opening.requested? opening.neutral
  | ran holds running => exact effect_running running holds
  | ended ends work =>
    refine .ends t.database ?_ ?_
    · rcases Move.ending?_cases ends with ⟨rfl, -⟩ | rfl <;> simp [Exchange.ranIn?]
    · rcases Move.ending?_cases ends with ⟨rfl, -⟩ | rfl <;> simpa [Exchange.over?] using work

/-- What is taken by a turn is a change of the handle. -/
theorem Turn.changes {w v : World σ} {handle : Nat} {m : Move} {e : Except Failure Unit}
    (h : Turn (w.transaction handle) (w.sessions + 1) m e xs t)
    (hh : handle < w.transactions.length) (leads : w.Leads v xs (w.transactions.set handle t)) :
    w.Changes v handle xs := by
  refine ⟨leads.trace, leads.sessions, h.numbered, fun i hi => ?_, ?_⟩
  · rw [World.transaction, World.transaction, leads.transactions, List.getElem?_set_ne hi.symm]
  · rw [transaction_set_self hh leads.transactions]
    exact h.effect

end Transaction

/-! ### Soundness -/

/-- **A sound world.** -/
structure World.Sound (w : World σ) : Prop where
  /-- The handles are settled. -/
  settled : ∀ handle, (w.transaction handle).Settled
  /-- The sessions asked for are numbered one after the other. -/
  numbered : Transaction.Numbered 1 w.trace
  /-- They are counted. -/
  sessions : w.sessions = (w.trace.filterMap Exchange.requested?).length
  /-- No two handles hold the same transaction. -/
  apart : ∀ i j work, (w.transaction i).work? = some work → (w.transaction j).work? = some work →
    i = j
  /-- What a handle holds was begun in a session asked for, and is not over. -/
  held : ∀ i work, (w.transaction i).work? = some work →
    work ≤ w.sessions ∧ ∀ x ∈ w.trace, x.over? ≠ some work
  /-- What is over was begun in a session asked for. -/
  past : ∀ x ∈ w.trace, ∀ work, x.over? = some work → work ≤ w.sessions
  /-- Statements were run in time. -/
  inTime : InTime w.trace

namespace World

variable {w v : World σ} {handle : Nat} {xs : List Exchange}

/-- What a handle holds after a change it has held before, and it is still not over, or it is the
handle that changed and holds the next transaction. -/
theorem Changes.holds (c : w.Changes v handle xs) (h : w.Sound) {i work : Nat}
    (holds : (v.transaction i).work? = some work) :
    (∀ x ∈ xs, x.over? ≠ some work) ∧ ((w.transaction i).work? = some work ∨
      i = handle ∧ work = w.sessions + 1 ∧ v.sessions = w.sessions + 1) := by
  by_cases hi : i = handle
  · subst hi
    obtain ⟨going, old | ⟨rfl, asked⟩⟩ := c.effect.holds holds
    · exact ⟨fun x hx => by simp [going x hx], .inl old⟩
    · refine ⟨fun x hx => by simp [going x hx], .inr ⟨rfl, rfl, ?_⟩⟩
      rw [c.sessions, asked]
      rfl
  · rw [c.others i hi] at holds
    refine ⟨fun x hx isOver => hi ?_, .inl holds⟩
    exact h.apart i handle work holds (c.effect.ended hx isOver)

/-- **A change of one handle leaves a sound world sound.** -/
theorem Sound.change (h : w.Sound) (c : w.Changes v handle xs) : v.Sound where
  settled i := by
    by_cases hi : i = handle
    · subst hi
      exact c.effect.settled (h.settled i)
    · rw [c.others i hi]
      exact h.settled i
  numbered := by
    rw [c.trace]
    refine h.numbered.append ?_
    have next : 1 + (w.trace.filterMap Exchange.requested?).length = w.sessions + 1 := by
      rw [← h.sessions]
      omega
    rw [next]
    exact c.numbered
  sessions := by
    rw [c.sessions, c.trace, List.filterMap_append, List.length_append, ← h.sessions]
  apart i j work hi hj := by
    -- A transaction that is new has a number that none had before.
    obtain ⟨-, old | ⟨rfl, rfl, -⟩⟩ := c.holds h hi
    · obtain ⟨-, old' | ⟨rfl, rfl, -⟩⟩ := c.holds h hj
      · exact h.apart i j work old old'
      · have := (h.held i _ old).1
        omega
    · obtain ⟨-, old' | ⟨rfl, -, -⟩⟩ := c.holds h hj
      · have := (h.held j _ old').1
        omega
      · rfl
  held i work hi := by
    obtain ⟨going, held⟩ := c.holds h hi
    rcases held with old | ⟨rfl, rfl, counted⟩
    · have bounded := h.held i work old
      constructor
      · rw [c.sessions]
        omega
      · intro x hx
        rw [c.trace] at hx
        exact (List.mem_append.mp hx).elim (bounded.2 x) (going x)
    · constructor
      · rw [counted]
      · intro x hx isOver
        rw [c.trace] at hx
        rcases List.mem_append.mp hx with hx | hx
        · have := h.past x hx _ isOver
          omega
        · exact going x hx isOver
  past x hx work isOver := by
    rw [c.sessions]
    rw [c.trace] at hx
    rcases List.mem_append.mp hx with hx | hx
    · have := h.past x hx work isOver
      omega
    · have := (h.held handle work (c.effect.ended hx isOver)).1
      omega
  inTime := by
    rw [c.trace]
    refine List.pairwise_append.mpr ⟨h.inTime, c.effect.inTime, ?_⟩
    intro x hx y hy work isOver ran
    exact (h.held handle work (c.effect.ran hy ran)).2 x hx isOver

/-- Soundness does not depend on which handle was begun last. -/
theorem Sound.forget (h : w.Sound) : World.Sound { w with current? := none } :=
  ⟨h.settled, h.numbered, h.sessions, h.apart, h.held, h.past, h.inTime⟩

/-- A world in which nothing has been asked and no handle given out is sound. -/
theorem Sound.of_fresh (trace : w.trace = []) (sessions : w.sessions = 0)
    (transactions : w.transactions = []) : w.Sound := by
  have idle (i : Nat) : w.transaction i = {} := by
    rw [transaction, transactions]
    rfl
  refine ⟨fun i => ?_, ?_, ?_, fun i j work hi => ?_, fun i work hi => ?_, ?_, ?_⟩
  · rw [idle]
    exact .idle _
  · rw [trace]
    rfl
  · rw [trace, sessions]
    rfl
  · rw [idle] at hi
    cases hi
  · rw [idle] at hi
    cases hi
  · rw [trace]
    rintro x ⟨⟩
  · rw [trace]
    exact .nil

end World

end GraphMapper
