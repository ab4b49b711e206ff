import GraphMapper.Proofs.Client.Exclusive
import GraphMapper.Proofs.Engine.Accounts

/-!
# What becomes of the transaction that is replaced

Beginning a transaction and closing the client both give up the transaction that statements go
through, and a driver can break down at each step of that: while rolling back, while releasing the
transaction or its session, while opening the next session, while beginning in it, and while closing
that session again. This file says what is certain nevertheless, in any state that a client can
get into (`GraphMapper.Client.discards_after`).

The transaction that is given up is **discarded** (`GraphMapper.World.Discards`): over all that was
ever asked, it is rolled back once and not committed, and its session is closed. That it is not
rolled back a second time rests on soundness: what a handle holds is not over, so it was not
rolled back before; and what is over is held by no handle, so no change of a handle ends it again
(`GraphMapper.World.Sound.not_over_again`).
-/

namespace GraphMapper

open GraphMapper.Action

/-! ### Transactions that are discarded -/

namespace Exchange

/-- The transaction that an exchange rolls back, whether the driver manages to or not. -/
def rolledBack? (x : Exchange) : Option Nat :=
  match x.call with
  | .rollback work => some work
  | _ => none

/-- The transaction that an exchange commits, whether the driver manages to or not. -/
def committed? (x : Exchange) : Option Nat :=
  match x.call with
  | .commit work => some work
  | _ => none

theorem over?_of_rolledBack? {x : Exchange} {work : Nat} (h : x.rolledBack? = some work) :
    x.over? = some work := by
  obtain ⟨call, answer⟩ := x
  cases call <;> first | exact h | cases h

theorem over?_of_committed? {x : Exchange} {work : Nat} (h : x.committed? = some work) :
    x.over? = some work := by
  obtain ⟨call, answer⟩ := x
  cases call <;> first | exact h | cases h

end Exchange

/-- **What a handle holds is discarded** by some exchanges: its transaction is rolled back once and
not committed, and its session is closed. -/
structure Transaction.Discarded (t : Transaction) (xs : List Exchange) : Prop where
  /-- The transaction is rolled back once, and not committed. -/
  work : ∃ work, t.work? = some work ∧ (xs.filterMap Exchange.rolledBack?).count work = 1 ∧
    work ∉ xs.filterMap Exchange.committed?
  /-- The session is closed. -/
  session : ∃ session, t.session? = some session ∧ session ∈ xs.filterMap Exchange.closed?

namespace World

variable {σ : Type} {w u v : World σ} {handle : Nat} {xs : List Exchange}

/-- **The handle that statements go through in one world is idle in another**, and what it held has
been discarded. -/
def Discards (w v : World σ) : Prop :=
  ∀ handle, w.activeHandle? = some handle →
    (w.transaction handle).Discarded v.trace ∧ (v.transaction handle).isActive = false

/-- What has not ended has not been rolled back, and not been committed. -/
theorem notMem_of_not_over {work : Nat} (h : ∀ x ∈ xs, x.over? ≠ some work) :
    work ∉ xs.filterMap Exchange.rolledBack? ∧ work ∉ xs.filterMap Exchange.committed? := by
  constructor <;> intro mem <;> obtain ⟨x, hx, ended⟩ := List.mem_filterMap.mp mem
  · exact h x hx (Exchange.over?_of_rolledBack? ended)
  · exact h x hx (Exchange.over?_of_committed? ended)

/-- What is over does not end once more. -/
theorem Sound.not_over_again (sound : u.Sound) (c : u.Changes v handle xs) {x : Exchange}
    (hx : x ∈ u.trace) {work : Nat} (isOver : x.over? = some work) :
    ∀ y ∈ xs, y.over? ≠ some work := by
  intro y hy again
  exact (sound.held handle work (c.effect.ended hy again)).2 x hx isOver

theorem GivesUp.length (h : w.GivesUp u) : u.transactions.length = w.transactions.length := by
  cases h with
  | idle => rfl
  | rolledBack _ _ _ _ _ _ leads => rw [leads.transactions, List.length_set]

theorem GivesUp.engine (h : w.GivesUp u) : u.engine = w.engine := by
  cases h with
  | idle => rfl
  | rolledBack _ _ _ _ _ _ leads => exact leads.engine

theorem GivesUp.closing (h : w.GivesUp u) : u.closing = w.closing := by
  cases h with
  | idle => rfl
  | rolledBack _ _ _ _ _ _ leads =>
    rw [World.closing, leads.trace, List.filterMap_append]
    exact List.append_nil _

theorem GivesUp.activeHandle?_eq (h : w.GivesUp u) : u.activeHandle? = none := by
  have cleared := h.cleared
  rw [activeHandle?, Option.filter_eq_none_iff]
  intro handle last
  rw [cleared.idle handle (cleared.current.symm.trans last)]
  exact Bool.false_ne_true

/-- **Giving up a handle discards what it holds.** -/
theorem GivesUp.discards (h : w.GivesUp u) (sound : w.Sound) : w.Discards u := by
  intro i chosen
  have last := (activeHandle?_eq_some_iff.mp chosen).1
  refine ⟨?_, h.cleared.idle i last⟩
  cases h with
  | idle none =>
    rw [none] at chosen
    cases chosen
  | @rolledBack handle held _ active work session answer released closed leads =>
    obtain rfl := Option.some.inj (active.symm.trans chosen)
    obtain ⟨before, uncommitted⟩ := notMem_of_not_over (sound.held handle held work).2
    rw [leads.trace]
    refine ⟨⟨held, work, ?_, ?_⟩, held, session, ?_⟩
    · rw [List.filterMap_append, List.count_append, List.count_eq_zero_of_not_mem before,
        Nat.zero_add]
      exact List.count_singleton_self
    · rw [List.filterMap_append, List.mem_append]
      exact fun mem => mem.elim uncommitted List.not_mem_nil
    · rw [List.filterMap_append, List.mem_append]
      exact .inr (List.mem_singleton_self held)

/-- **What has been discarded stays so** when another handle changes. -/
theorem Discards.change (h : w.Discards u) (sound : u.Sound) (c : u.Changes v handle xs)
    (other : ∀ i, w.activeHandle? = some i → i ≠ handle) : w.Discards v := by
  intro i chosen
  obtain ⟨⟨⟨work, holds, once, uncommitted⟩, session, held, closed⟩, idle⟩ := h i chosen
  rw [c.others i (other i chosen), c.trace]
  obtain ⟨x, hx, ended⟩ :=
    List.mem_filterMap.mp (List.count_pos_iff.mp (by rw [once]; exact Nat.one_pos))
  obtain ⟨after, uncommitted'⟩ :=
    notMem_of_not_over (sound.not_over_again c hx (Exchange.over?_of_rolledBack? ended))
  refine ⟨⟨⟨work, holds, ?_, ?_⟩, session, held, ?_⟩, idle⟩
  · rw [List.filterMap_append, List.count_append, once, List.count_eq_zero_of_not_mem after]
  · rw [List.filterMap_append, List.mem_append]
    exact fun mem => mem.elim uncommitted uncommitted'
  · rw [List.filterMap_append, List.mem_append]
    exact .inl closed

/-- A handle that is given out next is another than the one given up. -/
theorem GivesUp.ne_length (h : w.GivesUp u) (i : Nat) (chosen : w.activeHandle? = some i) :
    i ≠ u.transactions.length := by
  rintro rfl
  have given := lt_of_isActive (activeHandle?_eq_some_iff.mp chosen).2
  rw [h.length] at given
  exact Nat.lt_irrefl _ given

theorem Sound.givesUp (sound : w.Sound) (h : w.GivesUp u) : u.Sound := by
  obtain ⟨_, _, change⟩ := h.cleared.changes
  exact sound.change change

end World

variable {σ : Type} [Database σ]

/-- Closing an engine closes the driver it has, if any, and no other. -/
theorem Engine.closing_close (w : World σ) :
    ((Engine.close : Action σ Unit).perform w).2.closing =
      w.closing ++ w.engine.link.driver?.toList := by
  have closed (d : Nat) (log : List LogEntry) (f : Result → Action σ Unit)
      (quiet : ∀ x u, ((f x).perform u).2.trace = u.trace) :
      ((call (.closeDriver d) >>= f).perform { w with log }).2.closing = w.closing ++ [d] := by
    obtain ⟨answer, database, hc⟩ := perform_call (.closeDriver d) { w with log }
    have added : (w.trace ++ [Exchange.mk (.closeDriver d) answer]).filterMap Exchange.closing? =
        w.closing ++ [d] := List.filterMap_append
    cases answer with
    | error fault =>
      rw [perform_bind_error hc]
      exact added
    | ok result =>
      rw [perform_bind_ok hc, World.closing, quiet]
      exact added
  rw [close, perform_bind_ok (perform_current w)]
  cases w.engine.link with
  | down => exact (List.append_nil _).symm
  | up d => exact closed d _ _ fun _ _ => rfl
  | unverified d => exact closed d _ _ fun _ _ => rfl

namespace Client

/-- **What beginning and closing come to, whatever the driver does.** After any events from the
start, beginning a transaction gives a handle that statements then go through, or fails and leaves
none that they go through. Closing the client leaves none, with no handle begun last, and has closed
the engine once: of the drivers only the one of the engine is to be closed, and once. In both cases
what statements went through before is idle, and what it held has been rolled back exactly once and
never committed, and its session has been closed. -/
theorem discards_after (database : σ) (engine : Engine) (clock : Float)
    (identifiers : IdentifierSource) (stripHyphens : Value) (events : List Event) :
    let w := after events (opened database engine clock identifiers stripHyphens)
    let begun := (beginTransaction : Action σ Nat).perform w
    let closed := (close : Action σ Unit).perform w
    ((∃ handle, begun.1 = .ok handle ∧ begun.2.activeHandle? = some handle) ∨
        (∃ e, begun.1 = .error e) ∧ begun.2.activeHandle? = none) ∧
      w.Discards begun.2 ∧
      (closed.2.current? = none ∧ closed.2.activeHandle? = none) ∧
      w.Discards closed.2 ∧
      (∃ u, u.engine = w.engine ∧ u.closing = w.closing ∧
          closed.2 = ((Engine.close : Action σ Unit).perform u).2) ∧
      closed.2.closing = w.closing ++ w.engine.link.driver?.toList := by
  intro w begun closed
  have sound : w.Sound :=
    sound_after (sound_opened database engine clock identifiers stripHyphens) events
  refine ⟨?_, ?_, ?_⟩
  · obtain ⟨u, xs, givesUp, -, ⟨failed, transactions, current⟩ | ⟨given, active⟩⟩ :=
      beginTransaction_cases sound.settled
    · refine .inr ⟨failed, ?_⟩
      have idle := givesUp.activeHandle?_eq
      rw [World.activeHandle?, current, ← givesUp.cleared.current]
      unfold World.transaction
      rw [transactions]
      exact idle
    · exact .inl ⟨_, given, active⟩
  · obtain ⟨u, xs, givesUp, change, -⟩ := beginTransaction_cases sound.settled
    exact (givesUp.discards sound).change (sound.givesUp givesUp) change givesUp.ne_length
  · obtain ⟨u, givesUp, done⟩ := close_cases sound.settled
    -- The engine is closed with no handle begun last.
    let u' : World σ := { u with current? := none }
    have done : closed.2 = ((Engine.close : Action σ Unit).perform u').2 := done
    have relinks : u'.Relinks closed.2 := done ▸ Engine.relinks_close u'
    obtain ⟨xs, change⟩ := relinks.changes u.transactions.length
    have discards : w.Discards u' := givesUp.discards sound
    have current : closed.2.current? = none := relinks.1.2.2
    refine ⟨⟨current, by rw [World.activeHandle?, current]; rfl⟩,
      discards.change (sound.givesUp givesUp).forget change givesUp.ne_length,
      ⟨u', givesUp.engine, givesUp.closing, done⟩, ?_⟩
    rw [done, Engine.closing_close, ← givesUp.engine, ← givesUp.closing]
    rfl

end Client

end GraphMapper
