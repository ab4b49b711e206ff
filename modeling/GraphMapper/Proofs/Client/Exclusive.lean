import GraphMapper.Database.Scripted
import GraphMapper.Proofs.Client.Runs

/-!
# At most one active transaction

A client means to have one active transaction at a time, the one that its statements are routed
through: beginning another rolls back the one that is active, and closing the client rolls it back
as well. In the words of this file, the client means to be **exclusive**
(`GraphMapper.World.Exclusive`).

But a handle outlives its transaction. One that was replaced, or that the client has forgotten, can
be begun or entered again, and nothing tells the client. Then a transaction is active that no
statement of the client goes to: two, in fact, if the handle begun last is active
(`GraphMapper.Client.not_exclusive_of_begun_again`). This is the only way
(`GraphMapper.Client.exclusive_after_iff`): a client is exclusive for as long as no handle but the
one begun last is **revived**.
-/

namespace GraphMapper

open GraphMapper.Action

variable {σ : Type}

/-- **At most one handle is active**, and statements are routed through it. -/
def World.Exclusive (w : World σ) : Prop :=
  ∀ handle, (w.transaction handle).isActive = true → w.activeHandle? = some handle

namespace World

variable {w v : World σ}

/-- No two handles are active in an exclusive world. -/
theorem Exclusive.unique (h : w.Exclusive) {i j : Nat}
    (hi : (w.transaction i).isActive = true) (hj : (w.transaction j).isActive = true) : i = j :=
  Option.some.inj ((h i hi).symm.trans (h j hj))

theorem exclusive_of_idle (idle : ∀ handle, (w.transaction handle).isActive = false) :
    w.Exclusive := by
  intro handle active
  rw [idle] at active
  cases active

/-- It does not matter what else there is in a world. -/
theorem Exclusive.of_same (h : w.Exclusive) (transactions : v.transactions = w.transactions)
    (current : v.current? = w.current?) : v.Exclusive := by
  have same (handle : Nat) : v.transaction handle = w.transaction handle := by
    rw [transaction, transaction, transactions]
  intro handle active
  rw [activeHandle?_eq_some_iff, current, same, ← activeHandle?_eq_some_iff]
  exact h handle (same handle ▸ active)

/-- When the only active handle is cleared, none is active. -/
theorem Exclusive.cleared (h : w.Exclusive) (cleared : w.Cleared v) (handle : Nat) :
    (v.transaction handle).isActive = false := by
  by_contra active
  have active : (v.transaction handle).isActive = true := by simpa using active
  have last := (activeHandle?_eq_some_iff.mp (h handle (cleared.others handle active))).1
  rw [cleared.idle handle last] at active
  cases active

end World

namespace Client

variable [Database σ]

/-- **A handle is revived** by an event: it is not the one begun last, and goes from idle to
active. -/
def Revives (w : World σ) (event : Event) : Prop :=
  ∃ handle m, event = .move handle m ∧ w.current? ≠ some handle ∧
    (w.transaction handle).isActive = false ∧ ((step w event).transaction handle).isActive = true

/-- Only a move that begins revives a handle: it is begun, or its scope is entered. -/
theorem Revives.begins {w : World σ} (sound : w.Sound) {event : Event} (h : Revives w event) :
    ∃ handle m, event = .move handle m ∧ m.begins = true := by
  obtain ⟨handle, m, rfl, -, idle, active⟩ := h
  refine ⟨handle, m, rfl, ?_⟩
  by_cases hh : handle < w.transactions.length
  · rw [step_move hh] at active
    obtain ⟨xs, t, turn, leads, -⟩ := Transaction.takesTurn_action (sound.settled handle) hh m
    rw [Transaction.transaction_set_self hh leads.transactions] at active
    generalize w.transaction handle = before at turn idle
    generalize ((m.action handle).perform w).1 = outcome at turn
    cases turn with
    | begun begins => exact begins
    | refused | idled | unbegun | misused | ran => rw [idle] at active; cases active
    | ended => cases active
  · rw [step_move_unknown hh, idle] at active
    cases active

/-- **An event leaves an exclusive world exclusive, unless it revives a handle.** -/
theorem exclusive_step {w : World σ} (sound : w.Sound) (h : w.Exclusive) {event : Event}
    (revives : ¬ Revives w event) : (step w event).Exclusive := by
  cases event with
  | job job =>
    rw [step_job]
    obtain ⟨xs, leads, -⟩ := serves_job job w
    exact h.of_same leads.transactions leads.current
  | connect =>
    rw [step_connect]
    obtain ⟨⟨transactions, -, current⟩, -⟩ := Engine.relinks_connect w
    exact h.of_same transactions current
  | begin =>
    rw [step_begin]
    obtain ⟨u, xs, givesUp, change, outcome⟩ := beginTransaction_cases sound.settled
    have idle := h.cleared givesUp.cleared
    rcases outcome with ⟨-, transactions, -⟩ | ⟨-, chosen⟩
    · refine World.exclusive_of_idle fun i => ?_
      rw [World.transaction, transactions]
      exact idle i
    · -- The new handle is the only one that can be active.
      intro i active
      obtain rfl : i = u.transactions.length := by
        by_contra other
        rw [change.others i other, idle i] at active
        cases active
      exact chosen
  | move handle m =>
    by_cases hh : handle < w.transactions.length
    · intro i active
      have stepped := step_move hh m
      obtain ⟨xs, t, turn, leads, -⟩ := Transaction.takesTurn_action (sound.settled handle) hh m
      have change := turn.changes hh leads
      have current := leads.current
      rw [← stepped] at change current
      rw [World.activeHandle?_eq_some_iff, current]
      refine ⟨?_, active⟩
      -- Whether the handle was active before or not, it is the one begun last.
      cases before : (w.transaction i).isActive with
      | true => exact (World.activeHandle?_eq_some_iff.mp (h i before)).1
      | false =>
        have same : i = handle := by
          by_contra other
          rw [change.others i other, before] at active
          cases active
        by_contra last
        exact revives ⟨i, m, by rw [same], last, before, active⟩
    · rwa [step_move_unknown hh]
  | close =>
    rw [step_close]
    obtain ⟨u, givesUp, done⟩ := close_cases sound.settled
    obtain ⟨⟨transactions, -⟩, -⟩ := Engine.relinks_close { u with current? := none }
    rw [done]
    refine World.exclusive_of_idle fun i => ?_
    rw [World.transaction, transactions]
    exact h.cleared givesUp.cleared i
  | wait clock => exact h

/-- Where a handle is revived, the world is not exclusive any more. -/
theorem not_exclusive_step {w : World σ} (sound : w.Sound) {event : Event}
    (revives : Revives w event) : ¬ (step w event).Exclusive := by
  intro h
  obtain ⟨handle, m, rfl, last, idle, active⟩ := revives
  have current : (step w (.move handle m)).current? = w.current? :=
    current_step sound (.move handle m)
  have routed := (World.activeHandle?_eq_some_iff.mp (h handle active)).1
  exact last (current ▸ routed)

/-! ### From the start -/

omit [Database σ] in
theorem sound_opened (database : σ) (engine : Engine) (clock : Float)
    (identifiers : IdentifierSource) (stripHyphens : Value) :
    (opened database engine clock identifiers stripHyphens).Sound :=
  .of_fresh rfl rfl rfl

theorem after_take_succ {w : World σ} {events : List Event} {n : Nat} {event : Event}
    (h : events[n]? = some event) :
    after (events.take (n + 1)) w = step (after (events.take n) w) event := by
  rw [List.take_add_one, h, after, List.foldl_append]
  rfl

/-- **When at most one transaction is active.** Follow any events from the start: at every point
of them at most one of the handles given out is active, and it is the one that statements are
routed through, exactly if none of the events revives a handle. -/
theorem exclusive_after_iff (database : σ) (engine : Engine) (clock : Float)
    (identifiers : IdentifierSource) (stripHyphens : Value) (events : List Event) :
    let start := opened database engine clock identifiers stripHyphens
    (∀ n, (after (events.take n) start).Exclusive) ↔
      ∀ n event, events[n]? = some event → ¬ Revives (after (events.take n) start) event := by
  intro start
  have sound (n : Nat) : (after (events.take n) start).Sound :=
    sound_after (sound_opened database engine clock identifiers stripHyphens) _
  constructor
  · intro exclusive n event h revives
    have next := exclusive (n + 1)
    rw [after_take_succ h] at next
    exact not_exclusive_step (sound n) revives next
  · intro revives n
    induction n with
    | zero => exact World.exclusive_of_idle fun _ => rfl
    | succ n ih =>
      cases h : events[n]? with
      | none =>
        have le : events.length ≤ n := List.getElem?_eq_none_iff.mp h
        rw [List.take_of_length_le (by omega)]
        rwa [List.take_of_length_le le] at ih
      | some event =>
        rw [after_take_succ h]
        exact exclusive_step (sound n) ih (revives n event h)

end Client

namespace Example

/-- A client that has just been made. -/
def start : World Scripted :=
  Client.opened {} { connection := ⟨.text "bolt://localhost", none, []⟩, database := .text "neo4j" }
    0 {} (.bool false)

/-- The client has begun two transactions, the second replacing the first, and the handle of the
first has been begun again. -/
def begunAgain : World Scripted :=
  Client.after [.connect, .begin, .begin, .move 0 .begin] start

end Example

/-- **A client that is not exclusive**: both handles are active, and statements are routed through
the second. -/
theorem Client.not_exclusive_of_begun_again :
    (Example.begunAgain.transaction 0).isActive = true ∧
      (Example.begunAgain.transaction 1).isActive = true ∧
      Example.begunAgain.activeHandle? = some 1 ∧ ¬ Example.begunAgain.Exclusive := by
  have first : (Example.begunAgain.transaction 0).isActive = true := by decide +kernel
  have second : (Example.begunAgain.transaction 1).isActive = true := by decide +kernel
  refine ⟨first, second, by decide +kernel, fun h => ?_⟩
  exact absurd (h.unique first second) (by decide)

end GraphMapper
