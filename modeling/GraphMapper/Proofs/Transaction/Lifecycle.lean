import GraphMapper.Proofs.Transaction.Moves
import Mathlib.Data.List.Nodup

/-!
# The lifecycle of a transaction handle

A handle can be begun and ended again and again, and the driver can break down at every step.
What is opened on the way has to be given back all the same. The **books** of a handle compare
what it holds with the exchanges that were made for it: the sessions opened are those closed, in
the same order, and the one it holds; the transactions begun are those committed or rolled back,
in the same order, and the one it holds (`GraphMapper.Transaction.Books`). Every turn adds to them
what it has to (`GraphMapper.Transaction.Turn.entry`), so they are kept after any moves
(`GraphMapper.Transaction.Kept.after`). As no two sessions have the same number
(`GraphMapper.Transaction.Numbered`), they can be read as counts: this is
`GraphMapper.Transaction.accounted_after`.
-/

namespace GraphMapper

open GraphMapper.Action

namespace Transaction

/-! ### Books -/

/-- The sessions asked for are numbered one after the other. -/
def Numbered (first : Nat) (xs : List Exchange) : Prop :=
  xs.filterMap Exchange.requested? =
    List.range' first (xs.filterMap Exchange.requested?).length

theorem Numbered.append {first : Nat} {xs ys : List Exchange} (hx : Numbered first xs)
    (hy : Numbered (first + (xs.filterMap Exchange.requested?).length) ys) :
    Numbered first (xs ++ ys) := by
  unfold Numbered at *
  rw [List.filterMap_append, List.length_append, ← List.range'_append_1, ← hx, ← hy]

/-- What is opened was asked for. -/
theorem opened_sublist_requested (xs : List Exchange) :
    (xs.filterMap Exchange.opened?).Sublist (xs.filterMap Exchange.requested?) := by
  induction xs with
  | nil => exact .slnil
  | cons x rest ih =>
    obtain ⟨call, answer⟩ := x
    cases call with
    | openSession session database =>
      cases answer with
      | ok _ => exact ih.cons_cons session
      | error _ => exact ih.cons session
    | _ => exact ih

/-- No two sessions that are opened have the same number. -/
theorem Numbered.nodup_opened {first : Nat} {xs : List Exchange} (h : Numbered first xs) :
    (xs.filterMap Exchange.opened?).Nodup := by
  have requested : (xs.filterMap Exchange.requested?).Nodup := by
    rw [h]
    exact List.nodup_range'
  exact requested.sublist (opened_sublist_requested xs)

/-- **The books of a handle**: what it holds, compared with the exchanges made for it. -/
structure Books (t : Transaction) (xs : List Exchange) : Prop where
  /-- The handle is active and holds both a session and its transaction, or it is idle and holds
  neither. -/
  settled : t.Settled
  /-- The sessions opened are those closed, and the one that is held. -/
  sessions : xs.filterMap Exchange.opened? = xs.filterMap Exchange.closed? ++ t.session?.toList
  /-- The transactions begun are those ended, and the one that is held. -/
  works : xs.filterMap Exchange.begun? = xs.filterMap Exchange.ended? ++ t.work?.toList
  /-- A transaction is begun in a session that was opened. -/
  opened : (xs.filterMap Exchange.begun?).Sublist (xs.filterMap Exchange.opened?)

theorem Books.new (database : Value) : Books { database } [] :=
  ⟨.idle database, rfl, rfl, .slnil⟩

/-- What one turn adds to the books: it opens what it begins, and closes and ends what was held,
unless it goes on being held. -/
structure Entry (t t' : Transaction) (xs : List Exchange) : Prop where
  /-- Sessions held before or opened now are closed now or held afterwards. -/
  sessions : t.session?.toList ++ xs.filterMap Exchange.opened? =
    xs.filterMap Exchange.closed? ++ t'.session?.toList
  /-- Transactions held before or begun now are ended now or held afterwards. -/
  works : t.work?.toList ++ xs.filterMap Exchange.begun? =
    xs.filterMap Exchange.ended? ++ t'.work?.toList
  /-- A transaction is begun in a session that was opened. -/
  opened : (xs.filterMap Exchange.begun?).Sublist (xs.filterMap Exchange.opened?)

theorem Books.append {t t' : Transaction} {xs ys : List Exchange} (h : Books t xs)
    (h' : Entry t t' ys) (settled : t'.Settled) : Books t' (xs ++ ys) where
  settled := settled
  sessions := by
    rw [List.filterMap_append, List.filterMap_append, h.sessions, List.append_assoc, h'.sessions,
      List.append_assoc]
  works := by
    rw [List.filterMap_append, List.filterMap_append, h.works, List.append_assoc, h'.works,
      List.append_assoc]
  opened := by
    rw [List.filterMap_append, List.filterMap_append]
    exact h.opened.append h'.opened

/-! ### What a turn adds -/

variable {t t' : Transaction} {next : Nat} {m : Move} {e : Except Failure Unit} {xs : List Exchange}

/-- Statements have nothing to do with the books. -/
theorem entry_running {runner : Runner} {statement : String} {parameters : Value}
    {outcome : Except Failure Result} (h : Running runner statement parameters xs outcome) :
    Entry t t xs := by
  cases h <;> exact ⟨List.append_nil _, List.append_nil _, .slnil⟩

/-- An idle handle that opens a session without beginning a transaction closes it. -/
theorem entry_unbegun {e : Failure} (h : Opening next (.error e) xs) (ht : t.Settled)
    (idle : t.isActive = false) : Entry t t xs := by
  cases ht with
  | active => cases idle
  | idle database =>
    cases h with
    | refused => exact ⟨rfl, rfl, .slnil⟩
    | unopened => exact ⟨rfl, rfl, .slnil⟩
    | unbegun => exact ⟨rfl, rfl, List.nil_sublist _⟩

/-- A transaction is ended by a commit, and only by the move that commits, or by a rollback. -/
theorem Move.ending?_cases {ending : Nat → Call} (h : m.ending? = some ending) :
    ending = .commit ∧ m = .commit ∨ ending = .rollback := by
  cases m with
  | commit => exact .inl ⟨(Option.some.inj h).symm, rfl⟩
  | rollback | close | leave => exact .inr (Option.some.inj h).symm
  | begin | run | enter => cases h

/-- **Every turn of a settled handle adds to its books.** -/
theorem Turn.entry (h : Turn t next m e xs t') (ht : t.Settled) : Entry t t' xs := by
  cases h with
  | refused | idled | misused => exact ⟨List.append_nil _, List.append_nil _, .slnil⟩
  | unbegun _ idle opening => exact entry_unbegun opening ht idle
  | begun _ idle opening =>
    cases ht with
    | active => cases idle
    | idle database =>
      cases opening with
      | begun => exact ⟨rfl, rfl, .refl _⟩
  | ran _ running => exact entry_running running
  | ended ends work session =>
    rcases Move.ending?_cases ends with ⟨rfl, -⟩ | rfl
    · exact ⟨by rw [session]; rfl, by rw [work]; rfl, .slnil⟩
    · exact ⟨by rw [session]; rfl, by rw [work]; rfl, .slnil⟩

/-- A turn asks for the next session, or for none. -/
theorem Turn.numbered (h : Turn t next m e xs t') : Numbered next xs := by
  cases h with
  | unbegun _ _ opening | begun _ _ opening => cases opening <;> rfl
  | ran _ running => cases running <;> rfl
  | refused | idled | misused => rfl
  | ended ends => rcases Move.ending?_cases ends with ⟨rfl, -⟩ | rfl <;> rfl

/-- Nothing but the move that commits asks the driver to commit. -/
theorem Turn.eq_commit (h : Turn t next m e xs t') {n : Nat} {answer : Except Fault Result}
    (hx : ⟨.commit n, answer⟩ ∈ xs) : m = .commit := by
  cases h with
  | unbegun _ _ opening | begun _ _ opening => cases opening <;> simp at hx
  | ran _ running => cases running <;> simp at hx
  | refused | idled | misused => cases hx
  | ended ends =>
    rcases Move.ending?_cases ends with ⟨-, hm⟩ | rfl
    · exact hm
    · simp at hx

/-! ### After any moves -/

variable {σ : Type} [Database σ]

/-- The world after some moves of a handle, of which any may fail. -/
def after (handle : Nat) (moves : List Move) (w : World σ) : World σ :=
  moves.foldl (fun w m => ((m.action handle).perform w).2) w

/-- A world reached from another by moves of a handle, the handle's books being kept. -/
structure Kept (handle : Nat) (w v : World σ) (xs : List Exchange) : Prop where
  /-- The exchanges are added to the trace. -/
  trace : v.trace = w.trace ++ xs
  /-- The sessions asked for are counted. -/
  sessions : v.sessions = w.sessions + (xs.filterMap Exchange.requested?).length
  /-- They have numbers of their own. -/
  numbered : Numbered (w.sessions + 1) xs
  /-- The handle is there. -/
  handle_lt : handle < v.transactions.length
  /-- Its books are kept. -/
  books : Books (v.transaction handle) xs

omit [Database σ] in
theorem transaction_set_self {handle : Nat} {w v : World σ} {t : Transaction}
    (hh : handle < w.transactions.length) (h : v.transactions = w.transactions.set handle t) :
    v.transaction handle = t := by
  rw [World.transaction, h, List.getElem?_set_self hh, Option.getD_some]

/-- One move. -/
theorem Kept.action {handle : Nat} {w v : World σ} {xs : List Exchange} (h : Kept handle w v xs)
    (m : Move) : ∃ ys, Kept handle w ((m.action handle).perform v).2 (xs ++ ys) := by
  obtain ⟨ys, t, turn, leads, -⟩ := takesTurn_action h.books.settled h.handle_lt m
  have left : ((m.action handle).perform v).2.transaction handle = t :=
    transaction_set_self h.handle_lt leads.transactions
  refine ⟨ys, ?_, ?_, ?_, ?_, ?_⟩
  · rw [leads.trace, h.trace, List.append_assoc]
  · rw [leads.sessions, h.sessions, List.filterMap_append, List.length_append]
    omega
  · refine h.numbered.append ?_
    have next : v.sessions + 1 =
        w.sessions + 1 + (xs.filterMap Exchange.requested?).length := by
      rw [h.sessions]
      omega
    rw [← next]
    exact turn.numbered
  · rw [leads.transactions, List.length_set]
    exact h.handle_lt
  · rw [left]
    exact h.books.append (turn.entry h.books.settled) (turn.settled h.books.settled)

/-- **The books of a handle are kept whatever its moves**, and whatever the driver answers. -/
theorem Kept.after {handle : Nat} {w v : World σ} {xs : List Exchange} (h : Kept handle w v xs)
    (moves : List Move) : ∃ ys, Kept handle w (after handle moves v) (xs ++ ys) := by
  induction moves generalizing v xs with
  | nil => exact ⟨[], by rwa [List.append_nil]⟩
  | cons m rest ih =>
    obtain ⟨ys, h⟩ := h.action m
    obtain ⟨zs, h⟩ := ih h
    exact ⟨ys ++ zs, by rwa [← List.append_assoc]⟩

omit [Database σ] in
/-- The books of a new handle are kept from the start. -/
theorem kept_new (database : Value) (w : World σ) :
    Kept w.transactions.length w ((new database).perform w).2 [] := by
  have new : ((new database).perform w).2 =
      { w with transactions := w.transactions ++ [{ database }] } := rfl
  refine ⟨?_, ?_, rfl, ?_, ?_⟩
  · rw [new, List.append_nil]
  · rw [new]; rfl
  · rw [new]
    simp
  · have made : (w.transactions ++ [({ database } : Transaction)])[w.transactions.length]? =
        some { database } := List.getElem?_concat_length
    rw [new, World.transaction_of_getElem? made]
    exact .new database

/-! ### The books as counts -/

/-- **The account of a handle** after some exchanges made for it. -/
structure Accounted (t : Transaction) (xs : List Exchange) : Prop where
  /-- It is active exactly if it holds both a session and a transaction of the driver. -/
  active_iff : t.phase = .active ↔ t.session?.isSome ∧ t.work?.isSome
  /-- One session more was opened than closed if it is active, and otherwise as many. -/
  sessions : (xs.filterMap Exchange.opened?).length =
    (xs.filterMap Exchange.closed?).length + if t.phase = .active then 1 else 0
  /-- Only sessions that were opened are closed. -/
  closed_opened : ∀ n ∈ xs.filterMap Exchange.closed?, n ∈ xs.filterMap Exchange.opened?
  /-- No session is closed twice. -/
  closed_once : (xs.filterMap Exchange.closed?).Nodup
  /-- A transaction that is no longer held has been committed or rolled back, once. -/
  ended_once : ∀ n ∈ xs.filterMap Exchange.begun?, t.work? ≠ some n →
    (xs.filterMap Exchange.ended?).count n = 1
  /-- The one that is held has not. -/
  held_open : ∀ n, t.work? = some n → n ∉ xs.filterMap Exchange.ended?

/-- Books in which no two sessions have the same number can be read as counts. -/
theorem Books.accounted (h : Books t xs) (hn : (xs.filterMap Exchange.opened?).Nodup) :
    Accounted t xs := by
  have works := hn.sublist h.opened
  have closed := h.sessions ▸ hn
  rw [h.works] at works
  obtain ⟨ended, -, apart⟩ := List.nodup_append.mp works
  refine ⟨?_, ?_, ?_, (List.nodup_append.mp closed).1, ?_, ?_⟩
  · cases h.settled <;> simp
  · rw [h.sessions, List.length_append]
    cases h.settled <;> rfl
  · intro n hn
    rw [h.sessions]
    exact List.mem_append_left _ hn
  · intro n hb held
    rw [h.works] at hb
    refine List.count_eq_one_of_mem ended ((List.mem_append.mp hb).resolve_right fun hn => held ?_)
    simpa using hn
  · intro n held hn
    exact apart n hn n (by simpa using held) rfl

/-- **The lifecycle of a transaction handle.** After any moves of a new handle, whatever calls to
the driver fail on the way: it is active exactly if it holds a session and a transaction, it has
closed every other session it opened, once, and every other transaction it began has been
committed or rolled back, once. Of any further move, only committing asks the driver to commit,
and one that is refused for the state of the handle changes nothing. -/
theorem accounted_after (database : Value) (moves : List Move) (w : World σ) :
    let handle := w.transactions.length
    let v := after handle moves ((new database).perform w).2
    (∃ xs, v.trace = w.trace ++ xs ∧ Accounted (v.transaction handle) xs) ∧
      ∀ m : Move,
        (∀ n answer, ⟨.commit n, answer⟩ ∈ (m.action handle).exchanges v → m = .commit) ∧
        ((∃ p, ((m.action handle).perform v).1 = .error (.transaction p)) →
          ((m.action handle).perform v).2 = v) := by
  obtain ⟨xs, kept⟩ := (kept_new database w).after moves
  refine ⟨⟨xs, kept.trace, kept.books.accounted kept.numbered.nodup_opened⟩, fun m => ?_⟩
  obtain ⟨ys, t, turn, leads, unchanged⟩ := takesTurn_action kept.books.settled kept.handle_lt m
  refine ⟨fun n answer hx => ?_, unchanged⟩
  rw [exchanges, leads.trace, List.drop_left] at hx
  exact turn.eq_commit hx

end Transaction

end GraphMapper
