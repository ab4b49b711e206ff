import GraphMapper.Database.Scripted
import GraphMapper.Proofs.Client.Runs
import GraphMapper.Proofs.Engine.Errands

/-!
# What becomes of drivers

An engine asks for a driver whenever it connects, and each has a number of its own. This file
accounts for all of them, over any row of errands: a driver that was created is held by the engine,
or it has been closed – but for those that turned out not to reach the database, which are dropped
as they are (`GraphMapper.Engine.kept_iff_of_created`).

The account is an invariant of the trace and the link (`GraphMapper.Engine.Account`). Every way of
an errand keeps it (`GraphMapper.Engine.Way.account`): a number that is new is in no part of the
account yet, and a driver is held only after it has been checked, so closing it takes nothing from
those that were dropped.
-/

namespace GraphMapper

open GraphMapper.Action

namespace Exchange

/-- The driver that an exchange creates. -/
def created? (x : Exchange) : Option Nat :=
  match x.call, x.answer with
  | .openDriver driver _, .ok _ => some driver
  | _, _ => none

/-- The driver that an exchange finds not to reach the database. -/
def unreached? (x : Exchange) : Option Nat :=
  match x.call, x.answer with
  | .verify driver, .error _ => some driver
  | _, _ => none

/-- The driver that an exchange closes, whether it can be closed or not. -/
def closing? (x : Exchange) : Option Nat :=
  match x.call with
  | .closeDriver driver => some driver
  | _ => none

end Exchange

namespace World

variable {σ : Type}

/-- The drivers that were created. -/
def created (w : World σ) : List Nat := w.trace.filterMap Exchange.created?

/-- The drivers that turned out not to reach the database. -/
def unreached (w : World σ) : List Nat := w.trace.filterMap Exchange.unreached?

/-- The drivers that were closed, or were to be. -/
def closing (w : World σ) : List Nat := w.trace.filterMap Exchange.closing?

end World

namespace Engine

/-! ### The account -/

/-- **The account of drivers**: how many were asked for, the one that is held, and those that were
created, that do not reach the database, and that were closed. -/
structure Account (drivers : Nat) (held? : Option Nat) (created unreached closing : List Nat) :
    Prop where
  /-- All of them have been asked for. -/
  numbered : ∀ d, held? = some d ∨ d ∈ created ∨ d ∈ unreached ∨ d ∈ closing → d ≤ drivers
  /-- One that does not reach the database is neither held nor closed. -/
  dropped : ∀ d ∈ unreached, held? ≠ some d ∧ d ∉ closing
  /-- Any other that was created is held or closed. -/
  kept : ∀ d ∈ created, d ∉ unreached → held? = some d ∨ d ∈ closing

namespace Account

variable {drivers : Nat} {created unreached closing : List Nat}

/-- A driver is created and does not reach the database. -/
theorem drop (h : Account drivers none created unreached closing) :
    Account (drivers + 1) none (created ++ [drivers + 1]) (unreached ++ [drivers + 1]) closing := by
  have closed (d : Nat) (hd : d ∈ closing) : d ≤ drivers := h.numbered d (by simp [hd])
  refine ⟨fun d hd => ?_, fun d hd => ⟨nofun, ?_⟩, fun d hd reaches => ?_⟩
  · have := h.numbered d
    grind
  · have := h.dropped d
    grind
  · have := h.kept d
    grind

/-- A driver is created, reaches the database, and is held. -/
theorem hold (h : Account drivers none created unreached closing) :
    Account (drivers + 1) (some (drivers + 1)) (created ++ [drivers + 1]) unreached closing := by
  have numbered (d : Nat) (hd : d ∈ unreached) : d ≤ drivers := h.numbered d (by simp [hd])
  refine ⟨fun d hd => ?_, fun d hd => ⟨?_, (h.dropped d hd).2⟩, fun d hd reaches => ?_⟩
  · have := h.numbered d
    grind
  · have := numbered d hd
    grind
  · have := h.kept d
    grind

/-- No driver is created after all. -/
theorem skip (h : Account drivers none created unreached closing) :
    Account (drivers + 1) none created unreached closing :=
  ⟨fun d hd => (h.numbered d hd).trans (Nat.le_succ _), h.dropped, h.kept⟩

/-- The driver that is held is to be closed, and is kept or not. -/
theorem close {d : Nat} (h : Account drivers (some d) created unreached closing)
    {held? : Option Nat} (kept : ∀ e, held? = some e → e = d) :
    Account drivers held? created unreached (closing ++ [d]) := by
  refine ⟨fun e he => ?_, fun e he => ?_, fun e he reaches => ?_⟩
  · have := h.numbered e
    grind
  · have := h.dropped e he
    grind
  · have := h.kept e he reaches
    grind

end Account

/-! ### Errands keep the account -/

/-- The account of a world. -/
def Accounted {σ : Type} (w : World σ) : Prop :=
  Account w.drivers w.engine.link.driver? w.created w.unreached w.closing

variable {σ : Type} {w v : World σ} {s : Service}

/-- **Every way of an errand keeps the account.** -/
theorem Served.accounted (h : Served w v s) (account : Accounted w) : Accounted v := by
  obtain ⟨way, trace, drivers⟩ := h
  unfold Accounted World.created World.unreached World.closing at account ⊢
  rw [trace, drivers, List.filterMap_append, List.filterMap_append, List.filterMap_append]
  generalize w.trace.filterMap Exchange.created? = created at account
  generalize w.trace.filterMap Exchange.unreached? = unreached at account
  generalize w.trace.filterMap Exchange.closing? = closing at account
  generalize w.engine.link = l, v.engine.link = l' at way account
  cases way <;> simp only [Service.attempts, Link.driver?, List.filterMap_cons, List.filterMap_nil,
    Exchange.driver?, Exchange.created?, Exchange.unreached?, Exchange.closing?, List.length_cons,
    List.length_nil, List.append_nil] at account ⊢
  case connected => exact account.hold
  case uncreated => exact account.skip
  case unverified => exact account.drop
  case closed => exact account.close (by simp)
  case unclosed => exact account.close (by simp [eq_comm])
  -- The others have nothing to do with drivers.
  all_goals exact account

variable [Database σ]

/-- Errands one after the other keep the account. -/
theorem account_after (checked : ∀ d, w.engine.link ≠ .unverified d) (account : Accounted w)
    (errands : List Errand) : Accounted (after w errands) := by
  induction errands generalizing w with
  | nil => exact account
  | cons errand rest ih =>
    have first := served checked errand
    exact ih first.way.checked (first.accounted account)

/-- **What becomes of drivers.** After any errands at an engine that has just been made, and
whatever the driver answers, a driver that was created is held by the engine or has been closed
exactly if it was not found out of reach of the database. -/
theorem kept_iff_of_created (database : σ) (clock : Float) (identifiers : IdentifierSource)
    (stripHyphens uri name : Value) (auth : Option (String × String))
    (config : List (String × Value)) (errands : List Errand) :
    let start := Client.opened database (ofConfig uri auth name config) clock identifiers
      stripHyphens
    let w := after start errands
    ∀ d ∈ w.created, w.engine.link.driver? = some d ∨ d ∈ w.closing ↔ d ∉ w.unreached := by
  intro start w d created
  have fresh : Accounted start := by
    refine ⟨fun d hd => ?_, fun d hd => ?_, fun d hd => ?_⟩
    · rcases hd with ⟨⟨⟩⟩ | hd | hd | hd <;> cases hd
    · cases hd
    · cases hd
  have account : Accounted w := account_after (fun _ => Link.noConfusion) fresh errands
  refine ⟨fun kept unreached => ?_, account.kept d created⟩
  obtain ⟨notHeld, notClosed⟩ := account.dropped d unreached
  exact kept.elim notHeld notClosed

end Engine

namespace Example

/-- An engine that has just been made, at a database that cannot be reached by its first
driver. -/
def outOfReach : World Scripted :=
  Client.opened { faults := [⟨.verify, ⟨"ServiceUnavailable", "no route"⟩, 0⟩] }
    (Engine.ofConfig (.text "bolt://localhost") none (.text "neo4j") []) 0 {} (.bool false)

end Example

/-- The second driver that is asked for reaches the database, and is closed in the end. -/
theorem Engine.kept_second :
    let w := after Example.outOfReach [.connect, .connect, .close]
    2 ∈ w.created ∧ (w.engine.link.driver? = some 2 ∨ 2 ∈ w.closing ↔ 2 ∉ w.unreached) :=
  have created : 2 ∈ (after Example.outOfReach [.connect, .connect, .close]).created := by
    decide +kernel
  ⟨created, kept_iff_of_created _ _ _ _ _ _ _ _ _ 2 created⟩

/-- **A driver that is lost**: it is created, but does not reach the database; connecting fails,
and the driver is neither held nor closed. -/
theorem Engine.not_kept_first :
    let w := after Example.outOfReach [.connect]
    1 ∈ w.created ∧ ¬ (w.engine.link.driver? = some 1 ∨ 1 ∈ w.closing) := by
  decide +kernel

end GraphMapper
