import GraphMapper.Proofs.Sending
import GraphMapper.Proofs.Transaction.Lifecycle

/-!
# Where statements run

The client routes every statement the same way: through the driver's transaction that the active
handle holds, or else through a session of its own, opened for it and closed behind it.
`GraphMapper.World.RoutesTo` says which **route** that is, and `GraphMapper.Course` what running a
statement on it looks like. Whatever the client does for an operation – running its statement,
looking up what the nodes are related to – is a row of such courses, all on the route that the
operation finds (`GraphMapper.Client.serves_perform`): an operation changes no handle, so the route
stays until it is done.
-/

namespace GraphMapper

open GraphMapper.Action

variable {σ : Type}

/-! ### Routes -/

/-- Where statements go. -/
inductive Route where
  /-- Into a transaction of the driver. -/
  | transaction (work : Nat)
  /-- Into a session of their own each, on a database. -/
  | ownSession (database : Value)

/-- **The route of statements**, given the handle that was begun last: the transaction that it
holds if it is active, and otherwise sessions on the database of the engine. -/
inductive World.RoutesTo (w : World σ) (last? : Option Nat) : Route → Prop where
  /-- The handle begun last is active. -/
  | transaction {handle work : Nat} (last : last? = some handle)
    (active : (w.transaction handle).phase = .active)
    (holds : (w.transaction handle).work? = some work) : RoutesTo w last? (.transaction work)
  /-- No handle was begun last, or it is not active any more. -/
  | ownSession (inactive : ∀ handle, last? = some handle → (w.transaction handle).phase ≠ .active) :
    RoutesTo w last? (.ownSession w.engine.database)

namespace World.RoutesTo

variable {w v : World σ} {last? : Option Nat} {route route' : Route}

/-- There is no more than one route. -/
theorem unique (h : w.RoutesTo last? route) (h' : w.RoutesTo last? route') : route = route' := by
  cases h with
  | transaction last active holds =>
    cases h' with
    | transaction last' _ holds' =>
      obtain rfl : _ = _ := Option.some.inj (last.symm.trans last')
      rw [Option.some.inj (holds.symm.trans holds')]
    | ownSession inactive => exact absurd active (inactive _ last)
  | ownSession inactive =>
    cases h' with
    | transaction last active _ => exact absurd active (inactive _ last)
    | ownSession => rfl

/-- If all handles are settled there is one. -/
theorem exists_of_settled (settled : ∀ handle, (w.transaction handle).Settled) :
    ∃ route, w.RoutesTo last? route := by
  by_cases active : ∃ handle, last? = some handle ∧ (w.transaction handle).phase = .active
  · obtain ⟨handle, last, active⟩ := active
    obtain ⟨work, holds⟩ : ∃ work, (w.transaction handle).work? = some work := by
      have := settled handle
      generalize w.transaction handle = t at this active
      cases this with
      | idle => cases active
      | active _ work => exact ⟨work, rfl⟩
    exact ⟨_, .transaction last active holds⟩
  · exact ⟨_, .ownSession fun handle last h => active ⟨handle, last, h⟩⟩

/-- Where the client is in the same state, statements take the same route. -/
theorem of_sameClient (h : v.RoutesTo last? route) (same : w.SameClient v) :
    w.RoutesTo last? route := by
  have transaction (handle : Nat) : v.transaction handle = w.transaction handle := by
    rw [World.transaction, World.transaction, same.transactions]
  cases h with
  | transaction last active holds =>
    rw [transaction] at active holds
    exact .transaction last active holds
  | ownSession inactive =>
    rw [same.engine]
    exact .ownSession fun handle last => transaction handle ▸ inactive handle last

end World.RoutesTo

/-- **The courses of a statement on a route.** In a session of its own it runs between the opening
and the closing, and the session is closed whatever became of the statement. -/
inductive Course : Route → List Exchange → Prop where
  /-- Nothing is asked. -/
  | refused (route : Route) : Course route []
  /-- The statement runs in the transaction. -/
  | inTransaction {work : Nat} {statement : String} {parameters : Value} {xs : List Exchange}
    {e : Except Failure Result} (running : Running (.transaction work) statement parameters xs e) :
    Course (.transaction work) xs
  /-- No session can be opened. -/
  | unopened (session : Nat) (database : Value) (fault : Fault) :
    Course (.ownSession database) [⟨.openSession session database, .error fault⟩]
  /-- A session is opened, the parameters of the statement are refused, and the session is
  closed. -/
  | misused (session : Nat) (database : Value) (opened : Result) (closed : Except Fault Result) :
    Course (.ownSession database)
      [⟨.openSession session database, .ok opened⟩, ⟨.closeSession session, closed⟩]
  /-- A session is opened, the statement runs in it, and the session is closed. -/
  | inSession {session : Nat} {database : Value} {statement : String} {parameters : Value}
    {xs : List Exchange} {e : Except Failure Result} (opened : Result)
    (running : Running (.session session) statement parameters xs e)
    (closed : Except Fault Result) :
    Course (.ownSession database) (⟨.openSession session database, .ok opened⟩ :: (xs ++
      [⟨.closeSession session, closed⟩]))

/-- Statements run one after the other, all on one route. -/
inductive Courses (route : Route) : List Exchange → Prop where
  /-- None. -/
  | nil : Courses route []
  /-- One, and then others. -/
  | cons {xs ys : List Exchange} (first : Course route xs) (rest : Courses route ys) :
    Courses route (xs ++ ys)

theorem Courses.append {route : Route} {xs ys : List Exchange} (hx : Courses route xs)
    (hy : Courses route ys) : Courses route (xs ++ ys) := by
  induction hx with
  | nil => exact hy
  | cons first _ ih =>
    rw [List.append_assoc]
    exact .cons first ih

theorem Course.courses {route : Route} {xs : List Exchange} (h : Course route xs) :
    Courses route xs := by
  rw [← List.append_nil xs]
  exact .cons h .nil

/-! ### Serving -/

/-- **From one world to another by statements alone**: no handle changes, the sessions asked for
are the next ones, and the exchanges are courses on the route of the client. -/
def World.Serves (w v : World σ) : Prop :=
  ∃ xs, w.Leads v xs w.transactions ∧ Transaction.Numbered (w.sessions + 1) xs ∧
    ∀ route, w.RoutesTo w.current? route → Courses route xs

instance : Passing (World.Serves (σ := σ)) where
  refl w := ⟨[], .refl w, rfl, fun _ _ => .nil⟩
  trans := by
    rintro u v w ⟨xs, leads, numbered, courses⟩ ⟨ys, leads', numbered', courses'⟩
    have same := leads.sameClient
    rw [leads.transactions] at leads'
    refine ⟨xs ++ ys, leads.trans leads', numbered.append ?_, fun route h => ?_⟩
    · rwa [leads.sessions, Nat.add_right_comm] at numbered'
    · -- The route is still the same when the second step is made.
      refine (courses route h).append (courses' route ?_)
      rw [leads.current]
      exact h.of_sameClient same.symm
  noted w log := ⟨[], (World.Leads.refl w).noted log, rfl, fun _ _ => .nil⟩
  drawn w identifiers :=
    ⟨[], ⟨(List.append_nil _).symm, rfl, rfl, rfl, rfl⟩, rfl, fun _ _ => .nil⟩

variable [Database σ]

/-- Running a statement asks for no session. -/
theorem Running.requested? {runner : Runner} {statement : String} {parameters : Value}
    {xs : List Exchange} {e : Except Failure Result}
    (h : Running runner statement parameters xs e) : xs.filterMap Exchange.requested? = [] := by
  cases h <;> rfl

/-- In a session of its own a statement takes one of the courses. -/
theorem Engine.serves_execute (statement : String) (parameters : Value) (w : World σ) :
    ∃ xs, w.Leads ((execute .null statement parameters).perform w).2 xs w.transactions ∧
      Transaction.Numbered (w.sessions + 1) xs ∧ Course (.ownSession w.engine.database) xs := by
  rcases leads_openSession .null w with ⟨uri, hp⟩ | ⟨answer, v, hp, leads⟩
  · have refused :
        (execute .null statement parameters).perform w = (.error (.notConnected uri), w) :=
      perform_bind_error hp
    rw [refused]
    exact ⟨[], .refl w, rfl, .refused _⟩
  have default : w.engine.databaseOf .null = w.engine.database := rfl
  rw [default] at leads
  cases answer with
  | error fault =>
    have unopened : (execute .null statement parameters).perform w = (.error (.fault fault), v) :=
      perform_bind_error hp
    rw [unopened]
    exact ⟨_, leads, rfl, .unopened _ _ fault⟩
  | ok opened =>
    have ran : (execute .null statement parameters).perform w =
        (ensuring (runOn (.session (w.sessions + 1)) statement parameters)
          (closeSession (w.sessions + 1))).perform v := perform_bind_ok hp
    rw [ran, perform_ensuring_snd]
    rcases leads_runOn (.session (w.sessions + 1)) statement parameters v with
      ⟨misuse, hr⟩ | ⟨given, e, u, xs, hr, running, leads'⟩
    · obtain ⟨closed, t, hc, leads'⟩ := leads_closeSession (w.sessions + 1) v
      rw [leads.transactions] at leads'
      rw [hr, hc]
      exact ⟨_, leads.trans leads', rfl, .misused _ _ opened closed⟩
    · obtain ⟨closed, t, hc, leads''⟩ := leads_closeSession (w.sessions + 1) u
      rw [leads'.transactions, leads.transactions] at leads''
      rw [leads.transactions] at leads'
      rw [hr, hc]
      refine ⟨_, leads.trans (leads'.trans leads''), ?_, .inSession opened running closed⟩
      unfold Transaction.Numbered
      rw [List.filterMap_append, List.filterMap_append, running.requested?]
      rfl

namespace Client

/-- **Executing a statement serves**: it runs on the route of the client. -/
theorem serves_execute (statement : String) (parameters : Value) :
    Within World.Serves (execute statement parameters : Action σ Result) := by
  intro w
  have looked : (activeHandle? : Action σ (Option Nat)).perform w = (.ok w.activeHandle?, w) := rfl
  rw [execute, perform_bind_ok looked]
  cases chosen : w.activeHandle? with
  | none =>
    have inactive (handle : Nat) (last : w.current? = some handle) :
        (w.transaction handle).phase ≠ .active := by
      intro active
      rw [World.activeHandle?, last, Option.filter_some, Transaction.isActive, active] at chosen
      cases chosen
    obtain ⟨xs, leads, numbered, course⟩ := Engine.serves_execute statement parameters w
    refine ⟨xs, leads, numbered, fun route h => ?_⟩
    rw [h.unique (.ownSession inactive)]
    exact course.courses
  | some handle =>
    obtain ⟨last, active⟩ := Option.filter_eq_some_iff.mp chosen
    have active : (w.transaction handle).phase = .active := by
      simpa [Transaction.isActive] using active
    dsimp only
    rw [Transaction.run, perform_bind_ok (Transaction.perform_get handle w), active]
    cases holds : (w.transaction handle).work? with
    | none => exact Passing.refl w
    | some work =>
      dsimp only
      rcases Engine.leads_runOn (.transaction work) statement parameters w with
        ⟨misuse, hp⟩ | ⟨given, e, v, xs, hp, running, leads⟩
      · rw [hp]
        exact Passing.refl w
      · rw [hp]
        refine ⟨xs, leads, ?_, fun route h => ?_⟩
        · unfold Transaction.Numbered
          rw [running.requested?]
          rfl
        · rw [h.unique (.transaction last active holds)]
          exact (Course.inTransaction running).courses

variable (c : Catalog)

omit [Database σ] in
theorem within_prepare {R : World σ → World σ → Prop} [Passing R] (operation : Operation) :
    Within R (prepare c operation : Action σ Request) := by
  refine within_get.bind fun w => (within_ofOutcome _).bind fun request => ?_
  split
  · exact within_drawIdentifier.bind fun _ => within_pure _
  · exact within_pure _

theorem serves_send (request : Request) :
    Within World.Serves (send c request : Action σ Value) :=
  (serves_execute _ _).bind fun _ => within_read (fun _ _ _ => serves_execute _ _) _ _

/-- **Performing an operation serves.** -/
theorem serves_perform (operation : Operation) :
    Within World.Serves (perform c operation : Action σ Value) :=
  (within_prepare c operation).bind fun _ => serves_send c _

end Client

end GraphMapper
