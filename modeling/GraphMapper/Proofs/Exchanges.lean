import GraphMapper.World

/-!
# What an action asks of the driver

An action stays **within** a relation between worlds if the world it leaves is so related to the
one it finds, wherever it is performed (`GraphMapper.Action.Within`). For a relation that passes
on from step to step (`GraphMapper.Action.Passing`), this is closed under everything that actions
are built from, so it is read off the text of an action.

The trace of a world only ever grows, and what an action adds to it are its **exchanges**: the
calls it makes, each with its answer. `GraphMapper.Action.Asks L` says of an action that the
exchanges it adds have the property `L`, and that it leaves the client as it found it – its
engine, its transactions, and the one it began last. This is a relation that passes on if `L`
passes from two lists of exchanges to the one made of both (`GraphMapper.Action.Chained`).

The exchanges of two actions in a row are those of the first, followed by those of the second
if it is reached (`GraphMapper.Action.exchanges_bind_ok`,
`GraphMapper.Action.exchanges_bind_error`). For this it is enough that both only add to the trace
(`GraphMapper.Action.exchanges_bind_of_grows`); what they do to the client does not matter.
-/

namespace GraphMapper

/-- The statement that an exchange runs, with its parameters. -/
def Exchange.statement? (x : Exchange) : Option (String × Value) :=
  match x.call with
  | .run _ statement parameters => some (statement, parameters)
  | _ => none

variable {σ α β : Type}

/-- Two worlds with the client in the same state. -/
structure World.SameClient (w v : World σ) : Prop where
  /-- The engine is the same. -/
  engine : v.engine = w.engine
  /-- The transactions are the same. -/
  transactions : v.transactions = w.transactions
  /-- The transaction begun last is the same. -/
  current : v.current? = w.current?

namespace World.SameClient

theorem refl (w : World σ) : w.SameClient w := ⟨rfl, rfl, rfl⟩

theorem trans {u v w : World σ} (h : u.SameClient v) (h' : v.SameClient w) : u.SameClient w :=
  ⟨h'.1.trans h.1, h'.2.trans h.2, h'.3.trans h.3⟩

theorem symm {w v : World σ} (h : w.SameClient v) : v.SameClient w := ⟨h.1.symm, h.2.symm, h.3.symm⟩

end World.SameClient

/-- From one world to another by adding to the trace. -/
def World.Grows (w v : World σ) : Prop := w.trace <+: v.trace

namespace Action

/-- The exchanges that an action adds to the trace. -/
def exchanges (a : Action σ α) (w : World σ) : List Exchange :=
  (a.perform w).2.trace.drop w.trace.length

/-- The statements that an action sends, in order, with their parameters. -/
def statements (a : Action σ α) (w : World σ) : List (String × Value) :=
  (a.exchanges w).filterMap Exchange.statement?

/-- A property of lists of exchanges that passes on to those made of two. -/
class Chained (L : List Exchange → Prop) : Prop where
  /-- The empty list has it. -/
  nil : L []
  /-- Two lists in a row have it if each has. -/
  append {xs ys : List Exchange} : L xs → L ys → L (xs ++ ys)

instance : Chained fun _ => True := ⟨trivial, fun _ _ => trivial⟩

instance : Chained (· = []) where
  nil := rfl
  append := by
    rintro _ _ rfl rfl
    rfl

/-- A relation between the world before a step and the world after it that **passes on** from
step to step, and looks neither at notes nor at identifiers. -/
class Passing (R : World σ → World σ → Prop) : Prop where
  /-- It holds where nothing is done. -/
  refl (w : World σ) : R w w
  /-- It holds of two steps in a row if it holds of each. -/
  trans {u v w : World σ} : R u v → R v w → R u w
  /-- It does not look at the log. -/
  noted (w : World σ) (log : List LogEntry) : R w { w with log }
  /-- It does not look at identifiers. -/
  drawn (w : World σ) (identifiers : IdentifierSource) : R w { w with identifiers }

instance : Passing (World.Grows (σ := σ)) where
  refl w := List.prefix_refl w.trace
  trans := List.IsPrefix.trans
  noted w _ := List.prefix_refl w.trace
  drawn w _ := List.prefix_refl w.trace

/-- **The world an action leaves** is related to the one it finds. -/
def Within (R : World σ → World σ → Prop) (a : Action σ α) : Prop :=
  ∀ w, R w (a.perform w).2

/-- The client is in the same state, and exchanges with a property have been added. -/
abbrev Adds (L : List Exchange → Prop) (w v : World σ) : Prop :=
  w.SameClient v ∧ ∃ xs, v.trace = w.trace ++ xs ∧ L xs

instance {L : List Exchange → Prop} [Chained L] : Passing (σ := σ) (Adds L) where
  refl w := ⟨.refl w, [], by simp, Chained.nil⟩
  trans := by
    rintro u v w ⟨hc, xs, hxs, hL⟩ ⟨hc', ys, hys, hL'⟩
    exact ⟨hc.trans hc', xs ++ ys, by rw [hys, hxs, List.append_assoc], Chained.append hL hL'⟩
  noted _ _ := ⟨⟨rfl, rfl, rfl⟩, [], by simp, Chained.nil⟩
  drawn _ _ := ⟨⟨rfl, rfl, rfl⟩, [], by simp, Chained.nil⟩

/-- **All that an action asks of the driver** has a property, and the client stays as it
is. -/
def Asks (L : List Exchange → Prop) (a : Action σ α) : Prop := Within (Adds L) a

/-- An action that adds to the trace, and leaves the client as it is. -/
abbrev Steady (a : Action σ α) : Prop := Asks (fun _ => True) a

/-- What is done in the end is done in the world that the body leaves. -/
theorem perform_ensuring (body : Action σ α) (cleanup : Action σ Unit) (w : World σ) :
    (ensuring body cleanup).perform w = match cleanup.perform (body.perform w).2 with
      | (.ok _, v) => ((body.perform w).1, v)
      | (.error e, v) => (.error e, v) :=
  rfl

theorem perform_ensuring_snd (body : Action σ α) (cleanup : Action σ Unit) (w : World σ) :
    ((ensuring body cleanup).perform w).2 = (cleanup.perform (body.perform w).2).2 := by
  rw [perform_ensuring]
  rcases cleanup.perform (body.perform w).2 with ⟨_ | _, v⟩ <;> rfl

/-! ### What actions are built from -/

section Within

variable {R : World σ → World σ → Prop} [Passing R] {a : Action σ α} {f : α → Action σ β}

theorem within_pure (x : α) : Within R (pure x : Action σ α) := fun w => Passing.refl w

theorem within_ofOutcome (e : Except Failure α) : Within R (ofOutcome e : Action σ α) :=
  fun w => Passing.refl w

theorem within_fail (e : Failure) : Within R (fail e : Action σ α) := within_ofOutcome _

theorem within_get : Within R (get : Action σ (World σ)) := fun w => Passing.refl w

theorem within_note (level : LogLevel) (origin : LogOrigin) (message : String) :
    Within R (note level origin message : Action σ Unit) :=
  fun w => Passing.noted w _

theorem within_drawIdentifier : Within R (drawIdentifier : Action σ String) :=
  fun w => Passing.drawn w _

theorem Within.bind (ha : Within R a) (hf : ∀ x, Within R (f x)) : Within R (a >>= f) := by
  intro w
  have first := ha w
  rw [perform_bind]
  rcases h : a.perform w with ⟨_ | x, v⟩
  · -- The second is not reached.
    rwa [h] at first
  · rw [h] at first
    exact Passing.trans first (hf x v)

/-- What follows an outcome only has to stay within the relation where the outcome is a
success. -/
theorem within_ofOutcome_bind {e : Except Failure α} (h : ∀ x, e = .ok x → Within R (f x)) :
    Within R (ofOutcome e >>= f) := by
  cases e with
  | error e =>
    intro w
    rw [perform_bind]
    exact Passing.refl w
  | ok x =>
    intro w
    rw [perform_bind]
    exact h x rfl w

theorem Within.ensuring {cleanup : Action σ Unit} (ha : Within R a) (hc : Within R cleanup) :
    Within R (ensuring a cleanup) := by
  intro w
  rw [perform_ensuring_snd]
  exact Passing.trans (ha w) (hc _)

omit [Passing R] in
theorem Within.attempt (ha : Within R a) : Within R (attempt a) := ha

end Within

theorem Asks.steady {L : List Exchange → Prop} {a : Action σ α} (h : Asks L a) : Steady a := by
  intro w
  obtain ⟨hc, xs, hxs, -⟩ := h w
  exact ⟨hc, xs, hxs, trivial⟩

theorem asks_call [Database σ] {L : List Exchange → Prop} {c : Call}
    (h : ∀ answer, L [⟨c, answer⟩]) : Asks L (call c : Action σ Result) :=
  fun _ => ⟨⟨rfl, rfl, rfl⟩, [⟨c, _⟩], rfl, h _⟩

theorem Steady.grows {a : Action σ α} (h : Steady a) : Within World.Grows a := by
  intro w
  obtain ⟨-, xs, hxs, -⟩ := h w
  exact ⟨xs, hxs.symm⟩

theorem within_grows_call [Database σ] (c : Call) :
    Within World.Grows (call c : Action σ Result) :=
  fun w => List.prefix_append w.trace _

/-! ### Exchanges, step by step -/

section Exchanges

variable {a : Action σ α} {f : α → Action σ β} {w v : World σ}

theorem Steady.trace_eq (h : Steady a) (w : World σ) :
    (a.perform w).2.trace = w.trace ++ a.exchanges w := by
  obtain ⟨-, xs, hxs, -⟩ := h w
  rw [exchanges, hxs, List.drop_left]

/-- **What an action asks for, its exchanges are.** -/
theorem Asks.holds {L : List Exchange → Prop} (h : Asks L a) (w : World σ) :
    L (a.exchanges w) := by
  obtain ⟨-, xs, hxs, hL⟩ := h w
  rwa [exchanges, hxs, List.drop_left]

theorem exchanges_of_trace (h : (a.perform w).2.trace = w.trace) : a.exchanges w = [] := by
  rw [exchanges, h, List.drop_length]

theorem exchanges_pure (x : α) (w : World σ) : (pure x : Action σ α).exchanges w = [] :=
  exchanges_of_trace rfl

theorem exchanges_call [Database σ] (c : Call) (w : World σ) :
    (call c : Action σ Result).exchanges w = [⟨c, (Database.respond w.database c).1⟩] :=
  List.drop_left

theorem perform_bind_ok {x : α} (h : a.perform w = (.ok x, v)) :
    (a >>= f).perform w = (f x).perform v := by
  rw [perform_bind, h]

theorem perform_bind_error {e : Failure} (h : a.perform w = (.error e, v)) :
    (a >>= f).perform w = (.error e, v) := by
  rw [perform_bind, h]

/-- Two actions in a row succeed if the first does, and then the second. -/
theorem exists_of_perform_bind {y : β} (h : (a >>= f).perform w = (.ok y, v)) :
    ∃ x u, a.perform w = (.ok x, u) ∧ (f x).perform u = (.ok y, v) := by
  rw [perform_bind] at h
  rcases hp : a.perform w with ⟨e | x, u⟩ <;> rw [hp] at h
  · cases h
  · exact ⟨x, u, rfl, h⟩

/-- The exchanges of two actions in a row, if the first succeeds, are those of the first and those
of the second. -/
theorem exchanges_bind_of_grows (ha : Within World.Grows a) (hf : ∀ x, Within World.Grows (f x))
    {x : α} (h : a.perform w = (.ok x, v)) :
    (a >>= f).exchanges w = a.exchanges w ++ (f x).exchanges v := by
  obtain ⟨xs, first⟩ := ha w
  obtain ⟨ys, second⟩ := hf x v
  rw [h] at first
  rw [exchanges, exchanges, exchanges, perform_bind_ok h, h, ← second, ← first, List.drop_left,
    List.drop_left, List.append_assoc, List.drop_left]

theorem exchanges_bind_ok (ha : Steady a) (hf : ∀ x, Steady (f x)) {x : α}
    (h : a.perform w = (.ok x, v)) :
    (a >>= f).exchanges w = a.exchanges w ++ (f x).exchanges v :=
  exchanges_bind_of_grows ha.grows (fun x => (hf x).grows) h

theorem exchanges_bind_error {e : Failure} (h : a.perform w = (.error e, v)) :
    (a >>= f).exchanges w = a.exchanges w := by
  rw [exchanges, exchanges, perform_bind, h]

/-- What asks nothing can be left out behind. -/
theorem exchanges_bind_of_quiet (ha : Steady a) (hf : ∀ x, Asks (· = []) (f x)) (w : World σ) :
    (a >>= f).exchanges w = a.exchanges w := by
  rcases h : a.perform w with ⟨e | x, v⟩
  · exact exchanges_bind_error h
  · rw [exchanges_bind_ok ha (fun x => (hf x).steady) h, (hf x).holds v, List.append_nil]

/-- What adds nothing to the trace can be left out in front. -/
theorem exchanges_bind_of_trace {x : α} (h : a.perform w = (.ok x, v)) (ht : v.trace = w.trace) :
    (a >>= f).exchanges w = (f x).exchanges v := by
  rw [exchanges, exchanges, perform_bind, h, ht]

/-- A call fails with a fault of the driver, or it has a result. -/
theorem call_cases [Database σ] (c : Call) (w : World σ) :
    (∃ fault v, (call c).perform w = (.error (.fault fault), v) ∧
      (call c).exchanges w = [⟨c, .error fault⟩]) ∨
    (∃ result v, (call c).perform w = (.ok result, v) ∧
      (call c).exchanges w = [⟨c, .ok result⟩]) := by
  rw [exchanges_call]
  rcases h : Database.respond w.database c with ⟨fault | result, database⟩
  · exact .inl ⟨fault, { w with database, trace := w.trace ++ [⟨c, .error fault⟩] },
      by rw [call, perform_ofStep, World.respond, h]; rfl, rfl⟩
  · exact .inr ⟨result, { w with database, trace := w.trace ++ [⟨c, .ok result⟩] },
      by rw [call, perform_ofStep, World.respond, h]; rfl, rfl⟩

theorem exchanges_ensuring {cleanup : Action σ Unit} (ha : Steady a) (hc : Steady cleanup) :
    (ensuring a cleanup).exchanges w =
      a.exchanges w ++ cleanup.exchanges (a.perform w).2 := by
  rw [exchanges, perform_ensuring_snd, hc.trace_eq, ha.trace_eq, List.append_assoc, List.drop_left]

end Exchanges

end Action

end GraphMapper
