import GraphMapper.Proofs.Parallel

/-!
# Answers decide

What an action does depends on the world it is performed in: on the client, on the time, and on the
answers of the database. Two worlds with the **same client** (`GraphMapper.World.SameButAnswers`)
differ in the database, and in what has been recorded. No action looks at records, and the database
makes itself felt by its answers only. So an action is **guided** by answers
(`GraphMapper.Action.Guided`): in two worlds with the same client, if the answers are the same as
far as both go, it asks the same in both, and has the same outcome.

This is closed under everything that actions are built from, and reading nodes with what they are
related to is built from calls, notes and looks at the client (`GraphMapper.Client.guided_read`).
-/

namespace GraphMapper

variable {σ α β : Type}

/-- Two worlds that differ in nothing but the database and what has been recorded. -/
def World.SameButAnswers (w v : World σ) : Prop :=
  ∃ database trace log, v = { w with database, trace, log }

namespace Action

/-- The answers that an action gets. -/
def answers (a : Action σ α) (w : World σ) : List (Except Fault Result) :=
  (a.exchanges w).map Exchange.answer

/-- **An action that is guided by answers.** -/
structure Guided (a : Action σ α) : Prop where
  /-- It adds to the trace, and leaves the client as it is. -/
  steady : Steady a
  /-- In two worlds with the same client, and with the same answers as far as both go, it has the
  same outcome, makes the same exchanges, and leaves worlds with the same client. -/
  same : ∀ w v, w.SameButAnswers v → Comparable (a.answers w) (a.answers v) →
    (a.perform w).1 = (a.perform v).1 ∧ a.exchanges w = a.exchanges v ∧
      (a.perform w).2.SameButAnswers (a.perform v).2

/-! ### What actions are built from -/

variable {a : Action σ α} {f : α → Action σ β}

theorem guided_pure (x : α) : Guided (pure x : Action σ α) where
  steady := within_pure x
  same w v same _ := ⟨rfl, by rw [exchanges_pure, exchanges_pure], same⟩

theorem guided_ofOutcome (e : Except Failure α) : Guided (ofOutcome e : Action σ α) where
  steady := within_ofOutcome e
  same w v same _ := ⟨rfl, by rw [exchanges_of_trace rfl, exchanges_of_trace rfl], same⟩

theorem guided_note (level : LogLevel) (origin : LogOrigin) (message : String) :
    Guided (note level origin message : Action σ Unit) where
  steady := within_note _ _ _
  same := by
    rintro w _ ⟨database, trace, log, rfl⟩ -
    exact ⟨rfl, by rw [exchanges_of_trace rfl, exchanges_of_trace rfl], _, _, _, rfl⟩

theorem guided_call [Database σ] (c : Call) : Guided (call c : Action σ Result) where
  steady := Engine.steady_call c
  same := by
    rintro w _ ⟨database, trace, log, rfl⟩ answers
    rw [Action.answers, Action.answers, exchanges_call, exchanges_call, List.map_singleton,
      List.map_singleton, Comparable.cons_cons_iff] at answers
    have answer : (Database.respond w.database c).1 = (Database.respond database c).1 := answers.1
    refine ⟨congrArg (Except.mapError Failure.fault) answer, ?_, _, _, _, rfl⟩
    rw [exchanges_call, exchanges_call]
    exact congrArg (fun answer => [Exchange.mk c answer]) answer

/-- A look at the world is as good as what it sees of the client. -/
theorem guided_get_bind {f : World σ → Action σ β}
    (sees : ∀ w database trace log, f { w with database, trace, log } = f w)
    (hf : ∀ w, Guided (f w)) : Guided (get >>= f) where
  steady := within_get.bind fun w => (hf w).steady
  same := by
    rintro w _ ⟨database, trace, log, rfl⟩ answers
    have seen (w : World σ) : (get >>= f).perform w = (f w).perform w :=
      perform_bind_ok (perform_get w)
    have asked (w : World σ) : (get >>= f).exchanges w = (f w).exchanges w :=
      exchanges_bind_of_trace (perform_get w) rfl
    rw [Action.answers, Action.answers, asked, asked, sees w database trace log] at answers
    rw [seen, seen, asked, asked, sees w database trace log]
    exact (hf w).same w _ ⟨database, trace, log, rfl⟩ answers

/-- The answers to a first part come before all others. -/
theorem exists_answers_bind (ha : Steady a) (hf : ∀ x, Steady (f x)) (w : World σ) :
    ∃ more, (a >>= f).answers w = a.answers w ++ more := by
  rcases h : a.perform w with ⟨e | x, v⟩
  · exact ⟨[], by rw [answers, exchanges_bind_error h, List.append_nil, answers]⟩
  · exact ⟨(f x).answers v, by rw [answers, exchanges_bind_ok ha hf h, List.map_append]; rfl⟩

theorem Guided.bind (ha : Guided a) (hf : ∀ x, Guided (f x)) : Guided (a >>= f) where
  steady := ha.steady.bind fun x => (hf x).steady
  same := by
    intro w v same comparable
    have steady := fun x => (hf x).steady
    obtain ⟨more, hw⟩ := exists_answers_bind ha.steady steady w
    obtain ⟨more', hv⟩ := exists_answers_bind ha.steady steady v
    have first : Comparable (a.answers w) (a.answers v) := by
      rw [hw, hv] at comparable
      exact comparable.of_append
    obtain ⟨outcome, asked, left⟩ := ha.same w v same first
    rcases done : a.perform w with ⟨e | x, u⟩ <;> rcases done' : a.perform v with ⟨e' | x', u'⟩ <;>
      rw [done, done'] at outcome left <;> cases outcome
    · rw [perform_bind_error done, perform_bind_error done', exchanges_bind_error done,
        exchanges_bind_error done']
      exact ⟨rfl, asked, left⟩
    · rw [answers, answers, exchanges_bind_ok ha.steady steady done,
        exchanges_bind_ok ha.steady steady done', asked, List.map_append, List.map_append,
        Comparable.append_left_iff] at comparable
      obtain ⟨outcome, rest, left⟩ := (hf x).same u u' left comparable
      rw [perform_bind_ok done, perform_bind_ok done', exchanges_bind_ok ha.steady steady done,
        exchanges_bind_ok ha.steady steady done', asked, rest]
      exact ⟨outcome, rfl, left⟩

theorem Guided.ensuring {cleanup : Action σ Unit} (ha : Guided a) (hc : Guided cleanup) :
    Guided (ensuring a cleanup) where
  steady := ha.steady.ensuring hc.steady
  same := by
    intro w v same comparable
    have asks (w : World σ) := exchanges_ensuring (w := w) ha.steady hc.steady
    rw [answers, answers, asks, asks, List.map_append, List.map_append] at comparable
    obtain ⟨outcome, asked, left⟩ := ha.same w v same comparable.of_append
    rw [asked, Comparable.append_left_iff] at comparable
    obtain ⟨cleaned, rest, left⟩ := hc.same _ _ left comparable
    rw [asks, asks, asked, rest, perform_ensuring, perform_ensuring, outcome]
    rcases done : cleanup.perform (a.perform w).2 with ⟨e | x, u⟩ <;>
      rcases done' : cleanup.perform (a.perform v).2 with ⟨e' | x', u'⟩ <;>
      rw [done, done'] at cleaned left <;> cases cleaned <;> exact ⟨rfl, rfl, left⟩

end Action

open GraphMapper.Action

variable [Database σ]

/-! ### Executing a statement -/

namespace Engine

omit [Database σ] in
theorem guided_current : Guided (current : Action σ Engine) :=
  guided_get_bind (fun _ _ _ _ => rfl) fun _ => guided_pure _

omit [Database σ] in
theorem guided_nextSession : Guided (nextSession : Action σ Nat) where
  steady := steady_nextSession
  same := by
    rintro w _ ⟨database, trace, log, rfl⟩ -
    exact ⟨rfl, by rw [exchanges_of_trace rfl, exchanges_of_trace rfl], _, _, _, rfl⟩

omit [Database σ] in
theorem guided_driver : Guided (driver : Action σ Nat) := by
  refine guided_current.bind fun engine => ?_
  split
  · exact guided_pure _
  · exact guided_ofOutcome _

theorem guided_openSession (database : Value) : Guided (openSession database : Action σ Nat) :=
  guided_driver.bind fun _ => guided_nextSession.bind fun _ => guided_current.bind fun _ =>
    (guided_call _).bind fun _ => guided_pure _

theorem guided_closeSession (session : Nat) : Guided (closeSession session : Action σ Unit) :=
  (guided_call _).bind fun _ => guided_pure ()

theorem guided_runOn (runner : Runner) (statement : String) (parameters : Value) :
    Guided (runOn runner statement parameters : Action σ Result) :=
  (guided_ofOutcome _).bind fun _ => (guided_note _ _ _).bind fun _ =>
    (guided_call _).bind fun _ => (guided_call _).bind fun _ => guided_pure _

end Engine

theorem Client.guided_execute (statement : String) (parameters : Value) :
    Guided (execute statement parameters : Action σ Result) := by
  refine (guided_get_bind (fun _ _ _ _ => rfl) fun _ => guided_pure _).bind fun handle? => ?_
  cases handle? with
  | none =>
    exact (Engine.guided_openSession _).bind fun session =>
      (Engine.guided_runOn _ _ _).ensuring (Engine.guided_closeSession session)
  | some handle =>
    refine (guided_get_bind (fun _ _ _ _ => rfl) fun _ => guided_pure _).bind fun t => ?_
    split
    · exact Engine.guided_runOn _ _ _
    · exact guided_ofOutcome _

/-! ### Reading nodes with what they are related to -/

variable {c : Catalog}

namespace Related

omit [Database σ] in
theorem guided_noteFound (name : String) (uuid : Value) (found : Entries) :
    Guided (noteFound name uuid found : Action σ Unit) := by
  unfold noteFound
  split
  · exact guided_pure _
  · exact guided_note _ _ _

theorem guided_fetchFields (d : Descriptor) (uuid : Value) (fields : List FieldDescriptor)
    (found : Entries) : Guided (fetchFields c (Client.execute (σ := σ)) d uuid fields found) := by
  induction fields generalizing found with
  | nil => exact guided_pure _
  | cons f rest ih =>
    exact (guided_ofOutcome _).bind fun _ => (Client.guided_execute _ _).bind fun _ =>
      (guided_ofOutcome _).bind fun _ => ih _

theorem guided_fetch (type uuid : Value) : Guided (fetch c (Client.execute (σ := σ)) type uuid) :=
  (guided_ofOutcome _).bind fun _ => (guided_ofOutcome _).bind fun _ =>
    (guided_fetchFields _ _ _ _).bind fun _ => (guided_noteFound _ _ _).bind fun _ => guided_pure _

theorem guided_withRelated (type properties : Value) :
    Guided (withRelated c (Client.execute (σ := σ)) type properties) := by
  refine (guided_ofOutcome _).bind fun merged => ?_
  dsimp only
  split
  · exact guided_pure _
  · refine (guided_ofOutcome _).bind fun d => ?_
    split
    · exact guided_pure _
    · exact (guided_fetch _ _).bind fun _ => guided_pure _

end Related

namespace Client

theorem guided_entityWithRelated (t : EntityRef) (properties : Value) :
    Guided (entityWithRelated c t properties : Action σ Value) :=
  (Related.guided_withRelated _ _).bind fun _ =>
    guided_get_bind (fun _ _ _ _ => rfl) fun _ => guided_ofOutcome _

theorem guided_readNodesWithRelated (t : EntityRef) (records : List Record) :
    Guided (readNodesWithRelated c t records : Action σ (List Value)) := by
  induction records with
  | nil => exact guided_pure _
  | cons record rest ih =>
    refine Guided.bind ?_ fun properties => (guided_entityWithRelated _ _).bind fun _ =>
      ih.bind fun _ => guided_pure _
    refine (guided_ofOutcome _).bind fun properties? => ?_
    cases properties? with
    | none => exact guided_pure _
    | some properties => exact guided_pure _

/-- **Reading nodes with what they are related to** is guided by the answers to the lookups. -/
theorem guided_read {t : EntityRef} {r : Request}
    (reads : r.reading = .nodeWithRelated t ∨ r.reading = .nodesWithRelated t) (result : Result) :
    Guided (read c r result : Action σ Value) := by
  unfold read
  rcases reads with reads | reads <;> rw [reads]
  · refine (guided_ofOutcome _).bind fun properties? => ?_
    cases properties? with
    | none => exact guided_pure _
    | some properties => exact guided_entityWithRelated _ _
  · exact (guided_readNodesWithRelated _ _).bind fun _ => guided_pure _

end Client

end GraphMapper
