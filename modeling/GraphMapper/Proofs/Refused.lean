import GraphMapper.Proofs.Sending

/-!
# Refused operations leave no trace

What is wrong with the arguments of an operation, or with the type it is about, is found out at
different points: some checks look at the arguments alone, others at the described type, others
at the properties that names stand for. None of them may come after something was sent.

The argument goes through what an action can **raise** (`GraphMapper.Action.Raises`): a property
of failures that holds of whatever an action fails with. Running a statement raises faults of the
driver and complaints about the state of the client; reading its result raises complaints about
what the database answered. So a refusal is none of these, and what is refused was refused while
the request was being made – when the world is still as it was
(`GraphMapper.Client.unchanged_of_refused`).

Reading nodes with what they are related to is a case of its own: a related type is described
only once a node is there to look from, so its problems may show later. This is the one way for
a problem of a type to show after something was sent
(`GraphMapper.Client.raises_read_of_not_looksUp`).
-/

namespace GraphMapper

/-- Whether a failure refuses what the caller gave: an argument, or a name that is to stand in
a statement. -/
def Failure.isRefusal : Failure → Bool
  | argument _ _ | invalidIdentifier _ _ => true
  | _ => false

/-- Whether a failure is about a type that cannot be described. -/
def Failure.isConfiguration : Failure → Bool
  | configuration _ _ => true
  | _ => false

/-- Whether an operation reads nodes together with what they are related to. -/
def Operation.isRead : Operation → Bool
  | getByProperty _ _ _ | getByProperties _ _ | getAll _ | getByUuid _ _ => true
  | _ => false

variable {P : Failure → Prop} {α β : Type}

/-! ### What outcomes and actions raise -/

/-- Whatever an outcome fails with has a property. -/
def Outcome.Raises (P : Failure → Prop) (x : Except Failure α) : Prop := ∀ e, x = .error e → P e

namespace Outcome

theorem raises_ok (a : α) : Raises P (.ok a) := by
  rintro e ⟨⟩

theorem raises_error {e : Failure} (h : P e) : Raises P (.error e : Except Failure α) := by
  rintro _ ⟨⟩
  exact h

theorem Raises.bind {x : Except Failure α} {f : α → Except Failure β} (hx : Raises P x)
    (hf : ∀ a, Raises P (f a)) : Raises P (x >>= f) := by
  intro e h
  rcases x with e' | a
  · obtain rfl := Except.error.inj h
    exact hx _ rfl
  · exact hf a e h

theorem raises_mapM {f : α → Except Failure β} (hf : ∀ a, Raises P (f a)) (as : List α) :
    Raises P (as.mapM f) := by
  induction as with
  | nil => exact raises_ok _
  | cons a rest ih =>
    rw [List.mapM_cons]
    exact (hf a).bind fun _ => ih.bind fun _ => raises_ok _

end Outcome

namespace Action

variable {σ : Type} {a : Action σ α} {f : α → Action σ β}

/-- Whatever an action fails with has a property, wherever it is performed. -/
def Raises (P : Failure → Prop) (a : Action σ α) : Prop := ∀ w, Outcome.Raises P (a.perform w).1

theorem raises_pure (x : α) : Raises P (pure x : Action σ α) := fun _ => Outcome.raises_ok x

theorem raises_ofOutcome {x : Except Failure α} (h : Outcome.Raises P x) :
    Raises P (ofOutcome x : Action σ α) := fun _ => h

theorem raises_get : Raises P (get : Action σ (World σ)) := fun w => Outcome.raises_ok w

theorem raises_note (level : LogLevel) (origin : LogOrigin) (message : String) :
    Raises P (note level origin message : Action σ Unit) := fun _ => Outcome.raises_ok ()

/-- Of two actions in a row, what the first raises and what the second does. -/
theorem Raises.bind (ha : Raises P a) (hf : ∀ x, Raises P (f x)) : Raises P (a >>= f) := by
  intro w e h
  rw [perform_bind] at h
  rcases hp : a.perform w with ⟨e' | x, v⟩ <;> rw [hp] at h
  · obtain rfl := Except.error.inj h
    exact ha w _ (by rw [hp])
  · exact hf x v e h

/-- Cleaning up raises what it raises by itself, besides what the body does. -/
theorem Raises.ensuring {cleanup : Action σ Unit} (ha : Raises P a) (hc : Raises P cleanup) :
    Raises P (ensuring a cleanup) := by
  intro w e h
  rw [perform_ensuring] at h
  rcases hp : cleanup.perform (a.perform w).2 with ⟨e' | x, v⟩ <;> rw [hp] at h
  · obtain rfl := Except.error.inj h
    exact hc (a.perform w).2 _ (by rw [hp])
  · exact ha w e h

end Action

open GraphMapper.Action

variable {σ : Type} [Database σ] {c : Catalog}

/-! ### Running a statement -/

section Late

/-! Throughout, `P` holds of every failure that neither refuses an argument nor is about a type. -/

variable (hP : ∀ e : Failure, e.isRefusal = false → e.isConfiguration = false → P e)

include hP

theorem raises_call (request : Call) : Raises P (call request : Action σ Result) := by
  intro w e h
  rcases call_cases request w with ⟨fault, v, hp, -⟩ | ⟨result, v, hp, -⟩ <;> rw [hp] at h
  · obtain rfl := Except.error.inj h
    exact hP _ rfl rfl
  · cases h

namespace Engine

theorem raises_closeSession (session : Nat) : Raises P (closeSession session : Action σ Unit) :=
  (raises_call hP _).bind fun _ => raises_pure _

theorem raises_openSession (database : Value) :
    Raises P (openSession database : Action σ Nat) := by
  refine Raises.bind ?_ fun _ => Raises.bind (fun _ => Outcome.raises_ok _) fun _ =>
    Raises.bind (raises_get.bind fun _ => raises_pure _) fun _ =>
      (raises_call hP _).bind fun _ => raises_pure _
  refine Raises.bind (raises_get.bind fun _ => raises_pure _) fun engine => ?_
  split
  · exact raises_pure _
  · exact raises_ofOutcome (Outcome.raises_error (hP _ rfl rfl))

theorem raises_runOn (runner : Runner) (statement : String) (parameters : Value) :
    Raises P (runOn runner statement parameters : Action σ Result) := by
  refine Raises.bind (raises_ofOutcome ?_) fun _ => (raises_note _ _ _).bind fun _ =>
    (raises_call hP _).bind fun _ => (raises_call hP _).bind fun _ => raises_pure _
  unfold parameterNames
  split
  · exact Outcome.raises_ok _
  · exact Outcome.raises_error (hP _ rfl rfl)

theorem raises_execute (database : Value) (statement : String) (parameters : Value) :
    Raises P (execute database statement parameters : Action σ Result) :=
  (raises_openSession hP _).bind fun session =>
    (raises_runOn hP _ _ _).ensuring (raises_closeSession hP session)

end Engine

namespace Client

/-- **Running a statement** complains of neither arguments nor types. -/
theorem raises_execute (statement : String) (parameters : Value) :
    Raises P (execute statement parameters : Action σ Result) := by
  refine Raises.bind (raises_get.bind fun _ => raises_pure _) fun handle? => ?_
  rcases handle? with _ | handle
  · exact Engine.raises_execute hP _ _ _
  · refine Raises.bind (raises_get.bind fun _ => raises_pure _) fun t => ?_
    split
    · exact Engine.raises_runOn hP _ _ _
    · exact raises_ofOutcome (Outcome.raises_error (hP _ rfl rfl))

end Client

/-! ### Reading the result -/

theorem raises_nodeProperties (v : Value) : Outcome.Raises P v.nodeProperties := by
  unfold Value.nodeProperties
  split
  · exact Outcome.raises_ok _
  · split
    · exact Outcome.raises_ok _
    · exact Outcome.raises_error (hP _ rfl rfl)

theorem Related.raises_nodeOf (record : Record) : Outcome.Raises P (Related.nodeOf record) := by
  refine (raises_nodeProperties hP _).bind fun properties => ?_
  rcases properties with _ | entries <;> exact Outcome.raises_ok _

theorem raises_pairsFrom (index : Nat) (elements : List Value) :
    Outcome.Raises P (Value.pairsFrom index elements) := by
  induction elements generalizing index with
  | nil => exact Outcome.raises_ok _
  | cons element rest ih =>
    refine Outcome.Raises.bind ?_ fun _ => (ih _).bind fun _ => Outcome.raises_ok _
    unfold Value.pairAt
    split
    · exact Outcome.raises_error (hP _ rfl rfl)
    · split
      · exact Outcome.raises_ok _
      · exact Outcome.raises_error (hP _ rfl rfl)
    · exact Outcome.raises_error (hP _ rfl rfl)

theorem raises_toEntries (v : Value) : Outcome.Raises P v.toEntries := by
  unfold Value.toEntries
  split
  · exact Outcome.raises_ok _
  · split
    · intro e h
      rcases hp : Value.pairsFrom 0 _ with e' | pairs <;> rw [hp] at h
      · obtain rfl := Except.error.inj h
        exact raises_pairsFrom hP _ _ _ hp
      · cases h
    · exact Outcome.raises_error (hP _ rfl rfl)

/-- An instance that cannot be made is an issue of its input. -/
theorem raises_construct (now : Float) (type : EntityRef) (entries : Entries) :
    Outcome.Raises P (c.construct now type entries) := by
  unfold Catalog.construct
  split
  · exact Outcome.raises_error (hP _ rfl rfl)
  · split
    · intro e h
      rcases hx : (c.acceptAt now (c.nesting (c.resolve type)) type (.map entries)) with r | a
      · rw [hx] at h
        obtain rfl := Except.error.inj h
        rcases r with issues | _ <;> exact hP _ rfl rfl
      · rw [hx] at h
        cases h
    · exact Outcome.raises_error (hP _ rfl rfl)

namespace Client

omit [Database σ] in
theorem raises_entityOf (type : EntityRef) (properties : Option Entries) :
    Raises P (entityOf c type properties : Action σ Value) := by
  refine raises_get.bind fun w => raises_ofOutcome ?_
  rcases properties with _ | entries
  · exact Outcome.raises_ok _
  · exact raises_construct hP _ _ _

omit [Database σ] in
theorem raises_readNode (type : EntityRef) (result : Result) :
    Raises P (readNode c type result : Action σ Value) :=
  (raises_ofOutcome (raises_nodeProperties hP _)).bind fun _ => raises_entityOf hP _ _

omit [Database σ] in
theorem raises_readNodes (type : EntityRef) (records : List Record) :
    Raises P (readNodes c type records : Action σ (List Value)) := by
  induction records with
  | nil => exact raises_pure _
  | cons record rest ih =>
    refine (raises_ofOutcome (raises_nodeProperties hP _)).bind fun properties => ?_
    rcases properties with _ | entries
    · exact ih
    · exact (raises_entityOf hP _ _).bind fun _ => ih.bind fun _ => raises_pure _

/-- **A reading that looks nothing up** complains of neither arguments nor types. -/
theorem raises_read_of_not_looksUp {r : Request} (h : r.reading.looksUp = false)
    (result : Result) : Raises P (read c r result : Action σ Value) := by
  unfold read
  rcases hr : r.reading with _ | _ | _ | _ | _ | _ | _ | _ | _ | _ | _ | _ | _
  case createdNode =>
    dsimp only
    split
    · exact raises_ofOutcome (Outcome.raises_error (hP _ rfl rfl))
    · exact (raises_note _ _ _).bind fun _ => raises_readNode hP _ _
  case node => exact raises_readNode hP _ _
  case nodeWithRelated => rw [hr] at h; cases h
  case nodesWithRelated => rw [hr] at h; cases h
  case nodes => exact (raises_readNodes hP _ _).bind fun _ => raises_pure _
  case addedLabel =>
    dsimp only
    split
    · exact raises_ofOutcome (Outcome.raises_error (hP _ rfl rfl))
    · exact raises_pure _
  all_goals exact raises_pure _

end Client

/-! ### Looking up related nodes

A lookup describes the type that a field leads to, so from here on failures about types are let
through as well. -/

end Late

section Lookups

variable (hP : ∀ e : Failure, e.isRefusal = false → P e)

include hP

/-- A type that is not described has a problem of its own. -/
theorem raises_describeRef (r : EntityRef) : Outcome.Raises P (c.describeRef r) := by
  intro e h
  unfold Catalog.describeRef at h
  split at h
  · obtain rfl := Except.error.inj h
    exact hP _ rfl
  · split at h
    · obtain rfl := Except.error.inj h
      exact hP _ rfl
    · split at h
      · rcases hd : c.describeType _ with problem | d <;> rw [hd] at h
        · obtain rfl := Except.error.inj h
          exact hP _ rfl
        · cases h
      · obtain rfl := Except.error.inj h
        exact hP _ rfl

theorem raises_entityRef (type : Value) : Outcome.Raises P type.entityRef := by
  unfold Value.entityRef
  split
  · exact Outcome.raises_ok _
  · exact Outcome.raises_error (hP _ rfl)
  · exact Outcome.raises_error (hP _ rfl)

namespace Related

/-- A statement that does not come about has a related type to blame. -/
theorem raises_statement (d : Descriptor) (f : FieldDescriptor) :
    Outcome.Raises P (statement c d f) := by
  unfold statement
  split
  · refine Outcome.Raises.bind (raises_describeRef hP _) fun r => ?_
    rw [Wording.statementFor_eq]
    exact Outcome.raises_ok _
  · exact Outcome.raises_error (hP _ rfl)

theorem raises_fetchFields (d : Descriptor) (uuid : Value) (fields : List FieldDescriptor)
    (found : Entries) :
    Raises P (fetchFields c (Client.execute (σ := σ)) d uuid fields found) := by
  induction fields generalizing found with
  | nil => exact raises_pure _
  | cons f rest ih =>
    exact (raises_ofOutcome (raises_statement hP d f)).bind fun _ =>
      (Client.raises_execute (fun e he _ => hP e he) _ _).bind fun _ =>
        (raises_ofOutcome (Outcome.raises_mapM (raises_nodeOf fun e he _ => hP e he) _)).bind
          fun _ => ih _

theorem raises_fetch (type uuid : Value) :
    Raises P (fetch c (Client.execute (σ := σ)) type uuid) := by
  refine (raises_ofOutcome (raises_entityRef hP _)).bind fun r =>
    (raises_ofOutcome (raises_describeRef hP _)).bind fun d =>
      (raises_fetchFields hP _ _ _ _).bind fun found => Raises.bind ?_ fun _ => raises_pure _
  unfold noteFound
  split
  · exact raises_pure _
  · exact raises_note _ _ _

theorem raises_withRelated (type properties : Value) :
    Raises P (withRelated c (Client.execute (σ := σ)) type properties) := by
  refine (raises_ofOutcome (raises_toEntries (fun e he _ => hP e he) _)).bind fun merged => ?_
  dsimp only
  split
  · exact raises_pure _
  · refine (raises_ofOutcome ((raises_entityRef hP _).bind (raises_describeRef hP))).bind
      fun d => ?_
    split
    · exact raises_pure _
    · exact (raises_fetch hP _ _).bind fun _ => raises_pure _

end Related

namespace Client

theorem raises_entityWithRelated (type : EntityRef) (properties : Value) :
    Raises P (entityWithRelated c type properties : Action σ Value) :=
  (Related.raises_withRelated hP _ _).bind fun _ => raises_entityOf (fun e he _ => hP e he) _ _

theorem raises_readNodesWithRelated (type : EntityRef) (records : List Record) :
    Raises P (readNodesWithRelated c type records : Action σ (List Value)) := by
  induction records with
  | nil => exact raises_pure _
  | cons record rest ih =>
    refine Raises.bind ?_ fun _ => (raises_entityWithRelated hP _ _).bind fun _ =>
      ih.bind fun _ => raises_pure _
    refine (raises_ofOutcome (raises_nodeProperties (fun e he _ => hP e he) _)).bind
      fun properties => ?_
    rcases properties with _ | entries <;> exact raises_pure _

/-- **A reading** complains of no argument. -/
theorem raises_read (r : Request) (result : Result) :
    Raises P (read c r result : Action σ Value) := by
  rcases hl : r.reading.looksUp with _ | _
  · exact raises_read_of_not_looksUp (fun e he _ => hP e he) hl result
  · unfold read
    rcases hr : r.reading with _ | _ | _ | _ | _ | _ | _ | _ | _ | _ | _ | _ | _
    case nodeWithRelated =>
      refine (raises_ofOutcome (raises_nodeProperties (fun e he _ => hP e he) _)).bind
        fun properties => ?_
      rcases properties with _ | entries
      · exact raises_pure _
      · exact raises_entityWithRelated hP _ _
    case nodesWithRelated =>
      exact (raises_readNodesWithRelated hP _ _).bind fun _ => raises_pure _
    all_goals
      rw [hr] at hl
      cases hl

end Client

end Lookups

/-! ### What is refused was refused before anything was sent -/

/-- Only reading looks up what nodes are related to. -/
theorem Operation.not_looksUp_of_not_isRead {operation : Operation}
    (ho : operation.isRead = false) {now : Float} {identifier : String} {r : Request}
    (h : operation.request c now identifier = .ok r) : r.reading.looksUp = false := by
  cases operation with
  | add entity =>
    obtain ⟨_, _, _, _, rfl⟩ := Request.add_eq_ok h
    rfl
  | update entity uuid fetch =>
    obtain ⟨_, _, _, _, _, _, rfl⟩ := Request.update_eq_ok h
    cases fetch <;> rfl
  | partialUpdate entity uuid fetch =>
    obtain ⟨_, _, _, _, _, _, rfl⟩ := Request.update_eq_ok h
    cases fetch <;> rfl
  | merge onCreate onUpdate properties =>
    obtain ⟨_, _, _, _, _, _, _, _, _, _, _, _, _, _, rfl⟩ := Request.merge_eq_ok h
    rfl
  | delete type uuid =>
    obtain ⟨_, _, _, _, _, _, rfl⟩ := Request.delete_eq_ok h
    rfl
  | drop type uuid =>
    obtain ⟨_, _, _, _, rfl⟩ := Request.drop_eq_ok h
    rfl
  | dropByProperties type properties =>
    obtain ⟨_, _, _, _, _, _, _, _, rfl⟩ := Request.dropByProperties_eq_ok h
    rfl
  | createRelationship fromUuid toUuid edge? properties =>
    obtain ⟨_, _, _, _, _, _, _, _, _, rfl⟩ := Request.createRelationship_eq_ok h
    rfl
  | mergeRelationship fromUuid toUuid edge? =>
    obtain ⟨_, _, _, _, _, _, rfl⟩ := Request.mergeRelationship_eq_ok h
    rfl
  | dropRelationship incomingUuid outgoingUuid edge? =>
    obtain ⟨_, _, _, _, _, _, rfl⟩ := Request.dropRelationship_eq_ok h
    rfl
  | addLabel uuid label =>
    obtain ⟨_, _, _, _, rfl⟩ := Request.addLabel_eq_ok h
    rfl
  | runQuery query parameters =>
    obtain ⟨_, _, h⟩ := Outcome.bind_eq_ok.mp h
    obtain rfl := Outcome.pure_eq_ok.mp h
    rfl
  | runQueryAs type query parameters =>
    obtain ⟨_, _, h⟩ := Outcome.bind_eq_ok.mp h
    obtain ⟨_, _, h⟩ := Outcome.bind_eq_ok.mp h
    obtain rfl := Outcome.pure_eq_ok.mp h
    rfl
  | _ => cases ho

namespace Client

/-- **What an operation raises once its request has been made** refuses no argument, and is about
a type only if the operation reads. -/
theorem raises_send {operation : Operation} {now : Float} {identifier : String} {r : Request}
    (h : operation.request c now identifier = .ok r) :
    Raises (fun e => e.isRefusal = false ∧ (operation.isRead = false → e.isConfiguration = false))
      (send c r : Action σ Value) := by
  refine (raises_execute (fun e he ht => ⟨he, fun _ => ht⟩) _ _).bind fun result => ?_
  rcases ho : operation.isRead with _ | _
  · exact raises_read_of_not_looksUp (fun e he ht => ⟨he, fun _ => ht⟩)
      (Operation.not_looksUp_of_not_isRead ho h) result
  · exact raises_read (fun e he => ⟨he, nofun⟩) r result

/-- **Refused operations leave no trace.** If an operation fails because of an argument or of a
name that cannot stand in a statement, or if an operation other than reading fails because of a
type, then nothing was asked of the driver, and the whole world – the identifiers to come, the
engine, the transactions, the notes – is as it was. -/
theorem unchanged_of_refused (c : Catalog) {operation : Operation} {w v : World σ} {e : Failure}
    (h : (perform c operation).perform w = (.error e, v))
    (he : e.isRefusal = true ∨ operation.isRead = false ∧ e.isConfiguration = true) :
    (perform c operation).exchanges w = [] ∧ v = w := by
  rcases hr : operation.request c w.now w.nextIdentifier with e' | r
  · have stopped := perform_of_request_error hr
    obtain ⟨-, rfl⟩ := Prod.mk.inj (stopped.symm.trans h)
    exact ⟨exchanges_of_trace (by rw [stopped]), rfl⟩
  · -- A request was made, and what is raised from then on is no refusal.
    exfalso
    obtain ⟨u, hu, -, -⟩ := exists_perform_prepare hr
    have sent : (perform c operation).perform w = (send c r).perform u := perform_bind_ok hu
    obtain ⟨asked, typed⟩ := raises_send hr u e (by rw [← sent, h])
    rcases he with he | ⟨ho, he⟩
    · exact absurd (asked.symm.trans he) (by decide)
    · exact absurd ((typed ho).symm.trans he) (by decide)

/-- Merging users by a property that is no identifier is refused. -/
theorem unchanged_of_refused_users :
    ∃ e v, (perform Example.users (.merge (Example.userWith "a@x") (Example.userWith "b@x")
        (.map [(.text "e mail", .text "a@x")]))).perform (Example.connected []) = (.error e, v) ∧
      e.isRefusal = true ∧
      (perform Example.users (.merge (Example.userWith "a@x") (Example.userWith "b@x")
        (.map [(.text "e mail", .text "a@x")]))).exchanges (Example.connected []) = [] ∧
      v = Example.connected [] := by
  have refused : ∃ e v, (perform Example.users (.merge (Example.userWith "a@x")
      (Example.userWith "b@x") (.map [(.text "e mail", .text "a@x")]))).perform
        (Example.connected []) = (.error e, v) ∧ e.isRefusal = true := ⟨_, _, rfl, rfl⟩
  obtain ⟨e, v, h, he⟩ := refused
  exact ⟨e, v, h, he, unchanged_of_refused _ h (.inl he)⟩

end Client

end GraphMapper
