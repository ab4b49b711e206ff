import GraphMapper.Proofs.Refused

/-!
# Types that cannot be described, and when it shows

A type is described when it is first used. The type that an operation is about is described before
anything is sent, so its problems show at once. The types that its relationship fields lead to are
described when nodes are looked up through them, which takes a node with an identifier to look
from: so their problems can show later, and whether they do depends on what the database answers.

This file says how far that goes, for the operations that read nodes with what they are related to.
Take two reads of the same type, of which the first has succeeded, and with any answers in between.
If the second reports a problem of a type, then it is the problem of the first related type that has
one, and a node with an identifier was received; and the first read, which went well, cannot have
looked anything up (`GraphMapper.Client.late_of_configuration`).

The second half of the argument is `GraphMapper.Action.Raises`, with a property of failures that
only says something of problems of types; the first half is that a read that succeeds although a
related type has a problem asks for nothing but its own statement (`GraphMapper.Action.Unasking`).
-/

namespace GraphMapper

/-- The type that an operation reads nodes of, together with what they are related to. -/
def Operation.readType? : Operation → Option Value
  | getByProperty type _ _ | getByProperties type _ | getAll type | getByUuid type _ => some type
  | _ => none

/-- The type that an operation reads a list of nodes of. -/
def Operation.listType? : Operation → Option Value
  | getByProperty type _ _ | getByProperties type _ | getAll type => some type
  | _ => none

/-- An operation that reads nodes reads a list of them, or one by its identifier. -/
theorem Operation.readType?_cases {operation : Operation} {type : Value}
    (reads : operation.readType? = some type) :
    operation.listType? = some type ∨ ∃ uuid, operation = .getByUuid type uuid := by
  cases operation with
  | getByUuid type uuid =>
    obtain rfl := Option.some.inj reads
    exact .inr ⟨uuid, rfl⟩
  | getByProperty | getByProperties | getAll => exact .inl reads
  | _ => cases reads

/-- An operation that reads a list of nodes reads nodes. -/
theorem Operation.readType?_of_listType? {operation : Operation} {type : Value}
    (lists : operation.listType? = some type) : operation.readType? = some type := by
  cases operation with
  | getByProperty | getByProperties | getAll => exact lists
  | _ => cases lists

/-- Entries of a node that has an identifier, so that nodes can be looked up from it. -/
def Identified (properties : Entries) : Prop :=
  ∃ uuid, properties.lookup (.text identifierKey) = some uuid ∧ uuid.isNull = false

/-- A row with a node that has an identifier. -/
def Record.Identified (record : Record) : Prop :=
  ∃ properties, record.first.nodeProperties = .ok (some properties) ∧
    GraphMapper.Identified properties

open GraphMapper.Action

variable {σ : Type} [Database σ] {c : Catalog}

/-! ### Problems that a reading reports -/

/-- What is no problem of a type has whatever property those have. -/
theorem of_not_configuration {Q : Prop} {e : Failure} (h : e.isConfiguration = false)
    (h' : e.isConfiguration = true) : Q :=
  absurd (h.symm.trans h') (by decide)

omit [Database σ] in
/-- What is known to succeed raises nothing. -/
theorem Action.raises_ok_bind {P : Failure → Prop} {α β : Type} {x : Except Failure α} {a : α}
    {f : α → Action σ β} (hx : x = .ok a) (hf : Raises P (f a)) : Raises P (ofOutcome x >>= f) := by
  subst hx
  exact fun w => hf w

namespace Related

/-- The problem that looking up fields runs into is that of the first of them that has one. -/
theorem raises_fetchFields_problem (d : Descriptor) (uuid : Value) (fields : List FieldDescriptor)
    (found : Entries) :
    Raises (fun e => e.isConfiguration = true → fields.mapM (statement c d) = .error e)
      (fetchFields c (Client.execute (σ := σ)) d uuid fields found) := by
  induction fields generalizing found with
  | nil => exact raises_pure _
  | cons f rest ih =>
    unfold fetchFields
    rw [List.mapM_cons]
    rcases statement c d f with problem | text
    · intro w e h _
      obtain rfl := Except.error.inj h
      rfl
    · refine raises_ok_bind rfl ((Client.raises_execute (fun _ _ => of_not_configuration) _ _).bind
        fun result => Raises.bind ?_ fun nodes w e h problem => ?_)
      · exact raises_ofOutcome
          (Outcome.raises_mapM (raises_nodeOf fun _ _ => of_not_configuration) _)
      · rw [ih (collect f nodes found) w e h problem]
        rfl

theorem statements_eq {t : EntityRef} {d : Descriptor} (described : c.describeRef t = .ok d) :
    statements c (.type (.entity t)) = d.relationshipFields.mapM (statement c d) := by
  show (c.describeRef t >>= _) = _
  rw [described]
  rfl

/-- Looking up what a node is related to runs into the first problem of a related type, and only if
the node has an identifier. -/
theorem raises_withRelated_problem {t : EntityRef} {d : Descriptor}
    (described : c.describeRef t = .ok d) (properties : Entries) :
    Raises (fun e => e.isConfiguration = true →
        statements c (.type (.entity t)) = .error e ∧ Identified properties)
      (withRelated c (Client.execute (σ := σ)) (.type (.entity t)) (.map properties)) := by
  refine raises_ok_bind (a := properties) rfl ?_
  dsimp only
  cases found : properties.lookup (.text identifierKey) with
  | none => exact raises_pure _
  | some uuid =>
    rw [Option.getD_some]
    split
    · exact raises_pure _
    · next present =>
      have identified : Identified properties := ⟨uuid, found, by simpa using present⟩
      refine raises_ok_bind (a := d) described ?_
      split
      · exact raises_pure _
      · refine Raises.bind ?_ fun _ => raises_pure _
        refine raises_ok_bind (a := t) rfl
          (raises_ok_bind described (Raises.bind ?_ fun found => ?_))
        · intro w e h problem
          rw [statements_eq described]
          exact ⟨raises_fetchFields_problem d uuid _ [] w e h problem, identified⟩
        · refine Raises.bind ?_ fun _ => raises_pure _
          unfold noteFound
          split
          · exact raises_pure _
          · exact raises_note _ _ _

end Related

namespace Client

theorem raises_entityWithRelated_problem {t : EntityRef} {d : Descriptor}
    (described : c.describeRef t = .ok d) (properties : Entries) :
    Raises (fun e => e.isConfiguration = true →
        Related.statements c (.type (.entity t)) = .error e ∧ Identified properties)
      (entityWithRelated c t (.map properties) : Action σ Value) :=
  (Related.raises_withRelated_problem described properties).bind fun _ =>
    raises_entityOf (fun _ _ => of_not_configuration) _ _

/-- Reading nodes runs into the first problem of a related type, and only if one of the nodes has
an identifier. -/
theorem raises_readNodesWithRelated_problem {t : EntityRef} {d : Descriptor}
    (described : c.describeRef t = .ok d) (records : List Record) :
    Raises (fun e => e.isConfiguration = true →
        Related.statements c (.type (.entity t)) = .error e ∧ ∃ record ∈ records, record.Identified)
      (readNodesWithRelated c t records : Action σ (List Value)) := by
  induction records with
  | nil => exact raises_pure _
  | cons record rest ih =>
    have later : Raises (fun e => e.isConfiguration = true →
        Related.statements c (.type (.entity t)) = .error e ∧
          ∃ other ∈ record :: rest, other.Identified)
        (readNodesWithRelated c t rest : Action σ (List Value)) := by
      intro w e h problem
      obtain ⟨first, other, mem, identified⟩ := ih w e h problem
      exact ⟨first, other, List.mem_cons_of_mem _ mem, identified⟩
    unfold readNodesWithRelated propertiesOf
    rw [bind_assoc]
    cases known : record.first.nodeProperties with
    | error problem =>
      intro w e h
      obtain rfl := Except.error.inj h
      exact of_not_configuration (raises_nodeProperties (fun _ _ h => h) _ _ known)
    | ok properties? =>
      refine raises_ok_bind rfl ?_
      cases properties? with
      | none =>
        rw [pure_bind]
        refine Raises.bind (fun w e h problem => ?_) fun _ => later.bind fun _ => raises_pure _
        -- What is no node is no map, which is not a problem of a type.
        obtain rfl : Failure.misuse .wrongKind = e := Except.error.inj h
        cases problem
      | some properties =>
        rw [pure_bind]
        refine Raises.bind (fun w e h problem => ?_) fun _ => later.bind fun _ => raises_pure _
        obtain ⟨first, identified⟩ :=
          raises_entityWithRelated_problem described properties w e h problem
        exact ⟨first, record, List.mem_cons_self, properties, known, identified⟩

/-- **A reading runs into the first problem of a related type**, and only if one of the nodes it is
given has an identifier. -/
theorem raises_read_problem {t : EntityRef} {d : Descriptor} (described : c.describeRef t = .ok d)
    {r : Request} (reads : r.reading = .nodeWithRelated t ∨ r.reading = .nodesWithRelated t)
    (result : Result) :
    Raises (fun e => e.isConfiguration = true →
        Related.statements c (.type (.entity t)) = .error e ∧
          ∃ record ∈ result.records, record.Identified)
      (read c r result : Action σ Value) := by
  unfold read
  rcases reads with reads | reads <;> rw [reads]
  · dsimp only
    cases known : result.firstValue.nodeProperties with
    | error problem =>
      intro w e h
      obtain rfl := Except.error.inj h
      exact of_not_configuration (raises_nodeProperties (fun _ _ h => h) _ _ known)
    | ok properties? =>
      refine raises_ok_bind rfl ?_
      cases properties? with
      | none => exact raises_pure _
      | some properties =>
        intro w e h problem
        obtain ⟨first, identified⟩ :=
          raises_entityWithRelated_problem described properties w e h problem
        obtain ⟨records, counters⟩ := result
        cases records with
        | nil => cases known
        | cons record rest =>
          exact ⟨first, record, List.mem_cons_self, properties, known, identified⟩
  · exact (raises_readNodesWithRelated_problem described _).bind fun _ => raises_pure _

end Client

/-! ### Problems that a request reports -/

section Requests

variable {P : Failure → Prop} (hP : ∀ e : Failure, e.isConfiguration = false → P e)

include hP

theorem Argument.raises_nonBlank (argument complaint : String) (v : Value) :
    Outcome.Raises P (Argument.nonBlank argument complaint v) := by
  unfold Argument.nonBlank
  split
  · split
    · exact Outcome.raises_error (hP _ rfl)
    · exact Outcome.raises_ok _
  · exact Outcome.raises_error (hP _ rfl)

theorem Identifier.raises_require (v : Value) (kind : String) :
    Outcome.Raises P (Identifier.require v kind) := by
  unfold Identifier.require
  split
  · exact Outcome.raises_ok _
  · exact Outcome.raises_error (hP _ rfl)

/-- **Once its type is described, an operation that reads makes its request**, or its arguments are
to blame. -/
theorem Operation.raises_request {operation : Operation} {t : EntityRef} {d : Descriptor}
    (reads : operation.readType? = some (.type (.entity t))) (described : c.describeRef t = .ok d)
    (now : Float) (identifier : String) :
    Outcome.Raises P (operation.request c now identifier) := by
  have typed : Outcome.Raises P (Argument.entityType c (.type (.entity t))) := by
    have ok : Argument.entityType c (.type (.entity t)) = .ok (t, d) := by
      show (c.describeRef t >>= _) = _
      rw [described]
      rfl
    rw [ok]
    exact Outcome.raises_ok _
  cases operation with
  | getByProperty type name value =>
    obtain rfl := Option.some.inj reads
    refine (Argument.raises_nonBlank hP _ _ _).bind fun name => Outcome.Raises.bind ?_ fun value =>
      typed.bind fun _ => (Identifier.raises_require hP _ _).bind fun property => ?_
    · unfold Argument.propertyValue
      split
      · exact Outcome.raises_error (hP _ rfl)
      · exact Outcome.raises_ok _
    · rw [Wording.nodesByProperty_eq]
      exact Outcome.raises_ok _
  | getByProperties type properties =>
    obtain rfl := Option.some.inj reads
    refine Outcome.Raises.bind ?_ fun entries => typed.bind fun _ => Outcome.Raises.bind ?_
      fun clause => ?_
    · unfold Argument.properties
      split
      · exact Outcome.raises_ok _
      · exact Outcome.raises_error (hP _ rfl)
    · exact (Outcome.raises_mapM (fun e => (Identifier.raises_require hP _ _).bind fun _ =>
        Outcome.raises_ok _) _).bind fun _ => Outcome.raises_ok _
    · exact (Wording.render_getByProperties ..).symm ▸ Outcome.raises_ok _
  | getAll type =>
    obtain rfl := Option.some.inj reads
    refine typed.bind fun ⟨_, d⟩ => ?_
    dsimp only
    rw [Wording.render_getAll]
    exact Outcome.raises_ok _
  | getByUuid type uuid =>
    obtain rfl := Option.some.inj reads
    refine (Argument.raises_nonBlank hP _ _ _).bind fun uuid => typed.bind fun ⟨_, d⟩ => ?_
    dsimp only
    rw [Wording.nodesByProperty_eq]
    exact Outcome.raises_ok _
  | _ => cases reads

end Requests

/-! ### Reads that go well -/

namespace Action

variable {α β : Type} {a : Action σ α} {f : α → Action σ β}

/-- An action that has asked for nothing, if it succeeds. -/
def Unasking (a : Action σ α) : Prop := ∀ w x v, a.perform w = (.ok x, v) → v.trace = w.trace

omit [Database σ]

theorem unasking_of_asks (h : Asks (· = []) a) : Unasking a := by
  intro w x v hp
  obtain ⟨-, xs, trace, rfl⟩ := h w
  rw [hp, List.append_nil] at trace
  exact trace

theorem Unasking.bind (ha : Unasking a) (hf : ∀ x, Unasking (f x)) : Unasking (a >>= f) := by
  intro w y v h
  obtain ⟨x, u, hp, h⟩ := exists_of_perform_bind h
  exact (hf x u y v h).trans (ha w x u hp)

end Action

namespace Related

/-- Looking up fields goes well only if none of them leads to a type with a problem. -/
theorem exists_statements_of_fetchFields {d : Descriptor} {uuid : Value}
    {fields : List FieldDescriptor} {found found' : Entries} {w v : World σ}
    (h : (fetchFields c (Client.execute (σ := σ)) d uuid fields found).perform w =
      (.ok found', v)) :
    ∃ texts, fields.mapM (statement c d) = .ok texts := by
  induction fields generalizing found w with
  | nil => exact ⟨[], rfl⟩
  | cons f rest ih =>
    obtain ⟨text, _, hs, h⟩ := exists_of_perform_bind h
    obtain ⟨result, _, -, h⟩ := exists_of_perform_bind h
    obtain ⟨nodes, _, -, h⟩ := exists_of_perform_bind h
    obtain ⟨texts, others⟩ := ih h
    have hs : statement c d f = .ok text := congrArg Prod.fst hs
    exact ⟨text :: texts, by rw [List.mapM_cons, hs, others]; rfl⟩

variable {t : EntityRef} {d : Descriptor} (described : c.describeRef t = .ok d) {e : Failure}
  (problem : statements c (.type (.entity t)) = .error e)

include described problem

/-- Where a related type has a problem, nothing can be looked up. -/
theorem unasking_fetch (uuid : Value) :
    Unasking (fetch c (Client.execute (σ := σ)) (.type (.entity t)) uuid) := by
  intro w found v h
  obtain ⟨t', _, ht, h⟩ := exists_of_perform_bind h
  obtain rfl : t = t' := Except.ok.inj (congrArg Prod.fst ht)
  obtain ⟨d', _, hd, h⟩ := exists_of_perform_bind h
  obtain rfl : d = d' := Except.ok.inj (described.symm.trans (congrArg Prod.fst hd))
  obtain ⟨found, _, hf, -⟩ := exists_of_perform_bind h
  obtain ⟨texts, all⟩ := exists_statements_of_fetchFields hf
  rw [statements_eq described, all] at problem
  cases problem

theorem unasking_withRelated (properties : Value) :
    Unasking (withRelated c (Client.execute (σ := σ)) (.type (.entity t)) properties) := by
  refine (unasking_of_asks (within_ofOutcome _)).bind fun merged => ?_
  dsimp only
  split
  · exact unasking_of_asks (within_pure _)
  · refine (unasking_of_asks (within_ofOutcome _)).bind fun d => ?_
    split
    · exact unasking_of_asks (within_pure _)
    · exact (unasking_fetch described problem _).bind fun _ => unasking_of_asks (within_pure _)

end Related

namespace Client

variable {t : EntityRef} {d : Descriptor} (described : c.describeRef t = .ok d) {e : Failure}
  (problem : Related.statements c (.type (.entity t)) = .error e)

include described problem

theorem unasking_entityWithRelated (properties : Value) :
    Unasking (entityWithRelated c t properties : Action σ Value) :=
  (Related.unasking_withRelated described problem properties).bind fun _ =>
    unasking_of_asks (within_entityOf _ _)

theorem unasking_readNodesWithRelated (records : List Record) :
    Unasking (readNodesWithRelated c t records : Action σ (List Value)) := by
  induction records with
  | nil => exact unasking_of_asks (within_pure _)
  | cons record rest ih =>
    exact (unasking_of_asks (within_propertiesOf _)).bind fun properties =>
      (unasking_entityWithRelated described problem properties).bind fun _ =>
        ih.bind fun _ => unasking_of_asks (within_pure _)

/-- **A reading that goes well although a related type has a problem** has looked nothing up. -/
theorem unasking_read {r : Request}
    (reads : r.reading = .nodeWithRelated t ∨ r.reading = .nodesWithRelated t) (result : Result) :
    Unasking (read c r result : Action σ Value) := by
  unfold read
  rcases reads with reads | reads <;> rw [reads]
  · refine (unasking_of_asks (within_ofOutcome _)).bind fun properties? => ?_
    cases properties? with
    | none => exact unasking_of_asks (within_pure _)
    | some properties => exact unasking_entityWithRelated described problem _
  · exact (unasking_readNodesWithRelated described problem _).bind fun _ =>
      unasking_of_asks (within_pure _)

end Client

/-! ### Two reads of one type -/

/-- An execution with a result has been answered with it. -/
theorem Execution.exists_answer {statement : String} {parameters : Value} {xs : List Exchange}
    {result : Result} (h : Execution statement parameters xs (.ok result)) :
    ∃ x ∈ xs, x.answer = .ok result := by
  cases h with
  | inTransaction running =>
    cases running with
    | finished _ summary => exact ⟨_, List.mem_cons_self, rfl⟩
  | inSession database opened closed running =>
    cases running with
    | finished _ summary => exact ⟨_, List.mem_cons_of_mem _ List.mem_cons_self, rfl⟩

namespace Client

/-- A request to read a list of nodes of a described type, and its parameters. -/
theorem listing_of_request {operation : Operation} {type : Value}
    (lists : operation.listType? = some type) {now : Float} {identifier : String} {r : Request}
    (h : operation.request c now identifier = .ok r) :
    ∃ t d, type = .type (.entity t) ∧ c.describeRef t = .ok d ∧ r.reading = .nodesWithRelated t ∧
      ∃ parameters, r.parameters = .ofParameters parameters := by
  cases operation with
  | getByProperty type name value =>
    obtain rfl := Option.some.inj lists
    obtain ⟨_, t, d, _, -, rfl, described, -, -, rfl⟩ := Request.getByProperty_eq_ok h
    exact ⟨t, d, rfl, described, rfl, _, rfl⟩
  | getByProperties type properties =>
    obtain rfl := Option.some.inj lists
    obtain ⟨_, t, d, _, -, -, rfl, described, -, -, rfl⟩ := Request.getByProperties_eq_ok h
    exact ⟨t, d, rfl, described, rfl, _, rfl⟩
  | getAll type =>
    obtain rfl := Option.some.inj lists
    obtain ⟨t, d, rfl, described, rfl⟩ := Request.getAll_eq_ok h
    exact ⟨t, d, rfl, described, rfl, _, rfl⟩
  | _ => cases lists

/-- A request to read nodes of a described type with what they are related to, and its
parameters. -/
theorem reading_of_request {operation : Operation} {type : Value}
    (reads : operation.readType? = some type) {now : Float} {identifier : String} {r : Request}
    (h : operation.request c now identifier = .ok r) :
    ∃ t d, type = .type (.entity t) ∧ c.describeRef t = .ok d ∧
      (r.reading = .nodeWithRelated t ∨ r.reading = .nodesWithRelated t) ∧
      ∃ parameters, r.parameters = .ofParameters parameters := by
  rcases Operation.readType?_cases reads with lists | ⟨uuid, rfl⟩
  · obtain ⟨t, d, same, described, reading, bound⟩ := listing_of_request lists h
    exact ⟨t, d, same, described, .inr reading, bound⟩
  · obtain ⟨_, t, d, -, rfl, described, rfl⟩ := Request.getByUuid_eq_ok h
    exact ⟨t, d, rfl, described, .inl rfl, _, rfl⟩

/-- An operation that has made its request does what sending it does. -/
theorem exists_send {operation : Operation} {w : World σ} {r : Request}
    (h : operation.request c w.now w.nextIdentifier = .ok r) :
    ∃ u, (perform c operation).perform w = (send c r).perform u ∧
      (perform c operation).exchanges w = (send c r).exchanges u := by
  obtain ⟨u, prepared, -, trace⟩ := exists_perform_prepare h
  exact ⟨u, perform_bind_ok prepared, exchanges_bind_of_trace prepared trace⟩

/-- An execution with a result went one of its courses. -/
theorem execution_of_ok {statement : String} {parameters : Parameters} {w v : World σ}
    {result : Result}
    (h : (execute statement (.ofParameters parameters)).perform w = (.ok result, v)) :
    Execution statement (.ofParameters parameters)
      ((execute statement (.ofParameters parameters)).exchanges w) (.ok result) := by
  have ready : w.Ready := by
    by_contra hw
    obtain ⟨e, refused⟩ := execute_of_not_ready statement (.ofParameters parameters) hw
    rw [refused] at h
    cases h
  have course := execution_execute statement parameters ready
  rwa [h] at course

/-- Where a related type has a problem, a read that goes well sends its own statement only. -/
theorem statements_of_problem {operation : Operation} {t : EntityRef} {e : Failure}
    (reads : operation.readType? = some (.type (.entity t)))
    (problem : Related.statements c (.type (.entity t)) = .error e) {w v : World σ} {value : Value}
    (completed : (perform c operation).perform w = (.ok value, v)) :
    ∃ sent, (perform c operation).statements w = [sent] := by
  cases requested : operation.request c w.now w.nextIdentifier with
  | error e =>
    rw [perform_of_request_error requested] at completed
    cases completed
  | ok r =>
    obtain ⟨t', d, same, described, reading, parameters, bound⟩ :=
      reading_of_request reads requested
    obtain rfl : t = t' := by cases same; rfl
    obtain ⟨u, done, asked⟩ := exists_send requested
    rw [done, send, bound] at completed
    obtain ⟨result, u', executed, read⟩ := exists_of_perform_bind completed
    have course := (execution_of_ok executed).filterMap_statement?
    have quiet : (Client.read c r result).exchanges u' = [] :=
      exchanges_of_trace (by rw [read, unasking_read described problem reading result _ _ _ read])
    refine ⟨(r.statement, .ofParameters parameters), ?_⟩
    rw [statements, asked, send, bound,
      exchanges_bind_ok (steady_execute _ _) (steady_read r) executed, quiet, List.append_nil]
    exact course.resolve_right (by rintro ⟨-, e, ⟨⟩⟩)

/-- A read of a described type reports a problem of a type only if it is the first of the related
types, and a node with an identifier was received. -/
theorem problem_of_configuration {operation : Operation} {t : EntityRef} {d : Descriptor}
    (reads : operation.readType? = some (.type (.entity t))) (described : c.describeRef t = .ok d)
    {w v : World σ} {e : Failure} (failed : (perform c operation).perform w = (.error e, v))
    (configuration : e.isConfiguration = true) :
    Related.statements c (.type (.entity t)) = .error e ∧
      ∃ x ∈ (perform c operation).exchanges w, ∃ result, x.answer = .ok result ∧
        ∃ record ∈ result.records, record.Identified := by
  cases requested : operation.request c w.now w.nextIdentifier with
  | error e' =>
    rw [perform_of_request_error requested] at failed
    obtain rfl := Except.error.inj (congrArg Prod.fst failed)
    exact of_not_configuration (Operation.raises_request (fun _ h => h) reads described _ _ _
      requested) configuration
  | ok r =>
    obtain ⟨t', -, same, -, reading, parameters, bound⟩ := reading_of_request reads requested
    obtain rfl : t = t' := by cases same; rfl
    obtain ⟨u, done, asked⟩ := exists_send requested
    rw [done, send, bound, perform_bind] at failed
    rw [asked, send, bound]
    rcases executed : (execute r.statement (.ofParameters parameters)).perform u with
      ⟨e' | result, u'⟩ <;> rw [executed] at failed
    · obtain rfl := Except.error.inj (congrArg Prod.fst failed)
      exact of_not_configuration (raises_execute (fun _ _ h => h) _ _ u _ (by rw [executed]))
        configuration
    · obtain ⟨first, received⟩ :=
        raises_read_problem described reading result u' e (congrArg Prod.fst failed) configuration
      obtain ⟨x, mem, answer⟩ := (execution_of_ok executed).exists_answer
      rw [exchanges_bind_ok (steady_execute _ _) (steady_read r) executed]
      exact ⟨first, x, List.mem_append_left _ mem, result, answer, received⟩

/-- **When a problem of a type shows.** Take two reads of the same type, anywhere and at any
databases, and let the first succeed. If the second reports a problem of a type, then this is the
first problem of the types that the relationship fields of the type lead to; a row with a node that
has an identifier was received for it; and the first has sent its own statement only, so it has
looked nothing up. -/
theorem late_of_configuration {τ : Type} [Database τ] (c : Catalog) {type : Value}
    {first later : Operation} (first_reads : first.readType? = some type)
    (later_reads : later.readType? = some type) {w v : World σ} {value : Value}
    (completed : (perform c first).perform w = (.ok value, v)) {w' v' : World τ} {e : Failure}
    (failed : (perform c later).perform w' = (.error e, v'))
    (configuration : e.isConfiguration = true) :
    Related.statements c type = .error e ∧
      (∃ x ∈ (perform c later).exchanges w', ∃ result, x.answer = .ok result ∧
        ∃ record ∈ result.records, record.Identified) ∧
      ∃ sent, (perform c first).statements w = [sent] := by
  obtain ⟨t, d, rfl, described⟩ :
      ∃ t d, type = .type (.entity t) ∧ c.describeRef t = .ok d := by
    cases requested : first.request c w.now w.nextIdentifier with
    | error e =>
      rw [perform_of_request_error requested] at completed
      cases completed
    | ok r =>
      obtain ⟨t, d, type, described, -⟩ := reading_of_request first_reads requested
      exact ⟨t, d, type, described⟩
  obtain ⟨problem, received⟩ :=
    problem_of_configuration later_reads described failed configuration
  exact ⟨problem, received, statements_of_problem first_reads problem completed⟩

end Client

namespace Example

/-- Posts have a label that is no identifier, so they cannot be described. -/
def blogPost : EntityType :=
  { number := 0, name := "Post", label := .text "Blog Post", fields := baseFields }

/-- The type of the relationship from boards to posts can be used as a type. -/
theorem isIdentifier_shows : isIdentifier "SHOWS".toList = true := by decide

/-- Boards show posts. -/
def board : EntityType :=
  { number := 1
    name := "Board"
    label := .text "Board"
    fields := baseFields ++
      [{ name := "posts", type := .collection .list (.entity (.declared 0 "Post")),
         default := .emptyList
         marks := [.relationship ⟨⟨"SHOWS", isIdentifier_shows⟩, .outgoing⟩] }] }

/-- The catalog of posts and boards. -/
def boards : Catalog := ⟨[blogPost, board]⟩

/-- Reading all boards. -/
def readBoards : Operation := .getAll (.type (.entity board.ref))

/-- The result that holds one board. -/
def oneBoard : Result := { records := [⟨[("n", .node [(.text "Uuid", .text "b1")])]⟩] }

end Example

namespace Client

/-- Reading boards goes well while there are none, and reports the problem of posts once there is
one. -/
theorem late_of_configuration_boards : ∃ value v e v',
    (perform Example.boards Example.readBoards).perform (Example.connected []) = (.ok value, v) ∧
      (perform Example.boards Example.readBoards).perform (Example.connected [Example.oneBoard]) =
        (.error e, v') ∧ e.isConfiguration = true ∧
      Related.statements Example.boards (.type (.entity Example.board.ref)) = .error e := by
  have completed : ∃ value v, (perform Example.boards Example.readBoards).perform
      (Example.connected []) = (.ok value, v) := ⟨_, _, rfl⟩
  have failed : ∃ e v', (perform Example.boards Example.readBoards).perform
      (Example.connected [Example.oneBoard]) = (.error e, v') ∧ e.isConfiguration = true :=
    ⟨_, _, rfl, rfl⟩
  obtain ⟨value, v, completed⟩ := completed
  obtain ⟨e, v', failed, configuration⟩ := failed
  exact ⟨value, v, e, v', completed, failed, configuration,
    (late_of_configuration Example.boards rfl rfl completed failed configuration).1⟩

/-- **Problems of types do not all show on first use**: a read that has succeeded does not keep a
later one of the same type from reporting a problem of a type. -/
theorem not_on_first_use_boards :
    ¬ ∀ (first later : Operation) (w v w' v' : World Scripted) (value : Value) (e : Failure),
      first.readType? = some (.type (.entity Example.board.ref)) →
      later.readType? = some (.type (.entity Example.board.ref)) →
      (perform Example.boards first).perform w = (.ok value, v) →
      (perform Example.boards later).perform w' = (.error e, v') → e.isConfiguration = false := by
  intro h
  have configuration := h Example.readBoards Example.readBoards (Example.connected []) _
    (Example.connected [Example.oneBoard]) _ _ _ rfl rfl rfl rfl
  cases configuration

end Client

end GraphMapper
