import GraphMapper.Proofs.Acceptance
import GraphMapper.Proofs.Sending

/-!
# Two clients side by side

Two clients run the same program, against two databases and at two times. This file says when
they send the same texts: when the databases **reply** the same as far as both go.

What counts as a reply is what a statement came to. `GraphMapper.Exchange.reply?` keeps the
answers to statements, and the faults around them; that a session was opened or closed says
nothing, so a client that is in a transaction can be compared with one that is not.

* `GraphMapper.Action.Parallel` relates two actions that send the same texts when the replies
  are the same as far as both go, and whose outcomes match.
* `GraphMapper.Action.Parallel.bind`: what follows one another in parallel is parallel. The one
  case that needs an argument is that of a fault only one of the two meets after its statement
  was answered. Then it has to be shown that the other has nothing left to say, and this is so
  because nothing *begins* with such a fault (`GraphMapper.Fresh`).
* `GraphMapper.Client.parallel_execute`: an execution goes one of four ways, whatever it runs on.
-/

namespace GraphMapper

/-! ### Replies -/

/-- What a statement comes to. -/
inductive Reply where
  /-- There was no session for it. -/
  | unopened (fault : Fault)
  /-- It was answered, with a result or a fault. -/
  | answered (answer : Except Fault Result)
  /-- After the answer there was a fault. -/
  | unfinished (fault : Fault)

/-- What an exchange says about a statement, if it says anything. -/
def Exchange.reply? (x : Exchange) : Option Reply :=
  match x.call, x.answer with
  | .run _ _ _, answer => some (.answered answer)
  | .openSession _ _, .error fault => some (.unopened fault)
  | _, .error fault => some (.unfinished fault)
  | _, .ok _ => none

/-- Exchanges that do not begin with what comes after an answer. -/
def Fresh (xs : List Exchange) : Prop :=
  ∀ fault rest, xs.filterMap Exchange.reply? ≠ .unfinished fault :: rest

instance : Action.Chained Fresh where
  nil := by simp [Fresh]
  append := by
    intro xs ys hx hy fault rest h
    rw [List.filterMap_append] at h
    cases hr : xs.filterMap Exchange.reply? with
    | nil => exact hy fault rest (by rwa [hr] at h)
    | cons reply replies =>
      rw [hr, List.cons_append] at h
      exact hx fault replies (by rw [hr, (List.cons.inj h).1])

/-- Two lists that are the same as far as both go. -/
def Comparable {α : Type} (xs ys : List α) : Prop := xs <+: ys ∨ ys <+: xs

namespace Comparable

variable {α : Type} {xs ys zs : List α}

theorem symm (h : Comparable xs ys) : Comparable ys xs := Or.symm h

theorem of_append {xs' ys' : List α} (h : Comparable (xs ++ xs') (ys ++ ys')) :
    Comparable xs ys := by
  rcases h with h | h
  · exact List.prefix_or_prefix_of_prefix ((List.prefix_append _ _).trans h)
      (List.prefix_append _ _)
  · exact List.prefix_or_prefix_of_prefix (List.prefix_append _ _)
      ((List.prefix_append _ _).trans h)

theorem append_left_iff : Comparable (xs ++ ys) (xs ++ zs) ↔ Comparable ys zs :=
  or_congr (List.prefix_append_right_inj xs) (List.prefix_append_right_inj xs)

theorem cons_cons_iff {a b : α} : Comparable (a :: xs) (b :: ys) ↔ a = b ∧ Comparable xs ys := by
  rw [Comparable, List.cons_prefix_cons, List.cons_prefix_cons, eq_comm (a := b), ← and_or_left]
  rfl

end Comparable

/-- A client that is ready is so after any action that leaves it as it is. -/
theorem World.Ready.after {σ α : Type} {a : Action σ α} (ha : a.Steady) {w v : World σ}
    {outcome : Except Failure α} (h : a.perform w = (outcome, v)) (hw : w.Ready) : v.Ready := by
  have same := (ha w).1
  rw [h] at same
  exact hw.of_sameClient same

namespace Action

variable {σ σ' α β : Type}

/-- The replies to what an action asks. -/
def replies (a : Action σ α) (w : World σ) : List Reply :=
  (a.exchanges w).filterMap Exchange.reply?

/-- The texts of the statements that an action sends. -/
def texts (a : Action σ α) (w : World σ) : List String := (a.statements w).map Prod.fst

/-- Two outcomes, each with the replies that led to it, that match: after the same replies both
succeed, with related results; or both fail; or one succeeds, and the other was told of a fault
after the same replies. -/
def Matched (R : α → β → Prop) (replies : List Reply) (outcome : Except Failure α)
    (replies' : List Reply) (outcome' : Except Failure β) : Prop :=
  match outcome, outcome' with
  | .ok a, .ok b => replies = replies' ∧ R a b
  | .ok _, .error _ => ∃ fault more, replies' = replies ++ .unfinished fault :: more
  | .error _, .ok _ => ∃ fault more, replies = replies' ++ .unfinished fault :: more
  | .error _, .error _ => True

/-- **Two actions in parallel**: in any two clients that are ready, if the replies are the same
as far as both go, so are the texts, and the outcomes match. -/
def Parallel (R : α → β → Prop) (a : Action σ α) (a' : Action σ' β) : Prop :=
  ∀ w w', w.Ready → w'.Ready → Comparable (a.replies w) (a'.replies w') →
    a.texts w = a'.texts w' ∧
      Matched R (a.replies w) (a.perform w).1 (a'.replies w') (a'.perform w').1

theorem Matched.append {R : α → β → Prop} {replies replies' : List Reply}
    {outcome : Except Failure α} {outcome' : Except Failure β}
    (h : Matched R replies outcome replies' outcome') (before : List Reply) :
    Matched R (before ++ replies) outcome (before ++ replies') outcome' := by
  cases outcome with
  | error e =>
    cases outcome' with
    | error e' => trivial
    | ok b =>
      obtain ⟨fault, more, rfl⟩ := h
      exact ⟨fault, more, (List.append_assoc _ _ _).symm⟩
  | ok a =>
    cases outcome' with
    | error e' =>
      obtain ⟨fault, more, rfl⟩ := h
      exact ⟨fault, more, (List.append_assoc _ _ _).symm⟩
    | ok b =>
      obtain ⟨rfl, related⟩ := h
      exact ⟨rfl, related⟩

/-! ### One thing after the other -/

section Bind

variable {γ δ : Type} {R : α → β → Prop} {S : γ → δ → Prop} {a : Action σ α} {a' : Action σ' β}
  {f : α → Action σ γ} {f' : β → Action σ' δ}

/-- Exchanges without a reply run no statement. -/
theorem texts_eq_nil {w : World σ} (h : a.replies w = []) : a.texts w = [] := by
  have none : (a.exchanges w).filterMap Exchange.statement? = [] := by
    rw [replies, List.filterMap_eq_nil_iff] at h
    rw [List.filterMap_eq_nil_iff]
    rintro ⟨call, answer⟩ hx
    have said := h _ hx
    cases call with
    | run => cases said
    | _ => rfl
  rw [texts, statements, none, List.map_nil]

/-- **After a fault there is nothing to say** that would be the same. -/
theorem silent_of_unfinished (ha : Asks Fresh a) {w : World σ} {fault : Fault} {more : List Reply}
    (h : Comparable (a.replies w) (.unfinished fault :: more)) :
    a.replies w = [] ∧ a.texts w = [] := by
  have fresh : ∀ rest, a.replies w ≠ .unfinished fault :: rest := ha.holds w fault
  have nothing : a.replies w = [] := by
    cases hr : a.replies w with
    | nil => rfl
    | cons reply rest =>
      -- Its first reply would have to be the fault, and it begins with none.
      rw [hr] at h
      obtain ⟨rfl, -⟩ := Comparable.cons_cons_iff.mp h
      exact absurd hr (fresh rest)
  exact ⟨nothing, texts_eq_nil nothing⟩

theorem replies_bind_ok (ha : Steady a) (hf : ∀ x, Steady (f x)) {x : α} {w v : World σ}
    (h : a.perform w = (.ok x, v)) :
    (a >>= f).replies w = a.replies w ++ (f x).replies v := by
  rw [replies, exchanges_bind_ok ha hf h, List.filterMap_append, replies, replies]

theorem texts_bind_ok (ha : Steady a) (hf : ∀ x, Steady (f x)) {x : α} {w v : World σ}
    (h : a.perform w = (.ok x, v)) : (a >>= f).texts w = a.texts w ++ (f x).texts v := by
  rw [texts, statements, exchanges_bind_ok ha hf h, List.filterMap_append, List.map_append, texts,
    texts, statements, statements]

theorem replies_bind_error {e : Failure} {w v : World σ} (h : a.perform w = (.error e, v)) :
    (a >>= f).replies w = a.replies w := by
  rw [replies, exchanges_bind_error h, replies]

theorem texts_bind_error {e : Failure} {w v : World σ} (h : a.perform w = (.error e, v)) :
    (a >>= f).texts w = a.texts w := by
  rw [texts, statements, exchanges_bind_error h, texts, statements]

/-- Where another was told of a fault, what follows an action says nothing. -/
theorem silent_bind (ha : Steady a) (hf : ∀ x, Asks Fresh (f x)) {x : α} {w v : World σ}
    (h : a.perform w = (.ok x, v)) {fault : Fault} {more : List Reply}
    (hr : Comparable ((a >>= f).replies w) (a.replies w ++ .unfinished fault :: more)) :
    (a >>= f).replies w = a.replies w ∧ (a >>= f).texts w = a.texts w := by
  have steady (x : α) : Steady (f x) := (hf x).steady
  rw [replies_bind_ok ha steady h] at hr ⊢
  obtain ⟨nothing, silent⟩ := silent_of_unfinished (hf x) (Comparable.append_left_iff.mp hr)
  rw [texts_bind_ok ha steady h, silent, nothing, List.append_nil, List.append_nil]
  exact ⟨rfl, rfl⟩

theorem exists_replies_bind (ha : Steady a) (hf : ∀ x, Steady (f x)) (w : World σ) :
    ∃ more, (a >>= f).replies w = a.replies w ++ more := by
  rcases h : a.perform w with ⟨e | x, v⟩
  · exact ⟨[], by rw [replies_bind_error h, List.append_nil]⟩
  · exact ⟨_, replies_bind_ok ha hf h⟩

/-- **What follows one another in parallel is parallel.** -/
theorem Parallel.bind (h : Parallel R a a') (ha : Asks Fresh a) (ha' : Asks Fresh a')
    (hf : ∀ x, Asks Fresh (f x)) (hf' : ∀ y, Asks Fresh (f' y))
    (hff : ∀ x y, R x y → Parallel S (f x) (f' y)) :
    Parallel S (a >>= f) (a' >>= f') := by
  intro w w' hw hw' hr
  have steady (x : α) : Steady (f x) := (hf x).steady
  have steady' (y : β) : Steady (f' y) := (hf' y).steady
  obtain ⟨more, hm⟩ := exists_replies_bind ha.steady steady w
  obtain ⟨more', hm'⟩ := exists_replies_bind ha'.steady steady' w'
  obtain ⟨texts, matched⟩ := h w w' hw hw' (hm ▸ hm' ▸ hr).of_append
  rcases hp : a.perform w with ⟨e | x, v⟩ <;> rcases hp' : a'.perform w' with ⟨e' | y, v'⟩
  · -- Both stop.
    rw [texts_bind_error hp, texts_bind_error hp', perform_bind_error hp, perform_bind_error hp']
    exact ⟨texts, trivial⟩
  · -- Only the second goes on. The first was told of a fault, so the second has nothing to say.
    rw [hp, hp'] at matched
    obtain ⟨fault, rest, he⟩ := matched
    rw [replies_bind_error hp, he] at hr ⊢
    obtain ⟨said, sent⟩ := silent_bind ha'.steady hf' hp' hr.symm
    rw [texts_bind_error hp, texts, sent, said, perform_bind_error hp]
    refine ⟨rfl, ?_⟩
    cases ((a' >>= f').perform w').1 with
    | error => trivial
    | ok => exact ⟨fault, rest, rfl⟩
  · -- Only the first goes on: the same, the other way round.
    rw [hp, hp'] at matched
    obtain ⟨fault, rest, he⟩ := matched
    rw [replies_bind_error hp', he] at hr ⊢
    obtain ⟨said, sent⟩ := silent_bind ha.steady hf hp hr
    rw [sent, texts, texts_bind_error hp', said, perform_bind_error hp']
    refine ⟨rfl, ?_⟩
    cases ((a >>= f).perform w).1 with
    | error => trivial
    | ok => exact ⟨fault, rest, rfl⟩
  · -- Both go on, with related results and after the same replies.
    rw [hp, hp'] at matched
    obtain ⟨he, related⟩ := matched
    rw [replies_bind_ok ha.steady steady hp, replies_bind_ok ha'.steady steady' hp', he] at hr ⊢
    obtain ⟨texts', matched'⟩ := hff x y related v v' (hw.after ha.steady hp)
      (hw'.after ha'.steady hp') (Comparable.append_left_iff.mp hr)
    rw [texts_bind_ok ha.steady steady hp, texts_bind_ok ha'.steady steady' hp', texts, texts',
      perform_bind_ok hp, perform_bind_ok hp']
    exact ⟨rfl, matched'.append _⟩

/-- Actions that ask nothing are parallel if their outcomes agree. -/
theorem parallel_of_quiet (ha : Asks (· = []) a) (ha' : Asks (· = []) a')
    (h : ∀ w w', Outcome.Agree R (a.perform w).1 (a'.perform w').1) : Parallel R a a' := by
  intro w w' _ _ _
  have said : a.replies w = [] := by rw [replies, ha.holds w]; rfl
  have said' : a'.replies w' = [] := by rw [replies, ha'.holds w']; rfl
  rw [texts_eq_nil said, texts_eq_nil said', said, said']
  refine ⟨rfl, ?_⟩
  have agree := h w w'
  generalize (a.perform w).1 = outcome, (a'.perform w').1 = outcome' at agree
  cases agree with
  | error e => trivial
  | ok related => exact ⟨rfl, related⟩

theorem parallel_pure {x : α} {y : β} (h : R x y) :
    Parallel R (pure x : Action σ α) (pure y : Action σ' β) :=
  parallel_of_quiet (within_pure x) (within_pure y) fun _ _ => .ok h

/-- What follows the same outcome in parallel is parallel. -/
theorem parallel_ofOutcome_bind {e : Except Failure α} {f : α → Action σ γ} {f' : α → Action σ' δ}
    (h : ∀ x, e = .ok x → Parallel S (f x) (f' x)) :
    Parallel S (ofOutcome e >>= f) (ofOutcome e >>= f') := by
  cases e with
  | error e =>
    exact parallel_of_quiet (within_ofOutcome_bind fun _ he => nomatch he)
      (within_ofOutcome_bind fun _ he => nomatch he) fun _ _ => .error e
  | ok x => exact h x rfl

end Bind

end Action

open GraphMapper.Action

/-! ### Executions -/

/-- What running a statement says, which texts it sends, and how it ends. -/
inductive Said (statement : String) :
    List Reply → List String → Except Failure Result → Prop where
  /-- There is no session. -/
  | unopened (fault : Fault) (e : Failure) : Said statement [.unopened fault] [] (.error e)
  /-- The statement fails. -/
  | failed (fault : Fault) (more : List Reply) (e : Failure) :
    Said statement (.answered (.error fault) :: more) [statement] (.error e)
  /-- The statement has a result, and then there is a fault. -/
  | unfinished (result : Result) (fault : Fault) (more : List Reply) (e : Failure) :
    Said statement (.answered (.ok result) :: .unfinished fault :: more) [statement] (.error e)
  /-- The statement has a result. -/
  | finished (result : Result) : Said statement [.answered (.ok result)] [statement] (.ok result)

/-- **An execution goes one of four ways**, whatever it runs on. -/
theorem Execution.said {statement : String} {parameters : Value} {xs : List Exchange}
    {outcome : Except Failure Result} (h : Execution statement parameters xs outcome) :
    Said statement (xs.filterMap Exchange.reply?)
      ((xs.filterMap Exchange.statement?).map Prod.fst) outcome := by
  cases h with
  | unopened _ _ fault => exact .unopened fault _
  -- A session that is opened and closed says nothing.
  | inTransaction running | inSession _ _ _ running =>
    cases running with
    | failed fault => exact .failed fault _ _
    | unfinished result fault => exact .unfinished result fault _ _
    | finished result => exact .finished result
  | unclosed _ _ fault running =>
    cases running with
    | failed fault => exact .failed fault _ _
    | unfinished result fault => exact .unfinished result fault _ _
    | finished result => exact .unfinished result fault _ _

/-- Two executions of a statement that say the same as far as both go send the same. -/
theorem Said.matched {statement : String} {replies replies' : List Reply}
    {texts texts' : List String} {outcome outcome' : Except Failure Result}
    (h : Said statement replies texts outcome) (h' : Said statement replies' texts' outcome')
    (hr : Comparable replies replies') :
    texts = texts' ∧ Matched (fun r r' => r = r') replies outcome replies' outcome' := by
  -- Where the first replies differ there is nothing to compare.
  have heads {r r' : Reply} {rest rest' : List Reply} (hc : Comparable (r :: rest) (r' :: rest')) :
      r = r' := (Comparable.cons_cons_iff.mp hc).1
  cases h with
  | unopened =>
    cases h' with
    | unopened => exact ⟨rfl, trivial⟩
    | _ => cases heads hr
  | failed =>
    cases h' with
    | failed => exact ⟨rfl, trivial⟩
    | _ => cases heads hr
  | unfinished result fault more =>
    cases h' with
    | unfinished => exact ⟨rfl, trivial⟩
    | finished =>
      cases heads hr
      exact ⟨rfl, fault, more, rfl⟩
    | _ => cases heads hr
  | finished =>
    cases h' with
    | unfinished _ fault more =>
      cases heads hr
      exact ⟨rfl, fault, more, rfl⟩
    | finished =>
      cases heads hr
      exact ⟨rfl, rfl, rfl⟩
    | _ => cases heads hr

variable {σ σ' : Type} [Database σ] [Database σ'] {c : Catalog}

theorem Execution.fresh {statement : String} {parameters : Value} {xs : List Exchange}
    {outcome : Except Failure Result} (h : Execution statement parameters xs outcome) :
    Fresh xs := by
  intro fault rest he
  have said := h.said
  rw [he] at said
  cases said

namespace Client

theorem fresh_execute (statement : String) (parameters : Parameters) :
    Asks Fresh (execute statement (.ofParameters parameters) : Action σ Result) :=
  asks_execute fun _ _ course => course.fresh

/-- **Executions of one statement are parallel**, whatever its parameters. -/
theorem parallel_execute (statement : String) (parameters parameters' : Parameters) :
    Parallel (fun r r' => r = r')
      (execute statement (.ofParameters parameters) : Action σ Result)
      (execute statement (.ofParameters parameters') : Action σ' Result) :=
  fun _ _ hw hw' =>
    (execution_execute statement parameters hw).said.matched
      (execution_execute statement parameters' hw').said

theorem fresh_lookup (statement : String) (parameters : Parameters)
    (_ : IsLookup statement (.ofParameters parameters)) :
    Asks Fresh (execute statement (.ofParameters parameters) : Action σ Result) :=
  fresh_execute statement parameters

end Client

/-! ### Reading in parallel -/

namespace Related

open Client

/-- By induction on the fields: each is looked up in parallel, and what is found so far is the
same on both sides. -/
theorem parallel_fetchFields (d : Descriptor) (uuid : Value) (fields : List FieldDescriptor)
    (found : Entries) :
    Parallel (fun e e' => e = e') (fetchFields c (execute (σ := σ)) d uuid fields found)
      (fetchFields c (execute (σ := σ')) d uuid fields found) := by
  induction fields generalizing found with
  | nil => exact parallel_pure rfl
  | cons f rest ih =>
    refine parallel_ofOutcome_bind fun statement _ =>
      (parallel_execute statement _ _).bind (fresh_execute _ _) (fresh_execute _ _)
        (fun _ => (within_ofOutcome _).bind fun _ => within_fetchFields fresh_lookup _ _ _ _)
        (fun _ => (within_ofOutcome _).bind fun _ => within_fetchFields fresh_lookup _ _ _ _) ?_
    intro result _ same
    subst same
    exact parallel_ofOutcome_bind fun nodes _ => ih _

theorem parallel_fetch (type uuid : Value) :
    Parallel (fun e e' => e = e') (fetch c (execute (σ := σ)) type uuid)
      (fetch c (execute (σ := σ')) type uuid) := by
  refine parallel_ofOutcome_bind fun r _ => parallel_ofOutcome_bind fun d _ =>
    (parallel_fetchFields d uuid _ _).bind (within_fetchFields fresh_lookup _ _ _ _)
      (within_fetchFields fresh_lookup _ _ _ _)
      (fun _ => (within_noteFound _ _ _).bind fun _ => within_pure _)
      (fun _ => (within_noteFound _ _ _).bind fun _ => within_pure _) ?_
  intro found _ same
  subst same
  refine parallel_of_quiet ((within_noteFound _ _ _).bind fun _ => within_pure _)
    ((within_noteFound _ _ _).bind fun _ => within_pure _) fun w w' => ?_
  unfold noteFound
  split
  · exact .ok rfl
  · exact .ok rfl

theorem parallel_withRelated (type properties : Value) :
    Parallel (fun e e' => e = e') (withRelated c (execute (σ := σ)) type properties)
      (withRelated c (execute (σ := σ')) type properties) := by
  refine parallel_ofOutcome_bind fun merged _ => ?_
  dsimp only
  split
  · exact parallel_pure rfl
  · refine parallel_ofOutcome_bind fun d _ => ?_
    split
    · exact parallel_pure rfl
    · refine (parallel_fetch type _).bind (within_fetch fresh_lookup _ _)
        (within_fetch fresh_lookup _ _) (fun _ => within_pure _) (fun _ => within_pure _) ?_
      rintro found _ rfl
      exact parallel_pure rfl

end Related

namespace Client

omit [Database σ] [Database σ'] in
/-- At two times, an entity comes about in both clients or in none. -/
theorem parallel_entityOf (type : EntityRef) (properties : Option Entries) :
    Parallel (fun _ _ => True) (entityOf c type properties : Action σ Value)
      (entityOf c type properties : Action σ' Value) :=
  parallel_of_quiet (within_entityOf _ _) (within_entityOf _ _) fun w w' =>
    c.mapNode_agree w.now w'.now type properties

omit [Database σ] [Database σ'] in
theorem parallel_propertiesOf (v : Value) :
    Parallel (fun p p' => p = p') (propertiesOf v : Action σ Value)
      (propertiesOf v : Action σ' Value) := by
  refine parallel_ofOutcome_bind fun properties _ => ?_
  cases properties with
  | none => exact parallel_pure rfl
  | some _ => exact parallel_pure rfl

theorem parallel_entityWithRelated (type : EntityRef) (properties : Value) :
    Parallel (fun _ _ => True) (entityWithRelated c type properties : Action σ Value)
      (entityWithRelated c type properties : Action σ' Value) := by
  refine (Related.parallel_withRelated _ properties).bind
    (Related.within_withRelated fresh_lookup _ _) (Related.within_withRelated fresh_lookup _ _)
    (fun _ => within_entityOf _ _) (fun _ => within_entityOf _ _) ?_
  rintro merged _ rfl
  exact parallel_entityOf _ _

/-- By induction on the rows. -/
theorem parallel_readNodesWithRelated (type : EntityRef) (records : List Record) :
    Parallel (fun _ _ => True) (readNodesWithRelated c type records : Action σ (List Value))
      (readNodesWithRelated c type records : Action σ' (List Value)) := by
  have one {τ : Type} [Database τ] (v : Value) :
      Asks Fresh (entityWithRelated c type v : Action τ Value) :=
    within_entityWithRelated fresh_lookup _ _
  have others {τ : Type} [Database τ] (records : List Record) :
      Asks Fresh (readNodesWithRelated c type records : Action τ (List Value)) :=
    within_readNodesWithRelated fresh_lookup _ _
  induction records with
  | nil => exact parallel_pure trivial
  | cons record records ih =>
    refine (parallel_propertiesOf record.first).bind (within_propertiesOf _) (within_propertiesOf _)
      (fun v => (one v).bind fun _ => (others records).bind fun _ => within_pure _)
      (fun v => (one v).bind fun _ => (others records).bind fun _ => within_pure _) ?_
    rintro properties _ rfl
    refine (parallel_entityWithRelated type properties).bind (one _) (one _)
      (fun _ => (others records).bind fun _ => within_pure _)
      (fun _ => (others records).bind fun _ => within_pure _) fun _ _ _ => ?_
    exact ih.bind (others records) (others records) (fun _ => within_pure _)
      (fun _ => within_pure _) fun _ _ _ => parallel_pure trivial

/-- **A result is read in parallel**, for requests that make the same of it and look up what
nodes are related to. -/
theorem parallel_read {r r' : Request} (hl : r.reading.looksUp = true)
    (hr : r.reading = r'.reading) (result : Result) :
    Parallel (fun _ _ => True) (read c r result : Action σ Value)
      (read c r' result : Action σ' Value) := by
  unfold read
  rw [← hr]
  cases hreading : r.reading with
  | nodeWithRelated type =>
    refine parallel_ofOutcome_bind fun properties _ => ?_
    cases properties with
    | none => exact parallel_pure trivial
    | some properties => exact parallel_entityWithRelated type _
  | nodesWithRelated type =>
    exact (parallel_readNodesWithRelated type _).bind (within_readNodesWithRelated fresh_lookup _ _)
      (within_readNodesWithRelated fresh_lookup _ _) (fun _ => within_pure _)
      (fun _ => within_pure _) fun _ _ _ => parallel_pure trivial
  | _ =>
    rw [hreading] at hl
    cases hl

end Client

/-! ### Requests that differ in their values -/

/-- Two requests that differ in nothing but values: the statement is the same, each has values by
name as its parameters, and the result is read the same way if that takes lookups. -/
structure Request.Alike (r r' : Request) : Prop where
  /-- The statement is the same. -/
  statement : r.statement = r'.statement
  /-- One has values by name. -/
  parameters : ∃ values, r.parameters = .ofParameters values
  /-- And so has the other. -/
  parameters' : ∃ values, r'.parameters = .ofParameters values
  /-- Lookups follow on both or on none. -/
  looksUp : r.reading.looksUp = r'.reading.looksUp
  /-- Where lookups follow, the result is read the same way. -/
  reading : r.reading.looksUp = true → r.reading = r'.reading

namespace Client

/-- **Requests that differ in their values send the same texts**, if the replies are the same as
far as both go. -/
theorem texts_send_eq {r r' : Request} (alike : r.Alike r') {w : World σ} {w' : World σ'}
    (hw : w.Ready) (hw' : w'.Ready)
    (hr : Comparable ((send c r).replies w) ((send c r').replies w')) :
    (send c r).texts w = (send c r').texts w' := by
  obtain ⟨parameters, hp⟩ := alike.parameters
  obtain ⟨parameters', hp'⟩ := alike.parameters'
  unfold send at hr ⊢
  rw [hp, hp', alike.statement] at hr ⊢
  cases hl : r.reading.looksUp with
  | true =>
    refine (Parallel.bind (R := fun x y => x = y) (S := fun _ _ => True)
      (parallel_execute r'.statement parameters parameters') (fresh_execute _ _)
      (fresh_execute _ _) (within_read fresh_lookup r) (within_read fresh_lookup r') ?_
      w w' hw hw' hr).1
    rintro result _ rfl
    exact parallel_read hl (alike.reading hl) result
  | false =>
    -- Nothing follows the statement, so how the two results are read does not matter.
    have hl' : r'.reading.looksUp = false := by rw [← alike.looksUp, hl]
    unfold texts statements replies at *
    rw [exchanges_bind_of_quiet (steady_execute _ _) (within_read_of_not_looksUp hl),
      exchanges_bind_of_quiet (steady_execute _ _) (within_read_of_not_looksUp hl')] at *
    exact (parallel_execute r'.statement parameters parameters' w w' hw hw' hr).1

end Client

end GraphMapper
