import GraphMapper.Proofs.Catalog.Inherited
import GraphMapper.Proofs.Related.Strays

/-!
# Two ways to read by identifier

The node with an identifier can be read in two ways. One asks for that node and gives an entity, or
null. The other asks for the nodes with a value of some property, names the property by its
attribute, and gives a list. They are worked out apart: one knows under which property identifiers
are stored, the other looks the attribute up among the fields of the type and checks what it finds;
one reads the first row, the other all rows.

Where the identifier keeps its property (`GraphMapper.Catalog.Keeps`), the two requests only differ
in how their results are read (`GraphMapper.Client.request_getByUuid`,
`GraphMapper.Client.request_getByProperty`), and where there is at most one row and it holds a node,
the one reading is the other with the list around its entity left out
(`GraphMapper.Client.read_of_atMostOneNode`). So `GraphMapper.Client.getByUuid_agrees` needs nothing
about the lookups of related nodes: both ways make the same ones, in the same worlds.
-/

namespace GraphMapper

open GraphMapper.Action
open Outcome (bind_eq_ok)

/-- A result of at most one row, which holds a node. -/
inductive Result.AtMostOneNode (result : Result) : Prop where
  /-- There is no row. -/
  | none (isEmpty : result.records = [])
  /-- There is one row, with a node. -/
  | one {record : Record} {properties : Entries} (isOnly : result.records = [record])
    (gives : record.Gives (.map properties))

namespace Client

/-- What comes of a list if its only element is wanted: that element, or null if the list is empty,
or the failure to read it. -/
inductive OnlyElement : Except Failure Value → Except Failure Value → Prop where
  /-- There is one element. -/
  | found (entity : Value) : OnlyElement (.ok entity) (.ok (.list [entity]))
  /-- There is none. -/
  | nothing : OnlyElement (.ok .null) (.ok (.list []))
  /-- The list cannot be read. -/
  | fails (e : Failure) : OnlyElement (.error e) (.error e)

section Requests

variable {c : Catalog} {t : EntityRef} {d : Descriptor}

theorem entityType_of_described (described : c.describeRef t = .ok d) :
    Argument.entityType c (.type (.entity t)) = .ok (t, d) :=
  bind_eq_ok.mpr ⟨t, rfl, bind_eq_ok.mpr ⟨d, described, rfl⟩⟩

/-- The request for the node with an identifier. -/
theorem request_getByUuid (described : c.describeRef t = .ok d) {u : String}
    (given : Text.isBlank u = false) (now : Float) (identifier : String) :
    (Operation.getByUuid (.type (.entity t)) (.text u)).request c now identifier =
      .ok ⟨Wording.getByProperty d.label.text identifierKey, .ofParameters [("value", .text u)],
        .nodeWithRelated t⟩ := by
  exact bind_eq_ok.mpr ⟨u, Argument.uuid_of_not_blank given, bind_eq_ok.mpr
    ⟨(t, d), entityType_of_described described, bind_eq_ok.mpr
      ⟨_, Wording.nodesByProperty_eq d.label.text identifierKey, rfl⟩⟩⟩

/-- The request for the nodes that have a value under the attribute of identifiers, if that keeps
its property: it is the property that was looked up. -/
theorem request_getByProperty (declared : c.Declared) (described : c.describeRef t = .ok d)
    (kept : c.Keeps t "uuid") {value : Value} (given : value.isNull = false) (now : Float)
    (identifier : String) :
    (Operation.getByProperty (.type (.entity t)) (.text "uuid") value).request c now identifier =
      .ok ⟨Wording.getByProperty d.label.text identifierKey, .ofParameters [("value", value)],
        .nodesWithRelated t⟩ := by
  have checked : Argument.propertyValue value = .ok value := by
    rw [Argument.propertyValue, given]
    rfl
  obtain ⟨f, hf, named, keyed⟩ := kept.exists_uuid
  have looked : d.graphKey (.text "uuid") = .text identifierKey := by
    rw [← named, ← keyed]
    exact declared.graphKey_name described hf
  have property : Identifier.require (d.graphKey (.text "uuid")) "property key" =
      .ok ⟨identifierKey, by decide⟩ := by
    rw [looked]
    rfl
  exact bind_eq_ok.mpr ⟨"uuid", rfl, bind_eq_ok.mpr ⟨value, checked,
    bind_eq_ok.mpr ⟨(t, d), entityType_of_described described, bind_eq_ok.mpr ⟨_, property,
      bind_eq_ok.mpr ⟨_, Wording.nodesByProperty_eq d.label.text identifierKey, rfl⟩⟩⟩⟩⟩

end Requests

section Results

variable {σ : Type} [Database σ] {c : Catalog} {t : EntityRef} {result : Result}
  {one many : Request}

/-- If the statement of a read fails, so does the read. -/
theorem perform_of_unanswered {operation : Operation} {type : Value}
    (reads : operation.readType? = some type) {w v : World σ} {request : Request} {e : Failure}
    (requested : operation.request c w.now w.nextIdentifier = .ok request)
    (ran : (execute request.statement request.parameters).perform w = (.error e, v)) :
    (perform c operation).perform w = (.error e, v) := by
  rw [perform, perform_bind_ok (perform_prepare_of_read reads requested), send,
    perform_bind_error ran]

/-- **One row is read as a list is**, with the list left out. -/
theorem read_of_atMostOneNode (single : result.AtMostOneNode)
    (hone : one.reading = .nodeWithRelated t) (hmany : many.reading = .nodesWithRelated t)
    (w : World σ) :
    OnlyElement ((read c one result).perform w).1 ((read c many result).perform w).1 ∧
      ((read c one result).perform w).2 = ((read c many result).perform w).2 := by
  simp only [read, hone, hmany]
  cases single with
  | none isEmpty =>
    rw [Result.firstValue, isEmpty]
    exact ⟨.nothing, rfl⟩
  | @one record properties isOnly gives =>
    have found : (ofOutcome result.firstValue.nodeProperties : Action σ (Option Entries)) =
        pure (some properties) := by
      rw [Result.firstValue, isOnly]
      exact congrArg ofOutcome gives.nodeProperties
    rw [found, pure_bind, isOnly, readNodesWithRelated, propertiesOf_of_gives gives, pure_bind]
    dsimp only [readNodesWithRelated]
    -- both ways, the one row is read by the same action in the same world
    rcases reading : (entityWithRelated c t (.map properties)).perform w with ⟨e | entity, v⟩
    · rw [perform_bind_error (perform_bind_error reading)]
      exact ⟨.fails e, rfl⟩
    · have listed : (do
          let entity ← entityWithRelated c t (.map properties)
          let entities ← pure []
          pure (entity :: entities) : Action σ (List Value)).perform w = (.ok [entity], v) :=
        perform_bind_ok reading
      rw [perform_bind_ok listed]
      exact ⟨.found entity, rfl⟩

end Results

/-- Two operations that **read alike** in a world, one a node and the other a list. -/
structure ReadsAlike {σ : Type} [Database σ] (c : Catalog) (t : EntityRef) (one many : Operation)
    (w : World σ) : Prop where
  /-- They ask for the same, and only read it apart. -/
  requests : ∃ statement parameters,
    one.request c w.now w.nextIdentifier = .ok ⟨statement, parameters, .nodeWithRelated t⟩ ∧
      many.request c w.now w.nextIdentifier = .ok ⟨statement, parameters, .nodesWithRelated t⟩
  /-- They send the same statements, with the same parameters, in the same order. -/
  sent : (perform c one).statements w = (perform c many).statements w
  /-- They leave the same world. -/
  left : ((perform c one).perform w).2 = ((perform c many).perform w).2
  /-- The one gives the only element of what the other gives. -/
  outcome : OnlyElement ((perform c one).perform w).1 ((perform c many).perform w).1

/-- **The two ways to read by identifier agree.** Take a type that is fit for use and keeps the
identifier's field, an identifier that is not blank, and a world in which the statement that looks
for it is answered, if it is, by at most one row, with a node in it.

Then both ways ask for the same, send the same, and leave the same world; and the one gives the only
element of the list that the other gives, or null if the list is empty, or both fail alike. -/
theorem getByUuid_agrees {σ : Type} [Database σ] {c : Catalog} {t : EntityRef} {d : Descriptor}
    (declared : c.Declared) (described : c.describeRef t = .ok d) (kept : c.Keeps t "uuid")
    {u : String} (given : Text.isBlank u = false) {w : World σ}
    (single : ∀ result v,
      (execute (Wording.getByProperty d.label.text identifierKey)
        (.ofParameters [("value", .text u)])).perform w = (.ok result, v) → result.AtMostOneNode) :
    ReadsAlike c t (.getByUuid (.type (.entity t)) (.text u))
      (.getByProperty (.type (.entity t)) (.text "uuid") (.text u)) w := by
  have present : (Value.text u).isNull = false := rfl
  have hone := request_getByUuid described given w.now w.nextIdentifier
  have hmany := request_getByProperty declared described kept present w.now w.nextIdentifier
  obtain ⟨outcome, left⟩ :
      OnlyElement ((perform c (.getByUuid (.type (.entity t)) (.text u))).perform w).1
          ((perform c (.getByProperty (.type (.entity t)) (.text "uuid") (.text u))).perform w).1 ∧
        ((perform c (.getByUuid (.type (.entity t)) (.text u))).perform w).2 =
          ((perform c (.getByProperty (.type (.entity t)) (.text "uuid") (.text u))).perform
            w).2 := by
    rcases ran : (execute (Wording.getByProperty d.label.text identifierKey)
      (.ofParameters [("value", .text u)])).perform w with ⟨e | result, v⟩
    · rw [perform_of_unanswered rfl hone ran, perform_of_unanswered rfl hmany ran]
      exact ⟨.fails e, rfl⟩
    · rw [perform_of_answered rfl hone ran, perform_of_answered rfl hmany ran]
      exact read_of_atMostOneNode (single result v ran) rfl rfl v
  -- What was sent is what the trace has gained, and both leave the same trace.
  have sent : (perform c (.getByUuid (.type (.entity t)) (.text u))).statements w =
      (perform c (.getByProperty (.type (.entity t)) (.text "uuid") (.text u))).statements w := by
    rw [statements, statements, exchanges, exchanges, left]
  exact ⟨⟨_, _, hone, hmany⟩, sent, left, outcome⟩

end Client

namespace Example

/-- A user and a friend are about to be read. -/
def friendly : World Scripted := connected [oneUser, oneUser]

/-- Reading the user with an identifier. -/
def findUser : Operation := .getByUuid userType (.text "u1")

/-- Reading the list of users with this identifier. -/
def listUser : Operation := .getByProperty userType (.text "uuid") (.text "u1")

end Example

/-- A user is found both ways, and a friend is looked up. -/
theorem Client.getByUuid_agrees_users : ∃ (entity : Value) (v : World Scripted),
    (perform Example.users Example.findUser).perform Example.friendly = (.ok entity, v) ∧
      (perform Example.users Example.listUser).perform Example.friendly =
        (.ok (.list [entity]), v) ∧ v.runs.length = 2 := by
  obtain ⟨d, described⟩ : ∃ d, Example.users.describeRef Example.user.ref = .ok d := ⟨_, rfl⟩
  have kept : Example.users.Keeps Example.user.ref "uuid" :=
    ⟨_, List.mem_cons_self, rfl, List.mem_append_left _ List.mem_cons_self⟩
  have single : ∀ result v,
      (execute (Wording.getByProperty d.label.text identifierKey)
        (.ofParameters [("value", .text "u1")])).perform Example.friendly = (.ok result, v) →
      result.AtMostOneNode := by
    intro result v ran
    obtain rfl := Except.ok.inj described
    cases ran
    exact .one rfl (.node rfl)
  have alike : ReadsAlike Example.users Example.user.ref Example.findUser Example.listUser
      Example.friendly :=
    getByUuid_agrees Example.declared_users described kept (u := "u1") (by decide) single
  obtain ⟨-, -, left, outcome⟩ := alike
  have found : (((perform Example.users Example.findUser).perform
      Example.friendly).1.toOption.bind Value.entityType?).isSome = true := by decide +kernel
  have count : ((perform Example.users Example.findUser).perform
      Example.friendly).2.runs.length = 2 := by decide +kernel
  rcases one : (perform Example.users Example.findUser).perform Example.friendly with ⟨first, v⟩
  rcases many : (perform Example.users Example.listUser).perform Example.friendly with ⟨all, v'⟩
  rw [one] at left outcome found count
  rw [many] at left outcome
  obtain rfl : v = v' := left
  cases outcome with
  | found entity => exact ⟨entity, v, rfl, rfl, count⟩
  | nothing => cases found
  | fails => cases found

end GraphMapper
