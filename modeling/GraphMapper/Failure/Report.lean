import GraphMapper.Failure

/-!
# Error reports

Failures of the library itself are reported under a small hierarchy of **kinds**, so that
a caller can tell a rejected argument from a write without effect. A report of any kind
can also be made by hand, from a list of positional parts; the message of some kinds is
then composed from those parts.
-/

namespace GraphMapper

/-- The kinds under which the library reports its own failures. -/
inductive ReportKind where
  /-- Any failure of the library. -/
  | general
  /-- A type that cannot be described. -/
  | entityConfiguration
  /-- A template given the wrong substitutions. -/
  | queryTemplate
  /-- A value that cannot be an identifier. -/
  | invalidIdentifier
  /-- A rejected argument. -/
  | argument
  /-- A write that changed nothing. -/
  | zeroEffectWrite
  /-- A creation that created no node. -/
  | nodeNotCreated
  /-- A label that was not added. -/
  | labelNotAdded
  /-- A transaction that is not in the state asked for. -/
  | transaction
  deriving DecidableEq, Repr

namespace ReportKind

/-- All kinds. -/
def all : List ReportKind :=
  [general, entityConfiguration, queryTemplate, invalidIdentifier, argument, zeroEffectWrite,
    nodeNotCreated, labelNotAdded, transaction]

theorem mem_all (k : ReportKind) : k ∈ all := by cases k <;> decide

/-- The kind one step more general. -/
def parent? : ReportKind → Option ReportKind
  | general => none
  | nodeNotCreated | labelNotAdded => some zeroEffectWrite
  | _ => some general

/-- A kind and all that are more general. -/
def lineage (k : ReportKind) : List ReportKind :=
  match k.parent? with
  | none => [k]
  | some p => match p.parent? with
    | none => [k, p]
    | some q => [k, p, q]

/-- Whether a report of this kind is about the value of an argument. -/
def concernsValue : ReportKind → Bool
  | invalidIdentifier | argument => true
  | _ => false

end ReportKind

/-- The kind under which a failure is reported, if it is the library's own. -/
def Failure.reportKind? : Failure → Option ReportKind
  | invalidIdentifier _ _ => some .invalidIdentifier
  | template _ _ _ => some .queryTemplate
  | configuration _ _ => some .entityConfiguration
  | argument _ _ => some .argument
  | nodeNotCreated _ _ => some .nodeNotCreated
  | labelNotAdded _ _ _ => some .labelNotAdded
  | transaction _ => some .transaction
  | _ => none

/-- A report made by hand. -/
structure Report where
  /-- Its kind. -/
  kind : ReportKind
  /-- Its message. -/
  message : Value
  /-- Its details, a map as a rule. -/
  details : Value
  /-- What else it carries, by name. -/
  facts : List (String × Value)

namespace Report

/-- A value, or a stand-in where it is absent or empty. -/
def orElse (v : Option Value) (standIn : Value) : Value :=
  match v with
  | some v => if v.truthy then v else standIn
  | none => standIn

/-- The report of a kind with positional parts; a kind has room for only so many. -/
def ofParts (kind : ReportKind) (parts : List Value) : Except Misuse Report :=
  let noDetails := Value.map []
  match kind, parts with
  | .general, message :: rest | .queryTemplate, message :: rest
  | .transaction, message :: rest =>
    if 1 < rest.length then .error .wrongKind
    else .ok ⟨kind, message, orElse rest[0]? noDetails, []⟩
  | .zeroEffectWrite, message :: rest | .nodeNotCreated, message :: rest
  | .labelNotAdded, message :: rest =>
    if 2 < rest.length then .error .wrongKind
    else .ok ⟨kind, message, orElse rest[1]? noDetails, [("statement", rest[0]?.getD .null)]⟩
  | .entityConfiguration, type :: message :: rest =>
    match type with
    | .type t =>
      if 1 < rest.length then .error .wrongKind
      else .ok ⟨kind, .text (t.name ++ ": " ++ message.display), orElse rest[0]? noDetails, []⟩
    | _ => .error (if 1 < rest.length then .wrongKind else .missingFeature)
  | .invalidIdentifier, identifier :: rest =>
    if 1 < rest.length then .error .wrongKind
    else
      let role := rest[0]?.getD (.text "identifier")
      .ok ⟨kind, .text ("Invalid " ++ role.display ++ ": " ++ identifier.written), noDetails,
        [("identifier", identifier), ("kind", role)]⟩
  | .argument, name :: rest =>
    if 1 < rest.length then .error .wrongKind
    else .ok ⟨kind, orElse rest[0]? (.text ("Invalid argument: " ++ name.display)), noDetails,
        [("argument", name)]⟩
  | _, _ => .error .wrongKind

/-- The text of a report: its message, followed by its details if there are any. A message
that is no text can only be shown together with details. -/
def text (r : Report) : Except Misuse String :=
  match r.message with
  | .text message => .ok (withDetails message r.details)
  | message => if r.details.truthy then .ok (withDetails message.display r.details)
    else .error .wrongKind

end Report

end GraphMapper
