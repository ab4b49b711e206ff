import GraphMapper.Value.Display

/-!
# Failures

Everything that can go wrong is a **cause**: an invalid identifier, a type that cannot be
described, a write without effect, a fault of the database driver. The wording of each
cause is given once, by `Failure.message`; nothing else in the library builds a message.
-/

namespace GraphMapper

/-! ### Validation issues -/

/-- One step from a value to a part of it: into the entry of a key, or to the item at an
index. -/
inductive Step where
  /-- Into the entry of a key. -/
  | key (name : String)
  /-- To the item, or the integer key, of this number. -/
  | index (i : Int)
  deriving DecidableEq, Repr

/-- What is wrong with a part of an input. -/
inductive Complaint where
  /-- A required entry is not there. -/
  | missing
  /-- A text is wanted. -/
  | notText
  /-- A text is shorter than allowed. -/
  | tooShort
  /-- A text is longer than allowed. -/
  | tooLong
  /-- Bytes are fewer than allowed. -/
  | tooFewBytes
  /-- Bytes are more than allowed. -/
  | tooManyBytes
  /-- An integer is wanted, and this cannot be read as one. -/
  | notInteger
  /-- A text does not write an integer. -/
  | unreadableInteger
  /-- An integer is wanted, and this number has a fraction. -/
  | fractional
  /-- An integer is wanted, and this number is not finite. -/
  | notFinite
  /-- An integer is wanted, and this number is too large to be read as one. -/
  | tooLarge
  /-- A float is wanted, and this cannot be read as one. -/
  | notFloat
  /-- A text does not write a float. -/
  | unreadableFloat
  /-- A truth value is wanted, and this cannot be read as one. -/
  | notTruth
  /-- A text or whole number does not stand for a truth value. -/
  | unreadableTruth
  /-- A collection has fewer items than allowed. -/
  | tooFew
  /-- A collection has more items than allowed. -/
  | tooMany
  /-- A list is wanted. -/
  | notList
  /-- A value of some class is wanted. -/
  | notOfClass
  /-- A sequence is wanted, and a text does not count as one. -/
  | textAsSequence
  /-- A tuple is wanted. -/
  | notTuple
  /-- A set is wanted. -/
  | notSet
  /-- A frozen set is wanted. -/
  | notFrozenSet
  /-- An item of a set cannot be one. -/
  | notHashable
  /-- Something to go through one by one is wanted. -/
  | notIterable
  /-- A map is wanted. -/
  | notMap
  /-- An instance of an entity type, or a map for one, is wanted. -/
  | notInstance
  /-- Instances are nested too deeply. -/
  | tooDeep
  /-- None of the values of an enumeration. -/
  | notMember
  /-- Bytes are wanted. -/
  | notBytes
  /-- Null is wanted. -/
  | notNull
  /-- The value is not above its bound. -/
  | notAbove
  /-- The value is below its bound. -/
  | below
  /-- The value is not below its bound. -/
  | notBelow
  /-- The value is above its bound. -/
  | above
  /-- The attribute keeps the value it was made with. -/
  | frozen
  /-- The type has no such attribute. -/
  | unknownAttribute
  deriving DecidableEq, Repr

/-- The code a complaint is reported under. -/
def Complaint.code : Complaint → String
  | missing => "missing"
  | notText => "string_type"
  | tooShort => "string_too_short"
  | tooLong => "string_too_long"
  | tooFewBytes => "bytes_too_short"
  | tooManyBytes => "bytes_too_long"
  | notInteger => "int_type"
  | unreadableInteger => "int_parsing"
  | fractional => "int_from_float"
  | notFinite => "finite_number"
  | tooLarge => "int_parsing_size"
  | notFloat => "float_type"
  | unreadableFloat => "float_parsing"
  | notTruth => "bool_type"
  | unreadableTruth => "bool_parsing"
  | tooFew => "too_short"
  | tooMany => "too_long"
  | notList => "list_type"
  | notOfClass => "is_instance_of"
  | textAsSequence => "sequence_str"
  | notTuple => "tuple_type"
  | notSet => "set_type"
  | notFrozenSet => "frozen_set_type"
  | notHashable => "set_item_not_hashable"
  | notIterable => "iterable_type"
  | notMap => "dict_type"
  | notInstance => "model_type"
  | tooDeep => "recursion_depth_exceeded"
  | notMember => "enum"
  | notBytes => "bytes_type"
  | notNull => "none_required"
  | notAbove => "greater_than"
  | below => "greater_than_equal"
  | notBelow => "less_than"
  | above => "less_than_equal"
  | frozen => "frozen_field"
  | unknownAttribute => "no_such_attribute"

/-- A complaint and the place it is about. -/
structure Issue where
  /-- The way from the input to the part. -/
  place : List Step
  /-- What is wrong there. -/
  complaint : Complaint
  deriving DecidableEq, Repr

/-- The same issue, seen from one step further out. -/
def Issue.under (step : Step) (i : Issue) : Issue := { i with place := step :: i.place }

/-! ### Causes -/

/-- Why a type cannot be described. -/
inductive ConfigurationProblem where
  /-- It is no entity type. -/
  | notAnEntityType
  /-- A field names a type that is not declared. -/
  | unresolved (name : String)
  /-- Its label is no identifier. -/
  | badLabel (label : Value)
  /-- The graph key of a stored field is no identifier. -/
  | badKey (field key : String)
  /-- A relationship field does not lead to an entity type. -/
  | badRelationship (field annotation : String)

/-- What a transaction refuses to do. -/
inductive TransactionProblem where
  /-- To begin while it is active. -/
  | alreadyActive
  /-- To run a statement while it is not active. -/
  | notActive
  /-- To commit while it is not active. -/
  | nothingToCommit
  /-- To roll back while it is not active. -/
  | nothingToRollBack
  deriving DecidableEq, Repr

/-- A value used in a way its kind does not allow. -/
inductive Misuse where
  /-- An operation applied to a value of a kind it does not take. -/
  | wrongKind
  /-- A feature asked of a value that does not have it. -/
  | missingFeature
  /-- The first column of a row without columns. -/
  | noColumn
  /-- A list of pairs in which the element at `index` has `length` parts. -/
  | notAPair (index length : Nat)
  /-- An instance asked of a type whose declaration is not complete. -/
  | incompleteType (typeName missing : String)
  /-- A bound that is none for the type of its field. -/
  | malformedBound
  /-- A field with a name that no field can have. -/
  | reservedName
  deriving DecidableEq, Repr

/-- A fault raised by the database driver: its kind and its text. -/
structure Fault where
  /-- The kind of the fault, in the driver's own words. -/
  kind : String
  /-- The text of the fault. -/
  message : String
  deriving DecidableEq, Repr

/-- Why an operation failed. -/
inductive Failure where
  /-- A value that cannot stand in the text of a statement as a `kind`. -/
  | invalidIdentifier (identifier : Value) (kind : String)
  /-- A value that names no direction. -/
  | invalidDirection (direction : Value)
  /-- A template given too few or too many substitutions. -/
  | template (name : String) (missing unknown : List String)
  /-- A type that cannot be described. -/
  | configuration (typeName : String) (problem : ConfigurationProblem)
  /-- A type other than an entity type given a label. -/
  | notAnEntityType
  /-- An argument refused before anything was sent. -/
  | argument (name complaint : String)
  /-- A creation that created no node. -/
  | nodeNotCreated (label statement : String)
  /-- A label that was not added. -/
  | labelNotAdded (label node statement : String)
  /-- A transaction asked for what its state does not allow. -/
  | transaction (problem : TransactionProblem)
  /-- An input that does not validate. -/
  | validation (issues : List Issue)
  /-- A value that is neither a node nor a property map. -/
  | notANode (kind : String)
  /-- A connection that could not be opened. -/
  | connectionFailed (uri reason : String)
  /-- An engine used before it is connected. -/
  | notConnected (uri : String)
  /-- A fault of the database driver, passed on unchanged. -/
  | fault (fault : Fault)
  /-- A value misused. -/
  | misuse (misuse : Misuse)

/-! ### Wording -/

/-- What is said about a configuration problem. -/
def ConfigurationProblem.message : ConfigurationProblem → String
  | notAnEntityType => "not a " ++ baseTypeName ++ " subclass"
  | unresolved name => "unresolved annotation '" ++ name ++ "'"
  | badLabel label => "Invalid label: " ++ label.written
  | badKey field key =>
    "field '" ++ field ++ "': Invalid property key: " ++ (Value.text key).written
  | badRelationship field _ =>
    "relationship field '" ++ field ++ "' must be typed as a " ++ baseTypeName
      ++ " subclass or a collection of one"

/-- What is added to the message of a configuration problem. -/
def ConfigurationProblem.details : ConfigurationProblem → Entries
  | badRelationship _ annotation => [(.text "annotation", .text annotation)]
  | _ => []

/-- What is said when a transaction refuses. -/
def TransactionProblem.message : TransactionProblem → String
  | alreadyActive => "Transaction already active"
  | notActive => "Transaction is not active"
  | nothingToCommit => "No active transaction to commit"
  | nothingToRollBack => "No active transaction to roll back"

/-- What is said about a misuse; most have no wording of their own. -/
def Misuse.message : Misuse → String
  | notAPair index length =>
    "dictionary update sequence element #" ++ toString index ++ " has length "
      ++ toString length ++ "; 2 is required"
  | incompleteType typeName missing =>
    "`" ++ typeName ++ "` is not fully defined; you should define `" ++ missing
      ++ "`, then call `" ++ typeName ++ ".model_rebuild()`."
  | _ => ""

/-- A message followed by its details, if there are any. -/
def withDetails (message : String) (details : Value) : String :=
  if details.truthy then message ++ " - Details: " ++ details.display else message

/-- The wording of a failure. -/
def Failure.message : Failure → String
  | invalidIdentifier identifier kind => "Invalid " ++ kind ++ ": " ++ identifier.written
  | invalidDirection direction => direction.written ++ " is not a valid Direction"
  | template name missing unknown =>
    withDetails ("Cannot render template " ++ name)
      (.map [(.text "missing", .list (missing.map .text)),
        (.text "unknown", .list (unknown.map .text))])
  | configuration typeName problem =>
    withDetails (typeName ++ ": " ++ problem.message) (.map problem.details)
  | notAnEntityType =>
    "@graph_entity can only be applied to " ++ baseTypeName ++ " subclasses"
  | argument _ complaint => complaint
  | nodeNotCreated label _ => "No " ++ label ++ " node was created"
  | labelNotAdded label node _ => "Label " ++ label ++ " was not added to node " ++ node
  | transaction problem => problem.message
  | validation _ => ""
  | notANode kind => "Expected a node or a property map, got " ++ kind
  | connectionFailed uri reason => "Failed to connect to Neo4j at " ++ uri ++ ": " ++ reason
  | notConnected uri =>
    "GraphEngine for " ++ uri ++ " is not connected. Call `await engine.connect()` first."
  | fault f => f.message
  | misuse m => m.message

end GraphMapper
