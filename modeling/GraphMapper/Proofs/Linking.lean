import GraphMapper.Proofs.Sending
import GraphMapper.Proofs.Statement.Edges

/-!
# One edge in all statements

An edge between two nodes is made, made unless it is there, removed, and followed when related nodes
are looked up, each by a statement of its own. Some of these statements name the nodes first and
draw the arrow later, some do both at once, and one is not even put together from the pieces of an
arrow. All of them mean the same edge: the node that declares the relationship stands on the left,
the other one on the right, and what stands between them is the pattern of the relationship
(`GraphMapper.Client.edges_agree`). So what is made for a relationship and two nodes is what is
removed for them, and what is followed from the first one.

Whatever the statement, the proof is the same: its wording is one of nodes that are written one
after the other, and these are read back as they were written. Names and labels are identifiers, and
clauses are made of them, so there is no parenthesis or bracket in them.
-/

namespace GraphMapper

open Statement Outcome

/-! ### Statements that mean one edge -/

namespace Statement

/-- A statement, sent with its parameters, goes along one edge and no other: from a node of which
some properties are given, through what stands between, to a node of which others are. -/
def GoesAlong (sent : String × Value) (left : Entries) (between : String) (right : Entries) :
    Prop :=
  ∃ parameters, sent.2 = .ofParameters parameters ∧
    edges sent.1 parameters = [⟨left, between, right⟩]

/-- A statement, sent with its parameters, is about an edge of the graph. -/
def Concerns (sent : String × Value) (e : Edge) : Prop :=
  ∃ parameters, sent.2 = .ofParameters parameters ∧ ∃ p ∈ edges sent.1 parameters, p.Admits e

theorem GoesAlong.concerns_iff {sent : String × Value} {left right : Entries} {arrow : String}
    (h : GoesAlong sent left arrow right) {e : Edge} :
    Concerns sent e ↔ EdgePattern.Admits ⟨left, arrow, right⟩ e := by
  obtain ⟨parameters, hp, read⟩ := h
  constructor
  · rintro ⟨parameters', hp', p, hm, fits⟩
    have same : parameters' = parameters := by
      rw [hp] at hp'
      exact (Value.ofNames_injective (Value.map.inj hp')).symm
    rw [same, read, List.mem_singleton] at hm
    exact hm ▸ fits
  · intro fits
    exact ⟨parameters, hp, _, by rw [read]; exact List.mem_singleton_self _, fits⟩

/-- A statement with the pattern of a relationship between two nodes is about its edge. -/
theorem GoesAlong.concerns_iff_edge {sent : String × Value} {rel : Relationship} {a b : Value}
    (h : GoesAlong sent (identified a) rel.pattern (identified b)) {e : Edge} :
    Concerns sent e ↔ e = rel.edge a b := by
  rw [← rel.patternWith_empty] at h
  exact h.concerns_iff.trans (rel.admits_iff (.inl rfl))

end Statement

/-! ### What is between the nodes -/

namespace Relationship

variable (r : Relationship)

/-- No parenthesis is opened in an arrow, unless it is opened behind the name. -/
theorem unopened_patternWith {behind : String} (h : '(' ∉ behind.toList) :
    '(' ∉ (r.patternWith behind).toList := by
  have name : '(' ∉ r.name.text.toList := r.name.notMem rfl (by decide)
  rcases r with ⟨_, _ | _⟩ <;> simp [patternWith, fromPart, toPart, h, name]

/-- There are brackets in an arrow. -/
theorem bracket_mem_patternWith (behind : String) : '[' ∈ (r.patternWith behind).toList := by
  simp [patternWith]

theorem marks_pattern : '(' ∉ r.pattern.toList ∧ '[' ∈ r.pattern.toList := by
  rw [← r.patternWith_empty]
  exact ⟨r.unopened_patternWith (by simp), r.bracket_mem_patternWith ""⟩

end Relationship

/-! ### The edge of each wording -/

namespace Wording

variable {parameters : Parameters} {a b : Value}

/-- The nodes at the two ends of an edge that is written: both are looked for first, and the arrow
is drawn behind a verb. -/
def linked (verb arrow : String) : List NodeText :=
  [⟨"from\x7bUuid:$uuidFrom\x7d", ","⟩, ⟨"to\x7bUuid:$uuidTo\x7d", verb⟩, ⟨"from", arrow⟩,
    ⟨"to", " RETURN r"⟩]

/-- The nodes at the two ends of an edge that is removed. -/
def unlinked (arrow : String) : List NodeText :=
  [⟨"\x7bUuid:$uuidIncoming\x7d", arrow⟩, ⟨"\x7bUuid:$uuidOutgoing\x7d", " DELETE r"⟩]

/-- A node with a variable, a label and conditions. -/
def labelled (var label conditions : String) : String :=
  var ++ (":" ++ (label ++ ("\x7b" ++ (conditions ++ "\x7d"))))

/-- The nodes at the two ends of an edge that is followed. -/
def followed (label arrow relatedLabel : String) : List NodeText :=
  [⟨labelled "n" label "Uuid:$uuid,IsDeleted:false", arrow⟩,
    ⟨labelled "rNode" relatedLabel "IsDeleted:false", " RETURN rNode"⟩]

theorem createRelationship_eq_written (r : Relationship) (clause : String) :
    createRelationship r clause = written "MATCH " (linked " CREATE " (r.patternWith clause)) := by
  apply String.ext
  simp [createRelationship, ends, written, linked, NodeText.text, Relationship.patternWith]

theorem mergeRelationship_eq_written (r : Relationship) :
    mergeRelationship r = written "MATCH " (linked " MERGE " r.pattern) := by
  apply String.ext
  simp [mergeRelationship, ends, written, linked, NodeText.text, Relationship.pattern]

theorem dropRelationship_eq_written (r : Relationship) :
    dropRelationship r = written "MATCH " (unlinked r.pattern) := by
  apply String.ext
  unfold dropRelationship
  simp [written, unlinked, NodeText.text, Relationship.pattern]

theorem lookup_eq_written (label : String) (r : Relationship) (relatedLabel : String) :
    lookup label r relatedLabel = written "MATCH " (followed label r.pattern relatedLabel) := by
  apply String.ext
  simp [lookup, getByProperties, written, followed, labelled, NodeText.text, Relationship.pattern,
    Relationship.relatedNodePattern, relatedVariable, deletedKey]

/-- The arrow is the only text between nodes with a bracket in it, and the nodes beside it are those
that were looked for. -/
theorem edges_linked {verb arrow : String} (hv : '(' ∉ verb.toList ∧ '[' ∉ verb.toList)
    (ha : '(' ∉ arrow.toList ∧ '[' ∈ arrow.toList)
    (left : parameters.lookup "uuidFrom" = some a) (right : parameters.lookup "uuidTo" = some b) :
    edges (written "MATCH " (linked verb arrow)) parameters =
      [⟨identified a, arrow, identified b⟩] := by
  have clear : ∀ n ∈ linked verb arrow, n.Clear := by
    simp only [linked, List.forall_mem_cons]
    exact ⟨.of_notMem (by decide) (by decide), .of_notMem (by decide) hv.1,
      .of_notMem (by decide) ha.1, .of_notMem (by decide) (by decide), by simp⟩
  -- A variable is told apart from the other one in both places.
  have same : sameNode "from" "from\x7bUuid:$uuidFrom\x7d" = true ∧
      sameNode "from" "to\x7bUuid:$uuidTo\x7d" = false ∧ sameNode "from" "to" = false ∧
      sameNode "to" "to\x7bUuid:$uuidTo\x7d" = true ∧
      sameNode "to" "from\x7bUuid:$uuidFrom\x7d" = false ∧ sameNode "to" "from" = false := by
    decide
  have source : Clause.decoded (between '\x7b' '\x7d' "from\x7bUuid:$uuidFrom\x7d") parameters =
      identified a := decoded_identified (by decide) left
  have target : Clause.decoded (between '\x7b' '\x7d' "to\x7bUuid:$uuidTo\x7d") parameters =
      identified b := decoded_identified (by decide) right
  have silent : Clause.decoded (between '\x7b' '\x7d' "from") parameters = [] ∧
      Clause.decoded (between '\x7b' '\x7d' "to") parameters = [] :=
    ⟨decoded_silent (by decide) parameters, decoded_silent (by decide) parameters⟩
  rw [edges, nodes_written (by decide) clear, edgesAmong]
  simp [linked, boundTo, hv.2, ha.2, same, source, target, silent]

theorem edges_unlinked {arrow : String} (ha : '(' ∉ arrow.toList ∧ '[' ∈ arrow.toList)
    (left : parameters.lookup "uuidIncoming" = some a)
    (right : parameters.lookup "uuidOutgoing" = some b) :
    edges (written "MATCH " (unlinked arrow)) parameters =
      [⟨identified a, arrow, identified b⟩] := by
  have clear : ∀ n ∈ unlinked arrow, n.Clear := by
    simp only [unlinked, List.forall_mem_cons]
    exact ⟨.of_notMem (by decide) ha.1, .of_notMem (by decide) (by decide), by simp⟩
  have same : sameNode "\x7bUuid:$uuidIncoming\x7d" "\x7bUuid:$uuidIncoming\x7d" = true ∧
      sameNode "\x7bUuid:$uuidIncoming\x7d" "\x7bUuid:$uuidOutgoing\x7d" = false ∧
      sameNode "\x7bUuid:$uuidOutgoing\x7d" "\x7bUuid:$uuidIncoming\x7d" = false ∧
      sameNode "\x7bUuid:$uuidOutgoing\x7d" "\x7bUuid:$uuidOutgoing\x7d" = true := by decide
  have source : Clause.decoded (between '\x7b' '\x7d' "\x7bUuid:$uuidIncoming\x7d") parameters =
      identified a := decoded_identified (by decide) left
  have target : Clause.decoded (between '\x7b' '\x7d' "\x7bUuid:$uuidOutgoing\x7d") parameters =
      identified b := decoded_identified (by decide) right
  rw [edges, nodes_written (by decide) clear, edgesAmong]
  simp [unlinked, boundTo, ha.2, same, source, target]

/-! A label is an identifier, so that it holds none of the marks of a pattern. -/

section Labelled

variable {var conditions : String} (label : Identifier)

theorem variableOf_labelled (hv : ∀ c ∈ var.toList, (c ≠ ':' && c ≠ '\x7b') = true) :
    variableOf (labelled var label.text conditions) = var := by
  have chars : (labelled var label.text conditions).toList = var.toList ++
      ':' :: (label.text ++ ("\x7b" ++ (conditions ++ "\x7d"))).toList := by
    simp [labelled]
  rw [variableOf, chars, takeWhile_append hv (by simp), String.ofList_toList]

theorem between_labelled (hv : '\x7b' ∉ var.toList) (hc : '\x7d' ∉ conditions.toList) :
    between '\x7b' '\x7d' (labelled var label.text conditions) = conditions := by
  have chars : (labelled var label.text conditions).toList = (var ++ (":" ++ label.text)).toList ++
      '\x7b' :: (conditions.toList ++ '\x7d' :: []) := by
    simp [labelled]
  have unopened : '\x7b' ∉ label.text.toList := label.notMem rfl (by decide)
  exact between_eq chars (by simp [hv, unopened]) hc

theorem notMem_labelled {c : Char} (hc : isIdentifierChar c = false) (hn : c ≠ '\n')
    (hv : c ∉ (var ++ ":\x7b\x7d").toList) (hs : c ∉ conditions.toList) :
    c ∉ (labelled var label.text conditions).toList := by
  have plain : c ∉ label.text.toList := label.notMem hc hn
  simp only [String.toList_append, List.mem_append, not_or] at hv
  simp_all [labelled]

end Labelled

/-- The node that an edge is followed from is the first one, and of the other one no property is
given. -/
theorem edges_followed (label relatedLabel : Identifier) {arrow : String}
    (ha : '(' ∉ arrow.toList ∧ '[' ∈ arrow.toList)
    (root : parameters.lookup Related.rootParameter = some a) :
    edges (written "MATCH " (followed label.text arrow relatedLabel.text)) parameters =
      [⟨identified a, arrow, []⟩] := by
  have clear : ∀ n ∈ followed label.text arrow relatedLabel.text, n.Clear := by
    simp only [followed, List.forall_mem_cons]
    refine ⟨.of_notMem ⟨?_, ?_⟩ ha.1, .of_notMem ⟨?_, ?_⟩ (by decide), by simp⟩
    all_goals exact notMem_labelled _ rfl (by decide) (by decide) (by decide)
  have same : sameNode (labelled "n" label.text "Uuid:$uuid,IsDeleted:false")
        (labelled "rNode" relatedLabel.text "IsDeleted:false") = false ∧
      sameNode (labelled "rNode" relatedLabel.text "IsDeleted:false")
        (labelled "n" label.text "Uuid:$uuid,IsDeleted:false") = false := by
    simp [sameNode, variableOf_labelled]
  have source : Clause.decoded (between '\x7b' '\x7d'
      (labelled "n" label.text "Uuid:$uuid,IsDeleted:false")) parameters = identified a := by
    rw [between_labelled label (by decide) (by decide)]
    exact decoded_identified (by decide) root
  have target : Clause.decoded (between '\x7b' '\x7d'
      (labelled "rNode" relatedLabel.text "IsDeleted:false")) parameters = [] := by
    rw [between_labelled relatedLabel (by decide) (by decide)]
    exact decoded_silent (by decide) parameters
  rw [edges, nodes_written (by decide) clear, edgesAmong]
  simp [followed, boundTo, ha.2, sameNode_self, same, source, target]

end Wording

/-! ### The edge of each request -/

namespace Request

variable {r : Request} {rel : Relationship} {a b : String} {properties : Value} {clause : Clause}

/-- Properties of an edge are in braces. -/
theorem closesName_braced (clause : Clause) : Relationship.ClosesName (braced clause) := by
  unfold braced
  split
  · exact .inl rfl
  · exact .inr (by simp)

theorem braced_of_not_truthy (h : edgeClause properties = .ok clause)
    (none : properties.truthy = false) : braced clause = "" := by
  obtain ⟨values, given, -, rfl⟩ := edgeClause_eq_ok h
  obtain rfl : values = [] := by simpa [none, Value.ofNames] using given.symm
  rfl

theorem unopened_braced (h : edgeClause properties = .ok clause) :
    '(' ∉ (braced clause).toList := by
  obtain ⟨values, -, named, rfl⟩ := edgeClause_eq_ok h
  have inner : '(' ∉ (Clause.ofValues .condition relationshipPrefix values).text.toList :=
    Clause.notMem_text_ofValues named (by decide)
  unfold braced
  split
  · simp
  · simpa using inner

/-- **No property of an edge is bound to the parameter of a node**: its parameters have a prefix
that those of the nodes do not have. -/
theorem notMem_keys_edgeClause (h : edgeClause properties = .ok clause) :
    ∀ name ∈ Assoc.keys clause.parameters, name ∉ ["uuidFrom", "uuidTo"] := by
  obtain ⟨values, -, -, rfl⟩ := edgeClause_eq_ok h
  intro name hname
  obtain ⟨key, -, rfl⟩ := Clause.mem_keys_parameters_ofValues.mp hname
  have begins : (relationshipPrefix ++ key).toList = 'r' :: '_' :: key.toList := by
    simp [relationshipPrefix]
  intro mem
  rcases List.mem_cons.mp mem with same | mem
  · rw [same] at begins
    cases begins
  · rw [List.mem_singleton.mp mem] at begins
    cases begins

theorem goesAlong_createRelationship
    (h : createRelationship (.text a) (.text b) (some rel) properties = .ok r) :
    ∃ clause, edgeClause properties = .ok clause ∧
      r.parameters = .ofParameters
        ([("uuidFrom", .text a), ("uuidTo", .text b)] ++ clause.parameters) ∧
      GoesAlong (r.statement, r.parameters) (identified (.text a))
        (rel.patternWith (braced clause)) (identified (.text b)) := by
  obtain ⟨_, _, _, clause, ⟨⟩, ⟨⟩, ⟨⟩, made, rfl⟩ := exists_edgeClause h
  have kept : Assoc.update [("uuidFrom", .text a), ("uuidTo", .text b)] clause.parameters =
      [("uuidFrom", .text a), ("uuidTo", .text b)] ++ clause.parameters :=
    Assoc.update_of_disjoint clause.nodup_keys_parameters (notMem_keys_edgeClause made)
  refine ⟨clause, made, by rw [kept], _, rfl, ?_⟩
  rw [Wording.createRelationship_eq_written, kept]
  exact Wording.edges_linked (by decide)
    ⟨rel.unopened_patternWith (unopened_braced made), rel.bracket_mem_patternWith _⟩ rfl rfl

theorem goesAlong_mergeRelationship
    (h : mergeRelationship (.text a) (.text b) (some rel) = .ok r) :
    GoesAlong (r.statement, r.parameters) (identified (.text a)) rel.pattern
      (identified (.text b)) := by
  obtain ⟨_, _, _, ⟨⟩, ⟨⟩, ⟨⟩, rfl⟩ := mergeRelationship_eq_ok h
  refine ⟨_, rfl, ?_⟩
  rw [Wording.mergeRelationship_eq_written]
  exact Wording.edges_linked (by decide) rel.marks_pattern rfl rfl

theorem goesAlong_dropRelationship
    (h : dropRelationship (.text a) (.text b) (some rel) = .ok r) :
    GoesAlong (r.statement, r.parameters) (identified (.text a)) rel.pattern
      (identified (.text b)) := by
  obtain ⟨_, _, _, ⟨⟩, ⟨⟩, ⟨⟩, rfl⟩ := dropRelationship_eq_ok h
  refine ⟨_, rfl, ?_⟩
  rw [Wording.dropRelationship_eq_written]
  exact Wording.edges_unlinked rel.marks_pattern rfl rfl

/-- **Two identifiers and a relationship are enough** for an edge to be asked for, if what is said
of its properties makes a clause. -/
theorem exists_of_not_blank (ha : Text.isBlank a = false) (hb : Text.isBlank b = false)
    (rel : Relationship) :
    (∀ properties clause, edgeClause properties = .ok clause →
      ∃ r, createRelationship (.text a) (.text b) (some rel) properties = .ok r) ∧
    (∃ r, mergeRelationship (.text a) (.text b) (some rel) = .ok r) ∧
    ∃ r, dropRelationship (.text a) (.text b) (some rel) = .ok r := by
  have given : Argument.relationship (some rel) = .ok rel := rfl
  refine ⟨fun properties clause made => ?_, ?_, ?_⟩
  · have rendered : Template.createRelationship.render
        (substitutions (edgeSubstitutions rel ++ [("clause", braced clause)])) =
          .ok (Wording.createRelationship rel (braced clause)) :=
      Wording.render_createRelationship ..
    unfold braced at rendered
    simp only [createRelationship, Argument.uuid_of_not_blank ha, Argument.uuid_of_not_blank hb,
      given, made, rendered, ok_bind]
    exact ⟨_, rfl⟩
  · simp only [mergeRelationship, Argument.uuid_of_not_blank ha, Argument.uuid_of_not_blank hb,
      given, Wording.render_mergeRelationship, ok_bind]
    exact ⟨_, rfl⟩
  · simp only [dropRelationship, Argument.uuid_of_not_blank ha, Argument.uuid_of_not_blank hb,
      given, Wording.render_dropRelationship, ok_bind]
    exact ⟨_, rfl⟩

end Request

/-! ### The edge of each lookup -/

namespace Related

open GraphMapper.Action Client

variable {σ : Type} [Database σ] {c : Catalog} {t : EntityRef} {d : Descriptor} {uuid : Value}

/-- The lookup for a field goes along its relationship, from the node whose related nodes are looked
up. -/
theorem goesAlong_statement {f : FieldDescriptor} {s : String} (h : statement c d f = .ok s)
    (uuid : Value) : ∃ edge related many, f.role = .relationship edge related many ∧
      GoesAlong (s, .ofParameters [(rootParameter, uuid)]) (identified uuid) edge.pattern [] := by
  obtain ⟨edge, related, many, other, role, -, rfl⟩ := statement_eq_ok h
  refine ⟨edge, related, many, role, _, rfl, ?_⟩
  rw [Wording.lookup_eq_written]
  exact Wording.edges_followed d.label other.label (edge.marks_pattern) rfl

/-- A field whose type can be described has a lookup. -/
theorem exists_goesAlong {f : FieldDescriptor} {edge : Relationship} {related : EntityRef}
    {many : Bool} {other : Descriptor} (role : f.role = .relationship edge related many)
    (h : c.describeRef related = .ok other) (uuid : Value) : ∃ s, statement c d f = .ok s ∧
      GoesAlong (s, .ofParameters [(rootParameter, uuid)]) (identified uuid) edge.pattern [] := by
  have stated : statement c d f = .ok (Wording.lookup d.label.text edge other.label.text) := by
    unfold statement
    rw [role]
    dsimp only
    rw [h]
    exact Wording.statementFor_eq ..
  obtain ⟨edge', related', many', role', along⟩ := goesAlong_statement stated uuid
  obtain ⟨rfl, -⟩ := Role.relationship.inj (role.symm.trans role')
  exact ⟨_, stated, along⟩

/-- By induction on the fields: each sends the statement that is made for it. -/
theorem sends_fetchFields {Q : String → Value → Prop} (fields : List FieldDescriptor)
    (found : Entries) (hQ : ∀ f ∈ fields, ∀ s, statement c d f = .ok s →
      Q s (.ofParameters [(rootParameter, uuid)])) :
    Asks (Sends Q) (fetchFields c (execute (σ := σ)) d uuid fields found) := by
  induction fields generalizing found with
  | nil => exact within_pure _
  | cons f rest ih =>
    obtain ⟨first, others⟩ := List.forall_mem_cons.mp hQ
    exact within_ofOutcome_bind fun s hs => (sends_execute (first s hs)).bind fun _ =>
      (within_ofOutcome _).bind fun _ => ih _ others

/-- **What is looked up are the relationship fields of the type.** -/
theorem exists_field_of_mem_statements (described : c.describeRef t = .ok d) {w : World σ}
    {sent : String × Value}
    (h : sent ∈ (fetch c execute (.type (.entity t)) uuid : Action σ Entries).statements w) :
    ∃ f ∈ d.relationshipFields, statement c d f = .ok sent.1 ∧
      sent.2 = .ofParameters [(rootParameter, uuid)] := by
  have asks : Asks (Sends fun s parameters => ∃ f ∈ d.relationshipFields,
      statement c d f = .ok s ∧ parameters = .ofParameters [(rootParameter, uuid)])
      (fetch c execute (.type (.entity t)) uuid : Action σ Entries) := by
    refine within_ofOutcome_bind fun r hr => within_ofOutcome_bind fun d' hd => ?_
    obtain rfl : t = r := Except.ok.inj hr
    obtain rfl : d = d' := Except.ok.inj (described.symm.trans hd)
    exact (sends_fetchFields _ _ fun f hf s hs => ⟨f, hf, hs, rfl⟩).bind fun _ =>
      (within_noteFound _ _ _).bind fun _ => within_pure _
  exact asks.holds w sent h

end Related

/-! ### The edge of each operation -/

namespace Example

/-- Users know each other, in a direction. -/
def knows : Relationship := ⟨⟨"KNOWS", isIdentifier_knows⟩, .outgoing⟩

end Example

namespace Client

open GraphMapper.Action

/-- **All statements for a relationship mean one edge**, that from one node to another, as the
relationship has it. -/
structure MeansOneEdge (σ : Type) [Database σ] (c : Catalog) (rel : Relationship) (a b : String) :
    Prop where
  /-- An edge is asked for if the identifiers of the nodes are not blank, and there is nothing wrong
  with its properties. -/
  requested : Text.isBlank a = false → Text.isBlank b = false → ∀ now identifier,
    (∀ properties clause, Request.edgeClause properties = .ok clause →
      ∃ r, (Operation.createRelationship (.text a) (.text b) (some rel) properties).request c now
        identifier = .ok r) ∧
    (∃ r, (Operation.mergeRelationship (.text a) (.text b) (some rel)).request c now
      identifier = .ok r) ∧
    ∃ r, (Operation.dropRelationship (.text a) (.text b) (some rel)).request c now
      identifier = .ok r
  /-- An edge that is created has the pattern of the relationship between its nodes, with the
  properties behind the name. They are bound to parameters of their own. -/
  created : ∀ (properties : Value) (w : World σ), ∀ sent ∈
    (perform c (.createRelationship (.text a) (.text b) (some rel) properties)).statements w,
      ∃ clause, Request.edgeClause properties = .ok clause ∧
        GoesAlong sent (identified (.text a)) (rel.patternWith (Request.braced clause))
          (identified (.text b)) ∧
        (properties.truthy = false → rel.patternWith (Request.braced clause) = rel.pattern) ∧
        sent.2 = .ofParameters
          ([("uuidFrom", .text a), ("uuidTo", .text b)] ++ clause.parameters) ∧
        (∀ name ∈ Assoc.keys clause.parameters, name ∉ ["uuidFrom", "uuidTo"]) ∧
        ∀ e, Concerns sent e ↔ e = rel.edge (.text a) (.text b)
  /-- An edge that is made unless it is there has the pattern between its nodes. -/
  merged : ∀ w : World σ,
    ∀ sent ∈ (perform c (.mergeRelationship (.text a) (.text b) (some rel))).statements w,
      GoesAlong sent (identified (.text a)) rel.pattern (identified (.text b)) ∧
        ∀ e, Concerns sent e ↔ e = rel.edge (.text a) (.text b)
  /-- So have the edges that are removed. -/
  removed : ∀ w : World σ,
    ∀ sent ∈ (perform c (.dropRelationship (.text a) (.text b) (some rel))).statements w,
      GoesAlong sent (identified (.text a)) rel.pattern (identified (.text b)) ∧
        ∀ e, Concerns sent e ↔ e = rel.edge (.text a) (.text b)
  /-- A field with the relationship is looked up along the same pattern, from the first node to any
  other. -/
  followed : ∀ t d f related many other, c.describeRef t = .ok d → f ∈ d.relationshipFields →
    f.role = .relationship rel related many → c.describeRef related = .ok other →
      ∃ s, Related.statement c d f = .ok s ∧
        GoesAlong (s, .ofParameters [(Related.rootParameter, .text a)]) (identified (.text a))
          rel.pattern [] ∧
        ∀ e, Concerns (s, .ofParameters [(Related.rootParameter, .text a)]) e ↔
          ∃ v, e = rel.edge (.text a) v
  /-- Nothing else is looked up for a node. -/
  fetched : ∀ t d, c.describeRef t = .ok d → ∀ w : World σ,
    ∀ sent ∈ (Related.fetch c execute (.type (.entity t)) (.text a)).statements w,
      ∃ f ∈ d.relationshipFields, Related.statement c d f = .ok sent.1 ∧
        sent.2 = .ofParameters [(Related.rootParameter, .text a)]

variable {σ : Type} [Database σ] {c : Catalog} {rel : Relationship} {a b : String} {w : World σ}
  {sent : String × Value}

/-! Nothing is looked up for an edge: all that is sent is the statement of the request. -/

theorem mem_statements_createRelationship {properties : Value} (h : sent ∈
    (perform c (.createRelationship (.text a) (.text b) (some rel) properties)).statements w) :
    ∃ r, Request.createRelationship (.text a) (.text b) (some rel) properties = .ok r ∧
      sent = (r.statement, r.parameters) := by
  refine mem_statements_of_not_looksUp
    (.createRelationship (.text a) (.text b) (some rel) properties) ?_ h
  intro r hr
  obtain ⟨_, _, _, _, -, -, -, -, rfl⟩ := Request.exists_edgeClause hr
  exact ⟨rfl, _, rfl⟩

theorem mem_statements_mergeRelationship
    (h : sent ∈ (perform c (.mergeRelationship (.text a) (.text b) (some rel))).statements w) :
    ∃ r, Request.mergeRelationship (.text a) (.text b) (some rel) = .ok r ∧
      sent = (r.statement, r.parameters) := by
  refine mem_statements_of_not_looksUp (.mergeRelationship (.text a) (.text b) (some rel)) ?_ h
  intro r hr
  obtain ⟨_, _, _, -, -, -, rfl⟩ := Request.mergeRelationship_eq_ok hr
  exact ⟨rfl, _, rfl⟩

theorem mem_statements_dropRelationship
    (h : sent ∈ (perform c (.dropRelationship (.text a) (.text b) (some rel))).statements w) :
    ∃ r, Request.dropRelationship (.text a) (.text b) (some rel) = .ok r ∧
      sent = (r.statement, r.parameters) := by
  refine mem_statements_of_not_looksUp (.dropRelationship (.text a) (.text b) (some rel)) ?_ h
  intro r hr
  obtain ⟨_, _, _, -, -, -, rfl⟩ := Request.dropRelationship_eq_ok hr
  exact ⟨rfl, _, rfl⟩

/-- **One edge in all statements.** What is made for a relationship and two nodes is what is removed
for them, and what is followed from the first of them. -/
theorem edges_agree (c : Catalog) (rel : Relationship) (a b : String) :
    MeansOneEdge σ c rel a b where
  requested ha hb now identifier := Request.exists_of_not_blank ha hb rel
  created properties w sent h := by
    obtain ⟨r, hr, rfl⟩ := mem_statements_createRelationship h
    obtain ⟨clause, made, parameters, along⟩ := Request.goesAlong_createRelationship hr
    refine ⟨clause, made, along, fun none => ?_, parameters, Request.notMem_keys_edgeClause made,
      fun e => along.concerns_iff.trans (rel.admits_iff (Request.closesName_braced clause))⟩
    rw [Request.braced_of_not_truthy made none, rel.patternWith_empty]
  merged w sent h := by
    obtain ⟨r, hr, rfl⟩ := mem_statements_mergeRelationship h
    have along := Request.goesAlong_mergeRelationship hr
    exact ⟨along, fun e => along.concerns_iff_edge⟩
  removed w sent h := by
    obtain ⟨r, hr, rfl⟩ := mem_statements_dropRelationship h
    have along := Request.goesAlong_dropRelationship hr
    exact ⟨along, fun e => along.concerns_iff_edge⟩
  followed t d f related many other described hf role h := by
    obtain ⟨s, stated, along⟩ := Related.exists_goesAlong role h (.text a)
    exact ⟨s, stated, along, fun e => along.concerns_iff.trans rel.admits_open_iff⟩
  fetched t d described w sent h := Related.exists_field_of_mem_statements described h

set_option maxRecDepth 2000 in
/-- Of two users, the first gets to know the second: the statement that is sent draws an arrow from
one to the other, and the lookup of friends follows it. -/
theorem edges_agree_users :
    MeansOneEdge Scripted Example.users Example.knows "u1" "u2" ∧
      (perform Example.users (.mergeRelationship (.text "u1") (.text "u2") (some Example.knows)) :
        Action Scripted Value).statements (Example.connected []) =
          [("MATCH (from\x7bUuid:$uuidFrom\x7d),(to\x7bUuid:$uuidTo\x7d) " ++
              "MERGE (from)-[r:KNOWS]->(to) RETURN r",
            .map [(.text "uuidFrom", .text "u1"), (.text "uuidTo", .text "u2")])] ∧
      Example.knows.edge (.text "u1") (.text "u2") = ⟨"KNOWS", .text "u1", .text "u2"⟩ :=
  ⟨edges_agree Example.users Example.knows "u1" "u2", rfl, rfl⟩

end Client

end GraphMapper
