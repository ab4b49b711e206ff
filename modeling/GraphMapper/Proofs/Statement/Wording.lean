import GraphMapper.Operation.Request
import GraphMapper.Proofs.Statement.Parts
import GraphMapper.Related

/-!
# The wording of statements

Rendering a template is a search for slots, and what comes out of it is a concatenation. This
file writes the concatenation down, once for each template: `GraphMapper.Wording.create` and
its companions are the texts as one reads them, with gaps for the label, the clauses, and the
pieces of arrow. The lemmas `render_create` and so on say that rendering gives exactly these.

Everything about the text of a statement is proved of its wording, so none of it depends on how
slots are found.
-/

namespace GraphMapper.Wording

open GraphMapper.Part

/-- The wording of `GraphMapper.Template.create`. -/
def create (label conditions : String) : String :=
  "CREATE (n:" ++ (label ++ ("\x7b" ++ (conditions ++ "\x7d) RETURN n")))

/-- The wording of `GraphMapper.Template.merge`. -/
def merge (label conditions onCreate onMatch : String) : String :=
  "MERGE (n:" ++ (label ++ ("\x7b" ++ (conditions ++ ("\x7d) " ++ (onCreate ++ (" " ++ (onMatch ++
    " RETURN n")))))))

/-- The wording of `GraphMapper.Template.getAll`. -/
def getAll (label : String) : String :=
  "MATCH (n:" ++ (label ++ "\x7bIsDeleted:false\x7d) RETURN n")

/-- The wording of `GraphMapper.Template.getByProperty`. -/
def getByProperty (label property : String) : String :=
  "MATCH (n:" ++ (label ++ ("\x7b" ++ (property ++ ":$value,IsDeleted:false\x7d) RETURN n")))

/-- The wording of `GraphMapper.Template.getByProperties`, from the node of interest by `path`
to what is returned. -/
def getByProperties (label clause path result : String) : String :=
  "MATCH (n:" ++ (label ++ ("\x7b" ++ (clause ++ (",IsDeleted:false\x7d)" ++ (path ++
    (" RETURN " ++ result))))))

/-- The wording of `GraphMapper.Template.update`. -/
def update (label clause ending : String) : String :=
  "MATCH (n:" ++ (label ++ ("\x7bUuid:$Uuid,IsDeleted:false\x7d) SET " ++ (clause ++ (" " ++
    ending))))

/-- The wording of `GraphMapper.Template.delete`. -/
def delete (label : String) : String :=
  "MATCH (n:" ++ (label ++ ("\x7bUuid:$Uuid,IsDeleted:false\x7d) " ++
    "SET n.UpdatedAt=$UpdatedAt,n.IsDeleted=true RETURN n"))

/-- The wording of `GraphMapper.Template.drop`. -/
def drop (label : String) : String :=
  "MATCH (n:" ++ (label ++ "\x7bUuid:$Uuid\x7d) DETACH DELETE n")

/-- The wording of `GraphMapper.Template.dropByProperties`. -/
def dropByProperties (label clause : String) : String :=
  "MATCH (n:" ++ (label ++ ("\x7b" ++ (clause ++ "\x7d) DETACH DELETE n")))

/-- The nodes at the two ends of an edge that is written. -/
def ends : String := "MATCH (from\x7bUuid:$uuidFrom\x7d),(to\x7bUuid:$uuidTo\x7d) "

/-- The wording of `GraphMapper.Template.createRelationship`. -/
def createRelationship (r : Relationship) (clause : String) : String :=
  ends ++ ("CREATE (from)" ++ (r.fromPart ++ ("[r:" ++ (r.name.text ++ (clause ++ ("]" ++
    (r.toPart ++ "(to) RETURN r")))))))

/-- The wording of `GraphMapper.Template.mergeRelationship`. -/
def mergeRelationship (r : Relationship) : String :=
  ends ++ ("MERGE (from)" ++ (r.fromPart ++ ("[r:" ++ (r.name.text ++ ("]" ++ (r.toPart ++
    "(to) RETURN r"))))))

/-- The wording of `GraphMapper.Template.dropRelationship`. -/
def dropRelationship (r : Relationship) : String :=
  "MATCH (\x7bUuid:$uuidIncoming\x7d)" ++ (r.fromPart ++ ("[r:" ++ (r.name.text ++ ("]" ++
    (r.toPart ++ "(\x7bUuid:$uuidOutgoing\x7d) DELETE r")))))

/-- The wording of `GraphMapper.Template.addLabel`. -/
def addLabel (label : String) : String :=
  "MATCH (n\x7bUuid:$Uuid\x7d) SET n:" ++ label

/-- The wording of a lookup: `GraphMapper.Template.getByProperties`, along an edge to the live
nodes of another label. -/
def lookup (label : String) (edge : Relationship) (relatedLabel : String) : String :=
  getByProperties label "Uuid:$uuid" (edge.pattern ++ Relationship.relatedNodePattern relatedLabel)
    "rNode"

/-! ### Rendering gives the wording -/

theorem render_create (label conditions : String) :
    Template.create.render (Request.substitutions [("node", label), ("conditions", conditions)]) =
      .ok (create label conditions) :=
  .trans (Template.render_of_parts
    [.text "CREATE (n:", .slot "node", .text "\x7b", .slot "conditions", .text "\x7d) RETURN n"]
    (by decide) (.refl _))
    (by simp [filled, Request.substitutions, List.lookup_cons, create])

theorem render_merge (label conditions onCreate onMatch : String) :
    Template.merge.render (Request.substitutions [("node", label), ("conditions", conditions),
        ("on_create_clause", onCreate), ("on_match_clause", onMatch)]) =
      .ok (merge label conditions onCreate onMatch) :=
  .trans (Template.render_of_parts
    [.text "MERGE (n:", .slot "node", .text "\x7b", .slot "conditions", .text "\x7d) ",
      .slot "on_create_clause", .text " ", .slot "on_match_clause", .text " RETURN n"]
    (by decide) (.refl _))
    (by simp [filled, Request.substitutions, List.lookup_cons, merge])

theorem render_getAll (label : String) :
    Template.getAll.render (Request.substitutions [("label", label), ("result", nodeVariable)]) =
      .ok (getAll label) :=
  .trans (Template.render_of_parts
    [.text "MATCH (n:", .slot "label", .text "\x7bIsDeleted:false\x7d) RETURN ", .slot "result"]
    (by decide) (.refl _))
    (by simp [filled, Request.substitutions, List.lookup_cons, getAll, nodeVariable])

theorem nodesByProperty_eq (label property : String) :
    Request.nodesByProperty label property =
      .ok (getByProperty label property) :=
  .trans (Template.render_of_parts
    [.text "MATCH (n:", .slot "label", .text "\x7b", .slot "property",
      .text ":$value,IsDeleted:false\x7d)", .slot "relationship", .slot "relatedNode",
      .text " RETURN ", .slot "result"]
    (by decide) (.refl _))
    (by simp [filled, Request.substitutions, List.lookup_cons, getByProperty, nodeVariable])

theorem render_getByProperties (label clause relationship relatedNode result : String) :
    Template.getByProperties.render [("label", .text label), ("clause", .text clause),
        ("relationship", .text relationship), ("relatedNode", .text relatedNode),
        ("result", .text result)] =
      .ok (getByProperties label clause (relationship ++ relatedNode) result) :=
  .trans (Template.render_of_parts
    [.text "MATCH (n:", .slot "label", .text "\x7b", .slot "clause",
      .text ",IsDeleted:false\x7d)", .slot "relationship", .slot "relatedNode",
      .text " RETURN ", .slot "result"]
    (by decide) (.refl _))
    (by simp [filled, List.lookup_cons, getByProperties, String.append_assoc])

theorem render_update (label clause ending : String) :
    Template.update.render (Request.substitutions [("label", label), ("clause", clause),
        ("return", ending)]) =
      .ok (update label clause ending) :=
  .trans (Template.render_of_parts
    [.text "MATCH (n:", .slot "label", .text "\x7bUuid:$Uuid,IsDeleted:false\x7d) SET ",
      .slot "clause", .text " ", .slot "return"]
    (by decide) (.refl _))
    (by simp [filled, Request.substitutions, List.lookup_cons, update])

theorem render_delete (label : String) :
    Template.delete.render (Request.substitutions [("label", label)]) =
      .ok (delete label) :=
  .trans (Template.render_of_parts
    [.text "MATCH (n:", .slot "label", .text "\x7bUuid:$Uuid,IsDeleted:false\x7d) ",
      .text "SET n.UpdatedAt=$UpdatedAt,n.IsDeleted=true RETURN n"]
    (by decide) (.refl _))
    (by simp [filled, Request.substitutions, delete])

theorem render_drop (label : String) :
    Template.drop.render (Request.substitutions [("label", label)]) =
      .ok (drop label) :=
  .trans (Template.render_of_parts
    [.text "MATCH (n:", .slot "label", .text "\x7bUuid:$Uuid\x7d) DETACH DELETE n"]
    (by decide) (.refl _))
    (by simp [filled, Request.substitutions, drop])

theorem render_dropByProperties (label clause : String) :
    Template.dropByProperties.render
        (Request.substitutions [("label", label), ("clause", clause)]) =
      .ok (dropByProperties label clause) :=
  .trans (Template.render_of_parts
    [.text "MATCH (n:", .slot "label", .text "\x7b", .slot "clause", .text "\x7d) DETACH DELETE n"]
    (by decide) (.refl _))
    (by simp [filled, Request.substitutions, List.lookup_cons, dropByProperties])

set_option maxRecDepth 1000 in
theorem render_createRelationship (r : Relationship) (clause : String) :
    Template.createRelationship.render
        (Request.substitutions (Request.edgeSubstitutions r ++ [("clause", clause)])) =
      .ok (createRelationship r clause) :=
  .trans (Template.render_of_parts
    [.text ends, .text "CREATE (from)", .slot "fromPartDirection", .text "[r:",
      .slot "relationshipName", .slot "clause", .text "]", .slot "toPartDirection",
      .text "(to) RETURN r"]
    (by decide) (.cons _ ((List.Perm.swap _ _ _).trans (.cons _ (.swap _ _ _)))))
    (by simp [filled, Request.substitutions, Request.edgeSubstitutions, List.lookup_cons,
      createRelationship])

theorem render_mergeRelationship (r : Relationship) :
    Template.mergeRelationship.render (Request.substitutions (Request.edgeSubstitutions r)) =
      .ok (mergeRelationship r) :=
  .trans (Template.render_of_parts
    [.text ends, .text "MERGE (from)", .slot "fromPartDirection", .text "[r:",
      .slot "relationshipName", .text "]", .slot "toPartDirection", .text "(to) RETURN r"]
    (by decide) (.cons _ (.swap _ _ _)))
    (by simp [filled, Request.substitutions, Request.edgeSubstitutions, List.lookup_cons,
      mergeRelationship])

theorem render_dropRelationship (r : Relationship) :
    Template.dropRelationship.render (Request.substitutions (Request.edgeSubstitutions r)) =
      .ok (dropRelationship r) :=
  .trans (Template.render_of_parts
    [.text "MATCH (\x7bUuid:$uuidIncoming\x7d)", .slot "fromPartDirection", .text "[r:",
      .slot "relationshipName", .text "]", .slot "toPartDirection",
      .text "(\x7bUuid:$uuidOutgoing\x7d) DELETE r"]
    (by decide) (.cons _ (.swap _ _ _)))
    (by
      unfold dropRelationship
      simp [filled, Request.substitutions, Request.edgeSubstitutions, List.lookup_cons])

theorem render_addLabel (label : String) :
    Template.addLabel.render (Request.substitutions [("label", label)]) =
      .ok (addLabel label) :=
  .trans (Template.render_of_parts
    [.text "MATCH (n\x7bUuid:$Uuid\x7d) SET n:", .slot "label"]
    (by decide) (.refl _))
    (by
      unfold addLabel
      simp [filled, Request.substitutions])

/-- The statement of a lookup is its wording, whatever the labels and the edge. -/
theorem statementFor_eq (label : String) (edge : Relationship) (relatedLabel : String) :
    Related.statementFor label edge relatedLabel = .ok (lookup label edge relatedLabel) :=
  render_getByProperties label (identifierKey ++ ":$" ++ Related.rootParameter) edge.pattern
    (Relationship.relatedNodePattern relatedLabel) relatedVariable

end GraphMapper.Wording
