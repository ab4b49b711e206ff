import GraphMapper.Proofs.Closed
import GraphMapper.Proofs.Merge
import GraphMapper.Proofs.Statement.Lists

/-!
# Statements without empty lists

Clauses are put into statements where the wording expects something: between braces, behind the
word `SET`. This file says that something is there.

Where a property map becomes a list, it cannot be empty, since an empty map is refused; where the
values of an entity do, its identifier is always among them. The exception is an update, which
writes what the type lets it write: so there is something behind `SET` provided that an update
writes anything (`GraphMapper.Operation.Writes`). Adding a label is of its own kind: what is set is
a label, and no property.
-/

namespace GraphMapper

open GraphMapper.Action Statement

/-! ### Elements of clauses -/

/-- What an identifier is made of is none of the marks of a list. -/
theorem isSolid_of_isIdentifier {cs : List Char} (h : isIdentifier cs = true) :
    ∀ c ∈ cs, isSolid c = true := by
  intro c hc
  by_contra mark
  have listed : c ∈ [' ', ',', '(', '[', '\x7b', ')', ']', '\x7d'] := by
    simp only [isSolid, opensList, closesList, List.contains_eq_mem] at mark
    grind
  have marks : [' ', ',', '(', '[', '\x7b', ')', ']', '\x7d'].all
      (fun d => !isIdentifierChar d && d ≠ '\n') = true := by decide
  obtain ⟨other, line⟩ := Bool.and_eq_true _ _ ▸ List.all_eq_true.mp marks c listed
  exact notMem_of_isIdentifier h (by simpa using other) (of_decide_eq_true line) hc

theorem Identifier.plain (i : Identifier) : Plain i.text :=
  plain_of_solid (isSolid_of_isIdentifier i.accepted)

/-- A name in front of an identifier makes another one. -/
theorem isIdentifier_append {s t : String} (hs : isName s = true)
    (ht : isIdentifier t.toList = true) : isIdentifier (s ++ t).toList = true := by
  have continued (cs : List Char) (h : isIdentifier cs = true) : continuesIdentifier cs = true := by
    cases cs with
    | nil => cases h
    | cons c rest =>
      obtain ⟨hc, hr⟩ := Bool.and_eq_true _ _ ▸ h
      simp [continuesIdentifier, isIdentifierChar_of_isIdentifierHead hc, hr]
  have behind (cs ds : List Char) (hc : cs.all isIdentifierChar = true)
      (hd : continuesIdentifier ds = true) : continuesIdentifier (cs ++ ds) = true := by
    induction cs with
    | nil => exact hd
    | cons c rest ih =>
      obtain ⟨hc, hr⟩ := Bool.and_eq_true _ _ ▸ hc
      simp [continuesIdentifier, hc, ih hr]
  unfold isName at hs
  split at hs
  · cases hs
  · next head rest h =>
    obtain ⟨hh, hr⟩ := Bool.and_eq_true _ _ ▸ hs
    rw [String.toList_append, h, List.cons_append, isIdentifier, hh,
      behind rest t.toList hr (continued t.toList ht)]
    rfl

theorem areEntries_singleton {key said : String} (hk : isIdentifier key.toList = true)
    (hs : IsElement said) : AreEntries [key ++ ":" ++ said] := by
  have element : IsElement (key ++ ":" ++ said) := by
    refine ⟨by simp, ?_⟩
    intro c hc
    rw [String.toList_append, String.toList_append, List.mem_append, List.mem_append] at hc
    rcases hc with (hc | hc) | hc
    · exact isSolid_of_isIdentifier hk c hc
    · rw [List.mem_singleton.mp hc]
      rfl
    · exact hs.2 c hc
  refine ⟨List.cons_ne_nil _ _, ?_, ?_⟩
  · simpa using element
  · simpa using ⟨key, said, hk, hs.1, rfl⟩

/-- The condition that a node is live. -/
theorem areEntries_live : AreEntries ["IsDeleted:false"] :=
  areEntries_singleton (by decide : isIdentifier "IsDeleted".toList = true)
    (by decide : IsElement "false")

/-- The condition that a node has an identifier. -/
theorem areEntries_identifier {said : String} (h : IsElement said) :
    AreEntries ["Uuid:" ++ said] :=
  areEntries_singleton (by decide : isIdentifier "Uuid".toList = true) h

namespace Clause

variable {form : ClauseForm} {paramPrefix : String} {values : Parameters}
  (hv : ∀ k ∈ Assoc.keys values, isIdentifier k.toList = true)

/-- **A binding is an element of a list**, if what stands around its property has no mark of a
list. -/
theorem isElement_textOf {key : String} (hk : isIdentifier key.toList = true)
    (hf : (subjectOf "" form).toList.all isSolid = true)
    (hp : paramPrefix.toList.all isSolid = true) :
    IsElement (textOf form paramPrefix key) := by
  have solid := isSolid_of_isIdentifier hk
  refine ⟨textOf_ne_empty form paramPrefix key, ?_⟩
  intro c hc
  rw [toList_textOf, List.mem_append, List.mem_cons, String.toList_append, List.mem_append] at hc
  rcases hc with hc | rfl | hc | hc
  · exact (mem_subjectOf hc).elim (solid c) (List.all_eq_true.mp hf c)
  · rfl
  · exact List.all_eq_true.mp hp c hc
  · exact solid c hc

/-- The bindings of a clause. -/
def parts (form : ClauseForm) (paramPrefix : String) (values : Parameters) : List String :=
  (Assoc.keys values).map (textOf form paramPrefix)

theorem text_ofValues_parts (form : ClauseForm) (paramPrefix : String) (values : Parameters) :
    (ofValues form paramPrefix values).text = ",".intercalate (parts form paramPrefix values) :=
  text_ofValues form paramPrefix values

include hv

theorem isElement_of_mem_parts (hf : (subjectOf "" form).toList.all isSolid = true)
    (hp : paramPrefix.toList.all isSolid = true) :
    ∀ part ∈ parts form paramPrefix values, IsElement part := by
  intro part hm
  obtain ⟨key, hk, rfl⟩ := List.mem_map.mp hm
  exact isElement_textOf (hv key hk) hf hp

theorem areEntries_parts (hne : values ≠ []) (hp : paramPrefix.toList.all isSolid = true) :
    AreEntries (parts .condition paramPrefix values) := by
  refine ⟨by simpa [parts, Assoc.keys] using hne, isElement_of_mem_parts hv (by decide) hp, ?_⟩
  intro part hm
  obtain ⟨key, hk, rfl⟩ := List.mem_map.mp hm
  refine ⟨key, "$" ++ (paramPrefix ++ key), hv key hk, by simp, ?_⟩
  rw [← String.toList_inj]
  simp [textOf, Binding.text, Binding.ofEntry]

/-- A clause of assignments assigns something, if there is anything to assign. -/
theorem areSet_parts (hne : values ≠ []) (hp : paramPrefix = "" ∨ isName paramPrefix = true)
    (hs : paramPrefix.toList.all isSolid = true) :
    AreSet Assigns (parts (.assignment nodeVariable) paramPrefix values) := by
  have elements : ∀ part ∈ parts (.assignment nodeVariable) paramPrefix values, IsElement part :=
    isElement_of_mem_parts hv (by decide) hs
  refine ⟨elements, ?_, ?_⟩
  · rcases values with _ | ⟨e, rest⟩
    · exact absurd rfl hne
    · have first : (textOf (.assignment nodeVariable) paramPrefix e.1).toList.head? = some 'n' := by
        rw [toList_textOf]
        simp [subjectOf, nodeVariable]
      rw [parts, Assoc.keys, List.map_cons, List.map_cons,
        head?_intercalate (elements _ List.mem_cons_self), first]
      decide
  · obtain ⟨e, he⟩ := List.exists_mem_of_ne_nil values hne
    have hk : e.1 ∈ Assoc.keys values := List.mem_map_of_mem he
    have name : isIdentifier (paramPrefix ++ e.1).toList = true := by
      rcases hp with rfl | hp
      · rw [String.empty_append]
        exact hv e.1 hk
      · exact isIdentifier_append hp (hv e.1 hk)
    refine ⟨textOf (.assignment nodeVariable) paramPrefix e.1, ?_, nodeVariable, e.1, _, by decide,
      hv e.1 hk, name, rfl⟩
    rw [pieces_joined (by simpa [parts, Assoc.keys] using hne) elements]
    exact List.mem_map_of_mem hk

end Clause

/-! ### Wordings -/

namespace Wording

variable {Belongs : String → Prop} (label : Identifier) {parts : List String}

/-- A node with a label and entries, and what follows it. -/
theorem filled_node {before rest t : String} (hb : Plain before) (hp : AreEntries parts)
    (hr : rest = "\x7d" ++ t) (ht : Filled Belongs t) :
    Filled Belongs (before ++ (label.text ++ ("\x7b" ++ (",".intercalate parts ++ rest)))) :=
  ((Filled.braced hp hr ht).prepend label.plain).prepend hb

theorem filled_create (hp : AreEntries parts) :
    Filled Belongs (create label.text (",".intercalate parts)) :=
  filled_node label (by decide) hp (by decide : _ = "\x7d" ++ ") RETURN n")
    (.of_plain (by decide))

theorem filled_getAll : Filled Belongs (getAll label.text) := by
  have read : getAll label.text = "MATCH (n:" ++ (label.text ++
      ("\x7b" ++ (",".intercalate ["IsDeleted:false"] ++ "\x7d) RETURN n"))) := by
    simp [getAll]
  rw [read]
  exact filled_node label (by decide) areEntries_live (by decide : _ = "\x7d" ++ ") RETURN n")
    (.of_plain (by decide))

/-- Reading nodes by entries, and by their being live. -/
theorem filled_getByProperties (hp : AreEntries parts) {path result : String}
    (ht : Filled Belongs (")" ++ (path ++ (" RETURN " ++ result)))) :
    Filled Belongs (getByProperties label.text (",".intercalate parts) path result) := by
  have joined : ",".intercalate (parts ++ ["IsDeleted:false"]) =
      ",".intercalate parts ++ ",IsDeleted:false" := by
    rw [String.intercalate_append_of_ne_nil hp.ne_nil (by simp), ← String.toList_inj]
    simp
  have read : getByProperties label.text (",".intercalate parts) path result =
      "MATCH (n:" ++ (label.text ++ ("\x7b" ++ (",".intercalate (parts ++ ["IsDeleted:false"]) ++
        ("\x7d" ++ (")" ++ (path ++ (" RETURN " ++ result))))))) := by
    rw [joined, ← String.toList_inj]
    simp [getByProperties]
  rw [read]
  exact filled_node label (by decide) (hp.append areEntries_live) rfl ht

theorem filled_read (hp : AreEntries parts) :
    Filled Belongs (getByProperties label.text (",".intercalate parts) "" nodeVariable) :=
  filled_getByProperties label hp (.of_plain (by decide))

theorem filled_getByProperty {property : String} (hk : isIdentifier property.toList = true) :
    Filled Belongs (getByProperty label.text property) := by
  have read : getByProperty label.text property =
      getByProperties label.text (",".intercalate [property ++ ":" ++ "$value"]) ""
        nodeVariable := by
    rw [← String.toList_inj]
    simp [getByProperty, getByProperties, nodeVariable]
  rw [read]
  exact filled_read label (areEntries_singleton hk (by decide))

theorem filled_drop : Filled Belongs (drop label.text) := by
  have read : drop label.text = "MATCH (n:" ++ (label.text ++
      ("\x7b" ++ (",".intercalate ["Uuid:" ++ "$Uuid"] ++ "\x7d) DETACH DELETE n"))) := by
    simp [drop]
  rw [read]
  exact filled_node label (by decide) (areEntries_identifier (by decide))
    (by decide : _ = "\x7d" ++ ") DETACH DELETE n") (.of_plain (by decide))

theorem filled_dropByProperties (hp : AreEntries parts) :
    Filled Belongs (dropByProperties label.text (",".intercalate parts)) :=
  filled_node label (by decide) hp (by decide : _ = "\x7d" ++ ") DETACH DELETE n")
    (.of_plain (by decide))

/-- A live node with an identifier, and what follows it. -/
theorem filled_found {rest t : String} (hr : rest = "\x7d" ++ t) (ht : Filled Belongs t) :
    Filled Belongs ("MATCH (n:" ++ (label.text ++ ("\x7b" ++ ("Uuid:$Uuid,IsDeleted:false" ++
      rest)))) := by
  have joined : "Uuid:$Uuid,IsDeleted:false" =
      ",".intercalate (["Uuid:" ++ "$Uuid"] ++ ["IsDeleted:false"]) := by decide
  rw [joined]
  exact filled_node label (by decide)
    ((areEntries_identifier (by decide)).append areEntries_live) hr ht

/-- Updating a node, if there is anything to write. -/
theorem filled_update (hp : AreSet Assigns parts) {ending : String}
    (he : Filled Assigns (" " ++ ending)) :
    Filled Assigns (update label.text (",".intercalate parts) ending) := by
  have read : update label.text (",".intercalate parts) ending =
      "MATCH (n:" ++ (label.text ++ ("\x7b" ++ ("Uuid:$Uuid,IsDeleted:false" ++ ("\x7d" ++ (")" ++
        (" SET " ++ (",".intercalate parts ++ (" " ++ ending)))))))) := by
    rw [← String.toList_inj]
    simp [update]
  rw [read]
  exact filled_found label rfl ((Filled.set hp (by simp) he).prepend (by decide))

theorem filled_delete : Filled Assigns (delete label.text) := by
  have read : delete label.text =
      "MATCH (n:" ++ (label.text ++ ("\x7b" ++ ("Uuid:$Uuid,IsDeleted:false" ++ ("\x7d" ++ (")" ++
        (" SET " ++ (",".intercalate ["n.UpdatedAt=$UpdatedAt", "n.IsDeleted=true"] ++
          " RETURN n"))))))) := by
    simp [delete]
  have marked : AreSet Assigns ["n.UpdatedAt=$UpdatedAt", "n.IsDeleted=true"] := by
    refine ⟨by decide, by decide, "n.UpdatedAt=$UpdatedAt", by decide, ?_⟩
    exact ⟨"n", "UpdatedAt", "UpdatedAt", by decide⟩
  rw [read]
  exact filled_found label rfl
    ((Filled.set marked (by decide) (.of_plain (by decide))).prepend (by decide))

/-- A merge, its second branch left out if there is nothing in it. -/
theorem filled_merge (hp : AreEntries parts) {created : List String} (hc : AreSet Assigns created)
    {matched : String}
    (hm : matched = "" ∨ ∃ updated, AreSet Assigns updated ∧
      matched = "ON MATCH SET " ++ ",".intercalate updated) :
    Filled Assigns (merge label.text (",".intercalate parts)
      ("ON CREATE SET " ++ ",".intercalate created) matched) := by
  have read : merge label.text (",".intercalate parts)
      ("ON CREATE SET " ++ ",".intercalate created) matched =
        "MERGE (n:" ++ (label.text ++ ("\x7b" ++ (",".intercalate parts ++ ("\x7d" ++
          (") ON CREATE" ++ (" SET " ++ (",".intercalate created ++
            (" " ++ (matched ++ " RETURN n"))))))))) := by
    rw [← String.toList_inj]
    simp [merge]
  have tail : Filled Assigns (" " ++ (matched ++ " RETURN n")) := by
    rcases hm with rfl | ⟨updated, hu, rfl⟩
    · exact .of_plain (by decide)
    · have split : " " ++ ("ON MATCH SET " ++ ",".intercalate updated ++ " RETURN n") =
          " ON MATCH" ++ (" SET " ++ (",".intercalate updated ++ " RETURN n")) := by
        rw [← String.toList_inj]
        simp
      rw [split]
      exact (Filled.set hu (by decide) (.of_plain (by decide))).prepend (by decide)
  rw [read]
  exact filled_node label (by decide) hp rfl
    ((Filled.set hc (by simp) tail).prepend (by decide))

/-- Adding a label sets the label, and nothing else. -/
theorem filled_addLabel :
    Filled (· = nodeVariable ++ ":" ++ label.text) (addLabel label.text) := by
  have labelled : AreSet (· = nodeVariable ++ ":" ++ label.text)
      [nodeVariable ++ ":" ++ label.text] := by
    refine ⟨?_, by simp [nodeVariable], String.intercalate_singleton⟩
    intro part hm
    obtain rfl := List.mem_singleton.mp hm
    refine ⟨by simp, ?_⟩
    intro c hc
    rw [String.toList_append, List.mem_append] at hc
    rcases hc with hc | hc
    · exact List.all_eq_true.mp (by decide : (nodeVariable ++ ":").toList.all isSolid = true) c hc
    · exact isSolid_of_isIdentifier label.accepted c hc
  have read : addLabel label.text = "MATCH (n" ++ ("\x7b" ++
      (",".intercalate ["Uuid:" ++ "$Uuid"] ++ ("\x7d" ++ (")" ++ (" SET " ++
        (",".intercalate [nodeVariable ++ ":" ++ label.text] ++ "")))))) := by
    unfold addLabel
    rw [← String.toList_inj]
    simp [nodeVariable]
  have found := areEntries_identifier (by decide : IsElement "$Uuid")
  rw [read]
  exact (Filled.braced found rfl
    ((Filled.set labelled (by simp) (.of_plain (by decide))).prepend (by decide))).prepend
      (by decide)

/-- The nodes at the ends of an edge, and what follows them. -/
theorem filled_ends {verb t : String} (hv : Plain (") " ++ verb)) (ht : Filled Belongs t) :
    Filled Belongs (ends ++ (verb ++ t)) := by
  have read : ends ++ (verb ++ t) = "MATCH (from" ++ ("\x7b" ++
      (",".intercalate ["Uuid:" ++ "$uuidFrom"] ++ ("\x7d" ++ ("),(to" ++ ("\x7b" ++
        (",".intercalate ["Uuid:" ++ "$uuidTo"] ++ ("\x7d" ++ ((") " ++ verb) ++ t)))))))) := by
    rw [← String.toList_inj]
    simp [ends]
  have source := areEntries_identifier (by decide : IsElement "$uuidFrom")
  have target := areEntries_identifier (by decide : IsElement "$uuidTo")
  rw [read]
  exact (Filled.braced source rfl
    ((Filled.braced target rfl
      (ht.prepend hv)).prepend (by decide))).prepend (by decide)

/-- The pieces of an arrow are plain. -/
theorem plain_fromPart (r : Relationship) : Plain r.fromPart := by
  unfold Relationship.fromPart
  split <;> decide

theorem plain_toPart (r : Relationship) : Plain r.toPart := by
  unfold Relationship.toPart
  split <;> decide

/-- An edge with what may stand behind its name, and what follows it. -/
theorem filled_edge (r : Relationship) {t : String} (ht : Filled Belongs t) :
    Filled Belongs (r.fromPart ++ ("[r:" ++ (r.name.text ++ t))) :=
  ((ht.prepend r.name.plain).prepend (by decide)).prepend (plain_fromPart r)

theorem filled_createRelationship (r : Relationship) {values : Parameters}
    (hv : ∀ k ∈ Assoc.keys values, isIdentifier k.toList = true) :
    Filled Belongs (createRelationship r (Request.braced
      (.ofValues .condition Request.relationshipPrefix values))) := by
  have tail : Filled Belongs ("]" ++ (r.toPart ++ "(to) RETURN r")) :=
    ((Filled.of_plain (by decide)).prepend (plain_toPart r)).prepend (by decide)
  refine filled_ends (by decide) (filled_edge r ?_)
  unfold Request.braced
  split
  · simpa using tail
  · next filled =>
    have hne : values ≠ [] := by
      rintro rfl
      exact filled rfl
    have entries := Clause.areEntries_parts hv hne
      (by decide : Request.relationshipPrefix.toList.all isSolid = true)
    rw [Clause.text_ofValues_parts, String.append_assoc, String.append_assoc]
    exact Filled.braced entries rfl tail

theorem filled_mergeRelationship (r : Relationship) : Filled Belongs (mergeRelationship r) := by
  have tail : Filled Belongs ("]" ++ (r.toPart ++ "(to) RETURN r")) :=
    ((Filled.of_plain (by decide)).prepend (plain_toPart r)).prepend (by decide)
  exact filled_ends (by decide) (filled_edge r tail)

theorem filled_dropRelationship (r : Relationship) : Filled Belongs (dropRelationship r) := by
  have read : dropRelationship r = "MATCH (" ++ ("\x7b" ++
      (",".intercalate ["Uuid:" ++ "$uuidIncoming"] ++ ("\x7d" ++ (")" ++ (r.fromPart ++ ("[r:" ++
        (r.name.text ++ ("]" ++ (r.toPart ++ ("(" ++ ("\x7b" ++
          (",".intercalate ["Uuid:" ++ "$uuidOutgoing"] ++ "\x7d) DELETE r")))))))))))) := by
    unfold dropRelationship
    rw [← String.toList_inj]
    simp
  have source := areEntries_identifier (by decide : IsElement "$uuidIncoming")
  have target := areEntries_identifier (by decide : IsElement "$uuidOutgoing")
  have tail : Filled Belongs ("]" ++ (r.toPart ++ ("(" ++ ("\x7b" ++
      (",".intercalate ["Uuid:" ++ "$uuidOutgoing"] ++ "\x7d) DELETE r"))))) :=
    (((Filled.braced target
      (by decide : _ = "\x7d" ++ ") DELETE r") (.of_plain (by decide))).prepend
        (by decide)).prepend (plain_toPart r)).prepend (by decide)
  rw [read]
  exact (Filled.braced source rfl
    ((filled_edge r tail).prepend (by decide))).prepend (by decide)

theorem filled_lookup (edge : Relationship) (related : Identifier) :
    Filled Belongs (lookup label.text edge related.text) := by
  have path : ")" ++ ((edge.pattern ++ Relationship.relatedNodePattern related.text) ++
      (" RETURN " ++ "rNode")) = ")" ++ (edge.fromPart ++ ("[r:" ++ (edge.name.text ++ ("]" ++
        (edge.toPart ++ ("(rNode:" ++ (related.text ++ ("\x7b" ++
          (",".intercalate ["IsDeleted:false"] ++ "\x7d) RETURN rNode"))))))))) := by
    rw [← String.toList_inj]
    simp [Relationship.pattern, Relationship.relatedNodePattern, relatedVariable, deletedKey]
  have tail : Filled Belongs ("]" ++ (edge.toPart ++ ("(rNode:" ++ (related.text ++ ("\x7b" ++
      (",".intercalate ["IsDeleted:false"] ++ "\x7d) RETURN rNode")))))) :=
    ((filled_node related (by decide) areEntries_live (by decide : _ = "\x7d" ++ ") RETURN rNode")
      (.of_plain (by decide))).prepend (plain_toPart edge)).prepend (by decide)
  have root : "Uuid:$uuid" = ",".intercalate ["Uuid:" ++ "$uuid"] := by decide
  rw [lookup, root]
  refine filled_getByProperties label (areEntries_identifier (by decide)) ?_
  rw [path]
  exact (filled_edge edge tail).prepend (by decide)

end Wording

/-! ### Operations -/

/-- What an operation sets: properties, but for a label. -/
def Operation.Sets : Operation → String → Prop
  | addLabel _ label => fun list => ∃ name, label = .text name ∧ list = nodeVariable ++ ":" ++ name
  | _ => Assigns

/-- An update finds something to write: a field that an update writes, with a value if nulls are
left out. -/
def Operation.Writes (c : Catalog) (now : Float) : Operation → Prop
  | update entity _ _ => ∃ d, c.describeEntity entity = .ok d ∧ d.updatableFields ≠ []
  | partialUpdate entity uuid _ => ∃ d, c.describeEntity entity = .ok d ∧
    ∃ e ∈ (Request.stamped now (entity.withAttr "uuid" uuid)).storedValues d.updatableFields,
      e.2.isNull = false
  | _ => True

/-- What is between the braces of a statement, and behind `SET`, is not empty; and there are
braces. -/
structure Whole (Belongs : String → Prop) (statement : String) : Prop where
  /-- The lists of the statement are filled. -/
  filled : Filled Belongs statement
  /-- There is one between braces. -/
  limited : insides statement ≠ []

theorem insides_ne_nil {s : String} (h : '\x7b' ∈ s.toList) : insides s ≠ [] := by
  have found (cs : List Char) (hc : '\x7b' ∈ cs) : insidesIn cs ≠ [] := by
    induction cs with
    | nil => cases hc
    | cons c rest ih =>
      rw [insidesIn]
      split
      · exact List.cons_ne_nil _ _
      · next other => exact ih ((List.mem_cons.mp hc).resolve_left fun e => other e.symm)
  exact found s.toList h

theorem whole_of_filled {Belongs : String → Prop} {s : String} (h : Filled Belongs s)
    (hb : '\x7b' ∈ s.toList) : Whole Belongs s :=
  ⟨h, insides_ne_nil hb⟩

/-- A property map that holds something holds something when it is translated. -/
theorem Descriptor.values_ne_nil {d : Descriptor} {entries : Entries} {values : Parameters}
    (h : d.translate entries = Value.ofNames values) (hne : entries ≠ []) : values ≠ [] := by
  obtain ⟨given, hg, rfl⟩ := translate_eq_ofNames h
  obtain ⟨e, he⟩ := List.exists_mem_of_ne_nil entries hne
  have mapped : (d.graphKey e.1, e.2) ∈ Value.ofNames given := hg ▸ List.mem_map_of_mem he
  obtain ⟨g, hm, -⟩ := List.mem_map.mp mapped
  have kept := (Assoc.mem_keys_ofEntries given g.1).mpr (List.mem_map_of_mem hm)
  rintro empty
  rw [empty] at kept
  cases kept

namespace Request

variable {c : Catalog} {now : Float} {identifier : String} {r : Request}

/-- The conditions of a property map. -/
theorem areEntries_conditions {values : Parameters} (hne : values ≠ [])
    (hv : ∀ k ∈ Assoc.keys values, isIdentifier k.toList = true) :
    AreEntries (Clause.parts .condition "" values) :=
  Clause.areEntries_parts hv hne (by decide)

theorem whole_add {Belongs : String → Prop} {entity : Value} (h : add c identifier entity = .ok r) :
    Whole Belongs r.statement := by
  obtain ⟨type, d, ht, hd, rfl⟩ := add_eq_ok h
  have conditions : AreEntries (Clause.parts .condition "" (createdValues d entity identifier)) :=
    areEntries_conditions (by simp [createdValues])
      fun _ hk => isIdentifier_of_mem_createdValues identifier entity hd hk
  rw [Clause.text_ofValues_parts]
  exact whole_of_filled (Wording.filled_create d.label conditions) (by simp [Wording.create])

theorem whole_update {skipNull fetch : Bool} {entity uuid : Value}
    (h : update c now skipNull entity uuid fetch = .ok r)
    (hw : ∀ id d, uuid = .text id → c.describeEntity entity = .ok d →
      updatedValues d skipNull (written now entity id) ≠ []) : Whole Assigns r.statement := by
  obtain ⟨type, id, d, ht, hu, hd, rfl⟩ := update_eq_ok h
  have some := hw id d hu (Catalog.describeEntity_eq ht hd)
  have marked := Clause.areSet_parts (fun _ hk => isIdentifier_of_mem_updatedValues hd hk) some
    (.inl rfl) (by decide)
  have ending : Filled Assigns (" " ++ if fetch then "RETURN " ++ nodeVariable else "") := by
    cases fetch with
    | false => exact .of_none (by decide) (by decide) (by decide)
    | true => exact .of_plain (by decide)
  rw [Clause.text_ofValues_parts]
  exact whole_of_filled (Wording.filled_update d.label marked ending) (by simp [Wording.update])

theorem whole_merge {onCreate onUpdate properties : Value}
    (h : merge c now identifier onCreate onUpdate properties = .ok r) :
    Whole Assigns r.statement := by
  obtain ⟨type, updatedType, entries, d, u, values, -, -, -, hne, hd, hu, hv, hk, rfl⟩ :=
    merge_eq_ok h
  have conditions := areEntries_conditions (Descriptor.values_ne_nil hv hne) hk
  have created : AreSet Assigns (Clause.parts (.assignment nodeVariable) onCreatePrefix
      (createdValues d onCreate identifier)) :=
    Clause.areSet_parts (fun _ hk => isIdentifier_of_mem_createdValues identifier onCreate hd hk)
      (by simp [createdValues]) (.inr (by decide)) (by decide)
  have matched (values : Parameters) (hv : ∀ k ∈ Assoc.keys values, isIdentifier k.toList = true) :
      onMatch (.ofValues (.assignment nodeVariable) onMatchPrefix values) = "" ∨
        ∃ updated, AreSet Assigns updated ∧
          onMatch (.ofValues (.assignment nodeVariable) onMatchPrefix values) =
            "ON MATCH SET " ++ ",".intercalate updated := by
    unfold onMatch
    split
    · exact .inl rfl
    · next filled =>
      have hne : values ≠ [] := by
        rintro rfl
        exact filled rfl
      refine .inr ⟨Clause.parts (.assignment nodeVariable) onMatchPrefix values, ?_, ?_⟩
      · exact Clause.areSet_parts hv hne (.inr (by decide)) (by decide)
      · rw [Clause.text_ofValues_parts]
  rw [Clause.text_ofValues_parts, Clause.text_ofValues_parts]
  refine whole_of_filled (Wording.filled_merge d.label conditions created (matched _ ?_))
    (by simp [Wording.merge])
  exact fun _ hk => isIdentifier_of_mem_updatable hu hk

end Request

/-- An update of all fields has a value for each that an update writes. -/
theorem updatedValues_ne_nil {d : Descriptor} (hne : d.updatableFields ≠ []) (entity : Value) :
    Request.updatedValues d false entity ≠ [] := by
  obtain ⟨f, hf⟩ := List.exists_mem_of_ne_nil _ hne
  have stored := (Descriptor.mem_settableFields.mp (Descriptor.mem_updatableFields.mp hf).1).2.1
  have key : f.key ∈ Assoc.keys (Request.updatedValues d false entity) :=
    Value.mem_keys_storedValues.mpr ⟨f, hf, stored, rfl⟩
  intro none
  rw [none] at key
  cases key

/-- **The request of an operation has no empty list**, if an update writes anything. -/
theorem Operation.whole_request {c : Catalog} {now : Float} {identifier : String}
    {operation : Operation} (ho : operation.isCustom = false) (hw : operation.Writes c now)
    {r : Request} (h : operation.request c now identifier = .ok r) :
    Whole operation.Sets r.statement := by
  cases operation with
  | add entity => exact Request.whole_add h
  | update entity uuid fetch =>
    obtain ⟨d, hd, hne⟩ := hw
    refine Request.whole_update h ?_
    intro id d' _ hd'
    obtain rfl := Except.ok.inj (hd.symm.trans hd')
    exact updatedValues_ne_nil hne _
  | partialUpdate entity uuid fetch =>
    obtain ⟨d, hd, e, he, hn⟩ := hw
    refine Request.whole_update h ?_
    rintro id d' rfl hd'
    obtain rfl := Except.ok.inj (hd.symm.trans hd')
    exact List.ne_nil_of_mem (List.mem_filter.mpr ⟨he, by simpa using hn⟩)
  | merge onCreate onUpdate properties => exact Request.whole_merge h
  | delete type uuid =>
    obtain ⟨id, t, d, -, -, -, rfl⟩ := Request.delete_eq_ok h
    exact whole_of_filled (Wording.filled_delete d.label) (by simp [Wording.delete])
  | drop type uuid =>
    obtain ⟨id, d, -, -, rfl⟩ := Request.drop_eq_ok h
    exact whole_of_filled (Wording.filled_drop d.label) (by simp [Wording.drop])
  | dropByProperties type properties =>
    obtain ⟨entries, d, values, -, hne, -, hv, hk, rfl⟩ := Request.dropByProperties_eq_ok h
    have conditions := Request.areEntries_conditions (Descriptor.values_ne_nil hv hne) hk
    rw [Clause.text_ofValues_parts]
    exact whole_of_filled (Wording.filled_dropByProperties d.label conditions)
      (by simp [Wording.dropByProperties])
  | getByProperty type name value =>
    obtain ⟨property, t, d, key, -, -, -, -, hk, rfl⟩ := Request.getByProperty_eq_ok h
    exact whole_of_filled (Wording.filled_getByProperty d.label hk)
      (by simp [Wording.getByProperty])
  | getByProperties type properties =>
    obtain ⟨entries, t, d, values, -, hne, -, -, hv, hk, rfl⟩ := Request.getByProperties_eq_ok h
    have conditions := Request.areEntries_conditions (Descriptor.values_ne_nil hv hne) hk
    rw [Clause.text_ofValues_parts]
    exact whole_of_filled (Wording.filled_read d.label conditions)
      (by simp [Wording.getByProperties])
  | getAll type =>
    obtain ⟨t, d, -, -, rfl⟩ := Request.getAll_eq_ok h
    exact whole_of_filled (Wording.filled_getAll d.label) (by simp [Wording.getAll])
  | getByUuid type uuid =>
    obtain ⟨id, t, d, -, -, -, rfl⟩ := Request.getByUuid_eq_ok h
    exact whole_of_filled (Wording.filled_getByProperty d.label (by decide))
      (by simp [Wording.getByProperty])
  | createRelationship fromUuid toUuid edge? properties =>
    obtain ⟨fromId, toId, edge, values, -, -, -, -, hk, rfl⟩ :=
      Request.createRelationship_eq_ok h
    exact whole_of_filled (Wording.filled_createRelationship edge hk)
      (by simp [Wording.createRelationship, Wording.ends])
  | mergeRelationship fromUuid toUuid edge? =>
    obtain ⟨fromId, toId, edge, -, -, -, rfl⟩ := Request.mergeRelationship_eq_ok h
    exact whole_of_filled (Wording.filled_mergeRelationship edge)
      (by simp [Wording.mergeRelationship, Wording.ends])
  | dropRelationship incomingUuid outgoingUuid edge? =>
    obtain ⟨incoming, outgoing, edge, -, -, -, rfl⟩ := Request.dropRelationship_eq_ok h
    refine whole_of_filled (Wording.filled_dropRelationship edge) ?_
    unfold Wording.dropRelationship
    simp
  | addLabel uuid label =>
    obtain ⟨id, i, -, rfl, rfl⟩ := Request.addLabel_eq_ok h
    have labelled : Filled (Operation.addLabel uuid (.text i.text)).Sets
        (Wording.addLabel i.text) := by
      refine (Wording.filled_addLabel i).mono ?_
      rintro list rfl
      exact ⟨i.text, rfl, rfl⟩
    refine whole_of_filled labelled ?_
    unfold Wording.addLabel
    simp
  | runQuery query parameters => cases ho
  | runQueryAs type query parameters => cases ho

theorem IsLookup.whole {Belongs : String → Prop} {statement : String} {parameters : Value}
    (h : IsLookup statement parameters) : Whole Belongs statement := by
  obtain ⟨label, edge, related, uuid, rfl, -⟩ := h
  exact whole_of_filled (Wording.filled_lookup label edge related)
    (by simp [Wording.lookup, Wording.getByProperties])

namespace Client

variable {σ : Type} [Database σ]

/-- Asking whether the database answers sends one statement, which has no lists. -/
theorem filled_of_mem_statements_ping (c : Catalog) (w : World σ) :
    ∀ sent ∈ (ping c).statements w, Filled Assigns sent.1 := by
  intro sent h
  -- No parameters are given, which is the same as an empty map of them.
  have plain : (ping c : Action σ Value) =
      send c { Request.ping with parameters := .ofParameters [] } := rfl
  have asks : Asks (Sends fun s _ => Filled Assigns s)
      (send c { Request.ping with parameters := .ofParameters [] } : Action σ Value) :=
    within_send_of_not_looksUp rfl rfl (sends_execute (.of_plain (by decide)))
  rw [plain] at h
  exact asks.holds w sent h

/-- **No statement has an empty list.** In every statement that an operation sends, lookups
included, there are entries between every pair of braces, and there is such a pair; behind every
`SET` there is an assignment, or the label that is added; and no list has an empty element. All
this if an update finds anything to write. -/
theorem whole_of_mem_statements (c : Catalog) {operation : Operation}
    (ho : operation.isCustom = false) (w : World σ) (hw : operation.Writes c w.now) :
    (∀ sent ∈ (perform c operation).statements w, Whole operation.Sets sent.1) ∧
      ∀ sent ∈ (ping c).statements w, Filled Assigns sent.1 := by
  refine ⟨?_, filled_of_mem_statements_ping c w⟩
  intro sent h
  obtain ⟨r, v, hr, -, hv⟩ := exists_request (List.ne_nil_of_mem h)
  obtain ⟨parameters, hp⟩ := operation.exists_parameters ho hr
  have root := operation.whole_request ho hw hr
  have asks : Asks (Sends fun s _ => Whole operation.Sets s) (send c r : Action σ Value) :=
    within_send (fun _ _ lookup => sends_execute lookup.whole) hp (sends_execute root)
  rw [hv] at h
  exact asks.holds v sent h

end Client

/-! ### What is set without an assignment -/

theorem Statement.Assigns.exists_equals {list : String} (h : Assigns list) :
    ∃ part ∈ pieces ',' list, '=' ∈ part.toList := by
  obtain ⟨part, hm, var, key, name, -, -, -, rfl⟩ := h
  exact ⟨_, hm, by simp⟩

namespace Example

/-- Receipts keep whatever they were made with, the base fields included. -/
def receipt : EntityType :=
  { number := 0
    name := "Receipt"
    label := .text "Receipt"
    fields := EntityType.extend baseFields
      [{ name := "updated_at", type := .optional (.plain .float), alias? := some updatedAtKey,
         default := .value .null, frozen := true },
       { name := "is_deleted", type := .plain .truth, alias? := some deletedKey,
         default := .value (.bool false), frozen := true }] }

/-- The catalog of receipts. -/
def receipts : Catalog := ⟨[receipt]⟩

/-- A receipt. -/
def oneReceipt : Value :=
  .entity receipt.ref
    [("uuid", .null), ("created_at", .float 0), ("updated_at", .null),
      ("is_deleted", .bool false)]

end Example

namespace Client

/-- A partial update of a user finds something to write, and sends a statement whose lists are not
empty. -/
theorem whole_of_mem_statements_users :
    ∃ sent ∈ (perform Example.users (.partialUpdate (Example.userWith "b@x") (.text "u1")
        false)).statements (Example.connected []), Whole Assigns sent.1 := by
  have sends : ((perform Example.users (.partialUpdate (Example.userWith "b@x") (.text "u1")
      false)).statements (Example.connected [])).isEmpty = false := by
    decide +kernel
  obtain ⟨sent, hs⟩ := List.exists_mem_of_ne_nil _ (List.isEmpty_eq_false_iff.mp sends)
  have writes : (Operation.partialUpdate (Example.userWith "b@x") (.text "u1") false).Writes
      Example.users (Example.connected []).now :=
    ⟨_, rfl, ("IsDeleted", .bool false), List.mem_cons_of_mem _ List.mem_cons_self, rfl⟩
  exact ⟨sent, hs, (whole_of_mem_statements Example.users rfl (Example.connected []) writes).1
    sent hs⟩

/-- Adding a label assigns nothing behind `SET`, and neither does the update of an entity whose
type has no field that an update writes. -/
theorem unassigned_of_addLabel_of_update :
    (¬ ∀ sent ∈ (perform Example.users (.addLabel (.text "u1") (.text "Admin"))).statements
        (Example.connected []), Filled Assigns sent.1) ∧
      ¬ ∀ sent ∈ (perform Example.receipts (.update Example.oneReceipt (.text "u1")
        true)).statements (Example.connected []), Filled Assigns sent.1 := by
  have labelled : ((perform Example.users (.addLabel (.text "u1") (.text "Admin"))).statements
      (Example.connected [])).map Prod.fst = ["MATCH (n\x7bUuid:$Uuid\x7d) SET n:Admin"] := by
    decide +kernel
  have updated : ((perform Example.receipts (.update Example.oneReceipt (.text "u1")
      true)).statements (Example.connected [])).map Prod.fst =
        ["MATCH (n:Receipt\x7bUuid:$Uuid,IsDeleted:false\x7d) SET  RETURN n"] := by
    decide +kernel
  constructor
  · intro claim
    obtain ⟨sent, hs, first⟩ := List.mem_map.mp (labelled ▸ List.mem_cons_self)
    have list : "n:Admin" ∈ setLists sent.1 := by
      rw [first]
      decide
    exact absurd ((claim sent hs).sets _ list).exists_equals (by decide)
  · intro claim
    obtain ⟨sent, hs, first⟩ := List.mem_map.mp (updated ▸ List.mem_cons_self)
    have list : "" ∈ setLists sent.1 := by
      rw [first]
      decide
    exact absurd ((claim sent hs).sets _ list).exists_equals (by decide)

end Client

end GraphMapper
