import GraphMapper.Proofs.Decoding
import GraphMapper.Relationship

/-!
# Edges in a statement

A statement that follows an edge, or makes or removes one, writes it between two nodes: each node in
parentheses, and between them an arrow with the name of the edge in brackets. This file reads such a
pattern off the characters of a statement.

* `GraphMapper.Statement.nodes` are the nodes of a statement, each with what stands behind it.
* `GraphMapper.Statement.edges` are its edges: the nodes next to each other with brackets between
  them. Of the nodes it is said which properties have the value of a parameter. A node that is
  written twice, with the same variable, is one node, so that what is said of it in one place holds
  in the other.
* `GraphMapper.EdgePattern.Admits` says which edges of a graph fit the pattern: the arrow gives
  their name and direction, and the nodes at the two ends are those that the parameters identify.

A statement is read from its nodes (`GraphMapper.Statement.nodes_written`): none of the marks may
stand inside of what is put between them.
-/

namespace GraphMapper

open Statement

/-! ### Reading nodes -/

/-- A node as it is written: what stands between its parentheses, and what follows behind them up
to the next node. -/
structure NodeText where
  /-- What is said of the node. -/
  inside : String
  /-- What follows. -/
  behind : String
  deriving DecidableEq

namespace NodeText

/-- The text of a node and of what follows. -/
def text (n : NodeText) : String := n.inside ++ (")" ++ n.behind)

/-- No parenthesis is taken for one of the node. -/
structure Clear (n : NodeText) : Prop where
  /-- None is opened inside. -/
  unopened : '(' ∉ n.inside.toList
  /-- None is closed inside. -/
  unclosed : ')' ∉ n.inside.toList
  /-- None is opened behind. -/
  last : '(' ∉ n.behind.toList

theorem Clear.of_notMem {inside behind : String} (h : '(' ∉ inside.toList ∧ ')' ∉ inside.toList)
    (last : '(' ∉ behind.toList) : Clear ⟨inside, behind⟩ := ⟨h.1, h.2, last⟩

/-- A text cut behind its first closing parenthesis. -/
def ofText (s : String) : NodeText :=
  ⟨String.ofList (s.toList.takeWhile (· ≠ ')')),
    String.ofList ((s.toList.dropWhile (· ≠ ')')).drop 1)⟩

theorem ofText_text {n : NodeText} (h : n.Clear) : ofText n.text = n := by
  have inner : ∀ c ∈ n.inside.toList, decide (c ≠ ')') = true := by
    intro c hc
    exact decide_eq_true fun e => h.unclosed (e ▸ hc)
  have whole : n.text.toList = n.inside.toList ++ ')' :: n.behind.toList := by
    simp [text]
  rw [ofText, whole, takeWhile_upTo h.unclosed (by simp), List.dropWhile_append_of_pos inner,
    List.dropWhile_cons_of_neg (by simp), List.drop_one, List.tail_cons, String.ofList_toList,
    String.ofList_toList]

theorem unopened_text {n : NodeText} (h : n.Clear) : '(' ∉ n.text.toList := by
  simp [text, h.unopened, h.last]

end NodeText

namespace Statement

/-- The nodes of a statement. -/
def nodes (s : String) : List NodeText := (pieces '(' s).tail.map NodeText.ofText

/-- A statement as it is put together: what stands in front of the nodes, and the nodes. -/
def written (front : String) (ns : List NodeText) : String :=
  "(".intercalate (front :: ns.map NodeText.text)

/-- **Nodes that are written are read.** -/
theorem nodes_written {front : String} {ns : List NodeText} (hf : '(' ∉ front.toList)
    (hn : ∀ n ∈ ns, n.Clear) : nodes (written front ns) = ns := by
  have apart : ∀ part ∈ front :: ns.map NodeText.text, '(' ∉ part.toList := by
    refine List.forall_mem_cons.mpr ⟨hf, ?_⟩
    rintro _ hp
    obtain ⟨n, hm, rfl⟩ := List.mem_map.mp hp
    exact NodeText.unopened_text (hn n hm)
  have cut : pieces '(' (written front ns) = front :: ns.map NodeText.text :=
    pieces_intercalate (List.cons_ne_nil _ _) apart
  rw [nodes, cut, List.tail_cons, List.map_map]
  conv_rhs => rw [← List.map_id ns]
  exact List.map_congr_left fun n hm => NodeText.ofText_text (hn n hm)

/-! ### Reading edges -/

/-- The variable of a node, if it has one. -/
def variableOf (inside : String) : String :=
  String.ofList (inside.toList.takeWhile fun c => c ≠ ':' && c ≠ '\x7b')

/-- Whether two texts are of one node: they have the same variable, or there is none and they are
the same. -/
def sameNode (a b : String) : Bool :=
  if variableOf a = "" then a = b else variableOf a = variableOf b

@[simp] theorem sameNode_self (a : String) : sameNode a a = true := by
  simp [sameNode]

/-- What is said of a node, wherever it is written: the properties that have the values of
parameters. -/
def boundTo (ns : List NodeText) (parameters : Parameters) (inside : String) : Entries :=
  ns.flatMap fun n =>
    if sameNode inside n.inside then Clause.decoded (between '\x7b' '\x7d' n.inside) parameters
    else []

end Statement

/-- An edge as it is written: what is said of the node on the left, what stands between the nodes,
and what is said of the node on the right. -/
structure EdgePattern where
  /-- The properties of the node on the left. -/
  left : Entries
  /-- What stands between. -/
  between : String
  /-- The properties of the node on the right. -/
  right : Entries

/-- What is said of a node of which only the identifier is given. -/
def identified (identifier : Value) : Entries := [(.text identifierKey, identifier)]

namespace Statement

/-- The conditions in a text that name a parameter, each cut in two. -/
def pairs (text : String) : List (List String) :=
  ((pieces ',' text).map (pairPieces ':' '$')).filter (·.length = 2)

/-- Only the conditions that name a parameter say something of a node. -/
theorem decoded_eq (text : String) (parameters : Parameters) : Clause.decoded text parameters =
    (pairs text).filterMap fun pair => match pair with
      | [key, name] => (parameters.lookup name).map fun v => (.text key, v)
      | _ => none := by
  rw [Clause.decoded, pairs, List.filterMap_filter, List.filterMap_map]
  refine List.filterMap_congr fun part _ => ?_
  rw [Function.comp_apply, Clause.bound?]
  rcases pairPieces ':' '$' part with _ | ⟨key, _ | ⟨name, _ | _⟩⟩ <;> simp

theorem decoded_identified {text name : String} {parameters : Parameters} {identifier : Value}
    (h : pairs text = [[identifierKey, name]]) (found : parameters.lookup name = some identifier) :
    Clause.decoded text parameters = identified identifier := by
  rw [decoded_eq, h]
  simp [found, identified]

theorem decoded_silent {text : String} (h : pairs text = []) (parameters : Parameters) :
    Clause.decoded text parameters = [] := by
  rw [decoded_eq, h, List.filterMap_nil]

/-- The edges between some nodes. -/
def edgesAmong (ns : List NodeText) (parameters : Parameters) : List EdgePattern :=
  ((ns.zip ns.tail).filter fun p => p.1.behind.toList.contains '[').map fun p =>
    ⟨boundTo ns parameters p.1.inside, p.1.behind, boundTo ns parameters p.2.inside⟩

/-- The edges of a statement: nodes next to each other with brackets between them. -/
def edges (s : String) (parameters : Parameters) : List EdgePattern :=
  edgesAmong (nodes s) parameters

example : (edges "MATCH (a\x7bUuid:$x\x7d),(b) MERGE (a)-[r:KNOWS]->(b) RETURN r"
    [("x", .text "u1")]).map EdgePattern.between = ["-[r:KNOWS]->"] := by
  decide

end Statement

/-! ### Edges that fit -/

/-- An edge of a graph: its name, and the identifiers of the nodes it leads from and to. -/
structure Edge where
  /-- The name. -/
  name : String
  /-- The identifier of the node it leads from. -/
  source : Value
  /-- The identifier of the node it leads to. -/
  target : Value

/-- The direction of an arrow, as seen from the left, and the name in its brackets. -/
def Direction.ofArrow? (arrow : String) : Option (Direction × String) :=
  let named (rest : List Char) := String.ofList (rest.takeWhile fun c => c ≠ ']' && c ≠ '\x7b')
  match arrow.toList with
  | '<' :: '-' :: '[' :: 'r' :: ':' :: rest =>
    if [']', '-'] <:+ rest then some (.incoming, named rest) else none
  | '-' :: '[' :: 'r' :: ':' :: rest =>
    if [']', '-', '>'] <:+ rest then some (.outgoing, named rest) else none
  | _ => none

/-- The node with an identifier fits what is said of a node. -/
def fitsNode (said : Entries) (identifier : Value) : Prop :=
  ∀ e ∈ said, e.1 = .text identifierKey → e.2 = identifier

/-- **The edges that fit a pattern**: the arrow gives the name, and where it points, the edge leads
to the node on the right, and to the one on the left otherwise. -/
def EdgePattern.Admits (p : EdgePattern) (e : Edge) : Prop :=
  ∃ direction, Direction.ofArrow? p.between = some (direction, e.name) ∧
    match direction with
    | .outgoing => fitsNode p.left e.source ∧ fitsNode p.right e.target
    | .incoming => fitsNode p.left e.target ∧ fitsNode p.right e.source

theorem fitsNode_identified {v identifier : Value} :
    fitsNode (identified v) identifier ↔ v = identifier := by
  simp [fitsNode, identified]

theorem fitsNode_nil (identifier : Value) : fitsNode [] identifier := by
  simp [fitsNode]

namespace Relationship

/-- The arrow of a relationship, with something behind the name. -/
def patternWith (r : Relationship) (behind : String) : String :=
  r.fromPart ++ "[r:" ++ r.name.text ++ behind ++ "]" ++ r.toPart

theorem patternWith_empty (r : Relationship) : r.patternWith "" = r.pattern := by
  rw [patternWith, pattern, String.append_empty]

/-- The edge of a relationship from a declaring node to another one. -/
def edge (r : Relationship) (declaring other : Value) : Edge :=
  match r.direction with
  | .outgoing => ⟨r.name.text, declaring, other⟩
  | .incoming => ⟨r.name.text, other, declaring⟩

/-- What can stand behind the name in an arrow: nothing, or something in braces. -/
def ClosesName (behind : String) : Prop := behind = "" ∨ behind.toList.head? = some '\x7b'

/-- A name is taken up to what closes it. -/
theorem takeWhile_name (r : Relationship) {behind : String} (h : ClosesName behind)
    (rest : List Char) :
    (r.name.text.toList ++ (behind.toList ++ ']' :: rest)).takeWhile
      (fun c => c ≠ ']' && c ≠ '\x7b') = r.name.text.toList := by
  have inner : ∀ c ∈ r.name.text.toList, (decide (c ≠ ']') && decide (c ≠ '\x7b')) = true := by
    intro c hc
    have bracket : c ≠ ']' := fun e => r.name.notMem (c := ']') rfl (by decide) (e ▸ hc)
    have brace : c ≠ '\x7b' := fun e => r.name.notMem (c := '\x7b') rfl (by decide) (e ▸ hc)
    simp [bracket, brace]
  refine takeWhile_append inner fun c hc => ?_
  rcases h with rfl | h
  · obtain rfl : ']' = c := by simpa using hc
    simp
  · obtain rfl : '\x7b' = c := by simpa [List.head?_append, h] using hc
    simp

/-- **The arrow of a relationship is read back.** -/
theorem ofArrow?_patternWith (r : Relationship) {behind : String} (h : ClosesName behind) :
    Direction.ofArrow? (r.patternWith behind) = some (r.direction, r.name.text) := by
  have named (rest : List Char) := congrArg String.ofList (r.takeWhile_name h rest)
  have ends (rest : List Char) :
      ']' :: rest <:+ r.name.text.toList ++ (behind.toList ++ ']' :: rest) :=
    (List.suffix_append _ _).trans (List.suffix_append _ _)
  unfold Direction.ofArrow?
  rcases r with ⟨name, _ | _⟩
  · have chars : (patternWith ⟨name, .incoming⟩ behind).toList = '<' :: '-' :: '[' :: 'r' :: ':' ::
        (name.text.toList ++ (behind.toList ++ [']', '-'])) := by
      simp [patternWith, fromPart, toPart]
    rw [chars]
    simp only [if_pos (ends ['-']), named ['-'], String.ofList_toList]
  · have chars : (patternWith ⟨name, .outgoing⟩ behind).toList = '-' :: '[' :: 'r' :: ':' ::
        (name.text.toList ++ (behind.toList ++ [']', '-', '>'])) := by
      simp [patternWith, fromPart, toPart]
    rw [chars]
    simp only [if_pos (ends ['-', '>']), named ['-', '>'], String.ofList_toList]

/-- **The edges that fit between two nodes are those of the relationship.** -/
theorem admits_iff (r : Relationship) {behind : String} (h : ClosesName behind) {a b : Value}
    {e : Edge} : EdgePattern.Admits ⟨identified a, r.patternWith behind, identified b⟩ e ↔
      e = r.edge a b := by
  rw [EdgePattern.Admits, r.ofArrow?_patternWith h]
  rcases r with ⟨name, _ | _⟩ <;> rcases e with ⟨named, source, target⟩ <;>
    simp [edge, fitsNode_identified, eq_comm, and_comm, and_assoc]

/-- If nothing is said of the other node, it can be any. -/
theorem admits_open_iff (r : Relationship) {a : Value} {e : Edge} :
    EdgePattern.Admits ⟨identified a, r.pattern, []⟩ e ↔ ∃ b, e = r.edge a b := by
  rw [EdgePattern.Admits, ← patternWith_empty, r.ofArrow?_patternWith (.inl rfl)]
  rcases r with ⟨name, _ | _⟩ <;> rcases e with ⟨named, source, target⟩ <;>
    simp [edge, fitsNode_identified, fitsNode_nil, eq_comm, and_comm]

end Relationship

end GraphMapper
