import Concordance.Proofs.Grammar.Validation

/-!
The first node at fault.  An address lists the numbers of the children that lead to a node, so the
lexicographic order of addresses is the depth-first order of nodes, each before those below it.
Validation gives the error of the first node that breaks a rule, with the address of that node.
-/

namespace Concordance

open Text

/-! Broken rules and the errors that stand for them. -/

/-- What is wrong with a terminal.  The first blank term is the one to blame. -/
inductive Terminal.Breaks (terminal : Terminal) (location : Location) : Error → Prop
  | emptyLayer (layer : terminal.layer = "") :
      Breaks terminal location (.malformed location .emptyLayer)
  | noTerms (matcher : terminal.matcher = .exact []) :
      Breaks terminal location (.malformed location .noTerms)
  | blankTerm {before after : List String} {term : String}
      (matcher : terminal.matcher = .exact (before ++ term :: after))
      (solid : ∀ earlier ∈ before, isBlankText earlier = false) (blank : isBlankText term = true) :
      Breaks terminal location (.malformed location (.blankTerm before.length))
  | misplacedWholeWord {pattern : String} (matcher : terminal.matcher = .regex pattern)
      (marked : terminal.wholeWord = true) :
      Breaks terminal location (.malformed location .misplacedWholeWord)
  | emptyPattern (matcher : terminal.matcher = .regex "") :
      Breaks terminal location (.malformed location .emptyPattern)
  | badPattern {pattern : String} (matcher : terminal.matcher = .regex pattern)
      (refused : Pattern.compile? true pattern = none) : Breaks terminal location .badPattern

inductive Operation.Breaks (operation : Operation) (childCount : Nat) (slop : Option Nat)
    (matchFirst : Bool) : Fault → Prop
  | noChildren (none : childCount = 0) :
      Breaks operation childCount slop matchFirst (.noChildren operation)
  | negationArity (negation : operation = .not) (several : childCount ≠ 1) :
      Breaks operation childCount slop matchFirst (.negationArity childCount)
  | misplacedSlop (given : slop.isSome = true) (other : operation ≠ .gap) :
      Breaks operation childCount slop matchFirst .misplacedSlop
  | zeroSlop (zero : slop = some 0) : Breaks operation childCount slop matchFirst .zeroSlop
  | misplacedMatchFirst (given : matchFirst = true) (notIntersect : operation ≠ .intersect)
      (notGap : operation ≠ .gap) :
      Breaks operation childCount slop matchFirst .misplacedMatchFirst

theorem Terminal.breaks_of_error? {terminal : Terminal} {location : Location} {error : Error}
    (fails : terminal.error? location = some error) : terminal.Breaks location error := by
  rw [error?] at fails
  split at fails
  · next layer =>
    cases fails
    exact .emptyLayer layer
  · cases shape : terminal.matcher with
    | exact terms =>
        rw [shape] at fails
        dsimp only at fails
        split at fails
        · next none =>
          cases fails
          exact .noTerms (shape.trans (congrArg _ (List.isEmpty_iff.mp none)))
        · obtain ⟨i, search, rfl⟩ := Option.map_eq_some_iff.mp fails
          obtain ⟨inside, blank, solid⟩ := List.findIdx?_eq_some_iff_getElem.mp search
          have split : terms = terms.take i ++ terms[i] :: terms.drop (i + 1) := by simp
          have length : (terms.take i).length = i := List.length_take_of_le (Nat.le_of_lt inside)
          rw [← length]
          refine .blankTerm (shape.trans (congrArg _ split)) ?_ blank
          intro earlier member
          obtain ⟨j, before, rfl⟩ := List.mem_take_iff_getElem.mp member
          simpa using solid j (by omega)
    | regex pattern =>
        rw [shape] at fails
        dsimp only at fails
        split at fails
        · next marked =>
          cases fails
          exact .misplacedWholeWord shape marked
        · split at fails
          · next empty =>
            cases fails
            exact .emptyPattern (empty ▸ shape)
          · split at fails
            · next refused =>
              cases fails
              exact .badPattern shape (Option.isNone_iff_eq_none.mp refused)
            · cases fails

theorem Operation.breaks_of_fault? {operation : Operation} {childCount : Nat} {slop : Option Nat}
    {matchFirst : Bool} {fault : Fault}
    (fails : operation.fault? childCount slop matchFirst = some fault) :
    operation.Breaks childCount slop matchFirst fault := by
  rw [fault?] at fails
  split at fails
  · next none =>
    cases fails
    exact .noChildren none
  · split at fails
    · next negation =>
      cases fails
      exact .negationArity negation.1 negation.2
    · split at fails
      · next slop =>
        cases fails
        exact .misplacedSlop slop.1 slop.2
      · split at fails
        · next zero =>
          cases fails
          exact .zeroSlop zero
        · split at fails
          · next first =>
            cases fails
            exact .misplacedMatchFirst first.1 first.2.1 first.2.2
          · cases fails

namespace Grammar

/-- The rules for the node at the root, those below apart. -/
def Allowed : Grammar → Prop
  | terminal t => t.Allowed
  | composite _ operation children slop matchFirst =>
    operation.Allows children.length slop matchFirst

/-- What is wrong with the node at the root, those below apart. -/
inductive Breaks (path : List Nat) : Grammar → Error → Prop
  | terminal {t : Terminal} {error : Error} (breaks : t.Breaks (.node path) error) :
      Breaks path (.terminal t) error
  | composite {name : String} {operation : Operation} {children : List Grammar}
      {slop : Option Nat} {matchFirst : Bool} {fault : Fault}
      (breaks : operation.Breaks children.length slop matchFirst fault) :
      Breaks path (.composite name operation children slop matchFirst)
        (.malformed (.node path) fault)

variable {grammar node : Grammar} {path : List Nat} {error : Error}

theorem error?_eq_none_iff : node.error? path = none ↔ node.Allowed := by
  cases node with
  | terminal t => exact Terminal.error?_eq_none_iff
  | composite name operation children slop matchFirst =>
      rw [error?, Option.map_eq_none_iff]
      exact Operation.fault?_eq_none_iff

theorem breaks_of_error? (fails : node.error? path = some error) : node.Breaks path error := by
  cases node with
  | terminal t => exact .terminal (Terminal.breaks_of_error? fails)
  | composite name operation children slop matchFirst =>
      obtain ⟨fault, broken, rfl⟩ := Option.map_eq_some_iff.mp fails
      exact .composite (Operation.breaks_of_fault? broken)

theorem Breaks.location_eq {location : Location} {fault : Fault}
    (breaks : node.Breaks path (.malformed location fault)) : location = .node path := by
  cases breaks with
  | terminal breaks => cases breaks <;> rfl
  | composite breaks => rfl

/-! Nodes and their addresses. -/

/-- The node that an address leads to. -/
def node? : Grammar → (path : List Nat) → Option Grammar
  | grammar, [] => some grammar
  | terminal _, _ :: _ => none
  | composite _ _ children _ _, i :: rest => children[i]?.bind (node? · rest)

mutual

/-- All nodes with their addresses, each before those below it. -/
def nodes : Grammar → List (List Nat × Grammar)
  | terminal t => [([], terminal t)]
  | composite name operation children slop matchFirst =>
    ([], composite name operation children slop matchFirst) :: nodesOfAll 0 children

def nodesOfAll (index : Nat) : List Grammar → List (List Nat × Grammar)
  | [] => []
  | child :: rest =>
    child.nodes.map (fun found => (index :: found.1, found.2)) ++ nodesOfAll (index + 1) rest

end

mutual

theorem mem_nodes_iff : ∀ {grammar : Grammar} {path : List Nat} {node : Grammar},
    (path, node) ∈ grammar.nodes ↔ grammar.node? path = some node
  | terminal t, path, node => by
      rw [nodes, List.mem_singleton, Prod.mk.injEq]
      cases path with
      | nil => simp [node?, eq_comm]
      | cons i rest => simp [node?]
  | composite name operation children slop matchFirst, path, node => by
      rw [nodes, List.mem_cons, Prod.mk.injEq, mem_nodesOfAll_iff]
      cases path with
      | nil => simp [node?, eq_comm]
      | cons i rest =>
          rw [node?, Option.bind_eq_some_iff]
          constructor
          · rintro (⟨⟨⟩, -⟩ | ⟨j, child, _, inside, same, leads⟩)
            rw [Nat.zero_add] at same
            cases same
            exact ⟨child, inside, leads⟩
          · rintro ⟨child, inside, leads⟩
            exact .inr ⟨i, child, rest, inside, by rw [Nat.zero_add], leads⟩

theorem mem_nodesOfAll_iff : ∀ {children : List Grammar} {index : Nat} {path : List Nat}
    {node : Grammar}, (path, node) ∈ nodesOfAll index children ↔
      ∃ i child rest, children[i]? = some child ∧ path = (index + i) :: rest ∧
        child.node? rest = some node
  | [], index, path, node => by simp [nodesOfAll]
  | first :: others, index, path, node => by
      rw [nodesOfAll, List.mem_append, mem_nodesOfAll_iff, List.mem_map]
      constructor
      · rintro (⟨⟨rest, found⟩, member, same⟩ | ⟨i, child, rest, inside, rfl, leads⟩)
        · cases same
          exact ⟨0, first, rest, rfl, rfl, mem_nodes_iff.mp member⟩
        · exact ⟨i + 1, child, rest, inside, by rw [Nat.add_right_comm, Nat.add_assoc], leads⟩
      · rintro ⟨i, child, rest, inside, rfl, leads⟩
        cases i with
        | zero =>
            cases inside
            exact .inl ⟨(rest, node), mem_nodes_iff.mpr leads, rfl⟩
        | succ i =>
            exact .inr ⟨i, child, rest, inside, by rw [Nat.add_right_comm, Nat.add_assoc], leads⟩

end

mutual

theorem pairwise_nodes : ∀ grammar : Grammar,
    grammar.nodes.Pairwise fun before after => before.1 < after.1
  | terminal t => List.pairwise_singleton _ _
  | composite name operation children slop matchFirst => by
      rw [nodes]
      refine List.pairwise_cons.mpr ⟨?_, pairwise_nodesOfAll children 0⟩
      rintro ⟨path, node⟩ member
      obtain ⟨i, _, rest, -, rfl, -⟩ := mem_nodesOfAll_iff.mp member
      exact List.nil_lt_cons _ _

theorem pairwise_nodesOfAll : ∀ (children : List Grammar) (index : Nat),
    (nodesOfAll index children).Pairwise fun before after => before.1 < after.1
  | [], _ => .nil
  | child :: rest, index => by
      rw [nodesOfAll]
      refine List.pairwise_append.mpr ⟨?_, pairwise_nodesOfAll rest (index + 1), ?_⟩
      · exact List.pairwise_map.mpr ((pairwise_nodes child).imp fun before =>
          List.cons_lt_cons_iff.mpr (.inr ⟨rfl, before⟩))
      · rintro _ member ⟨path, node⟩ laterMember
        obtain ⟨found, -, rfl⟩ := List.mem_map.mp member
        obtain ⟨i, _, _, -, rfl, -⟩ := mem_nodesOfAll_iff.mp laterMember
        exact List.cons_lt_cons_iff.mpr (.inl (by omega))

end

/-! Validation. -/

theorem elim_eq_ok_iff {found : Option Error} :
    found.elim (.ok ()) .error = (.ok () : Except Error Unit) ↔ found = none := by
  cases found <;> simp

theorem elim_eq_error_iff {found : Option Error} :
    found.elim (.ok ()) .error = (.error error : Except Error Unit) ↔ found = some error := by
  cases found <;> simp

mutual

theorem validateAt_eq_findSome? : ∀ (grammar : Grammar) (path : List Nat),
    grammar.validateAt path =
      (grammar.nodes.findSome? fun found => found.2.error? (path ++ found.1)).elim (.ok ()) .error
  | terminal t, path => by
      rw [validateAt, nodes, List.findSome?_singleton, List.append_nil, error?]
      cases t.error? (.node path) <;> rfl
  | composite name operation children slop matchFirst, path => by
      rw [validateAt, nodes, List.findSome?_cons, List.append_nil, error?,
        validateAll_eq_findSome? children path 0]
      cases operation.fault? children.length slop matchFirst <;> rfl

theorem validateAll_eq_findSome? : ∀ (children : List Grammar) (path : List Nat) (index : Nat),
    validateAll path index children =
      ((nodesOfAll index children).findSome? fun found =>
        found.2.error? (path ++ found.1)).elim (.ok ()) .error
  | [], path, index => rfl
  | child :: rest, path, index => by
      rw [validateAll, nodesOfAll, List.findSome?_append, List.findSome?_map,
        validateAt_eq_findSome? child (path ++ [index]), validateAll_eq_findSome? rest path _]
      simp only [Function.comp_def, List.append_assoc, List.singleton_append]
      cases child.nodes.findSome? fun found => found.2.error? (path ++ index :: found.1) <;> rfl

end

/-- The first node, in depth-first order, that breaks a rule. -/
structure FirstAtFault (grammar : Grammar) (path : List Nat) (node : Grammar) : Prop where
  leads : grammar.node? path = some node
  breaks : ¬node.Allowed
  first : ∀ earlier other, earlier < path → grammar.node? earlier = some other → other.Allowed

theorem findSome?_nodes_eq_some_iff :
    (grammar.nodes.findSome? fun found => found.2.error? found.1) = some error ↔
      ∃ path node, grammar.FirstAtFault path node ∧ node.error? path = some error := by
  have ordered := pairwise_nodes grammar
  rw [List.findSome?_eq_some_iff]
  constructor
  · rintro ⟨before, ⟨path, node⟩, after, split, fails, faultless⟩
    rw [split, List.pairwise_append, List.pairwise_cons] at ordered
    refine ⟨path, node, ⟨mem_nodes_iff.mp (by simp [split]), ?_, ?_⟩, fails⟩
    · rw [← error?_eq_none_iff, fails]
      exact nofun
    · intro earlier other less leads
      have member := mem_nodes_iff.mpr leads
      rw [split, List.mem_append, List.mem_cons] at member
      rcases member with member | same | member
      · exact error?_eq_none_iff.mp (faultless _ member)
      · cases same
        exact absurd less (List.lt_irrefl path)
      · exact absurd less (List.lt_asymm (ordered.2.1.1 _ member))
  · rintro ⟨path, node, ⟨leads, -, first⟩, fails⟩
    obtain ⟨before, after, split⟩ := List.append_of_mem (mem_nodes_iff.mpr leads)
    rw [split, List.pairwise_append] at ordered
    refine ⟨before, _, after, split, fails, ?_⟩
    rintro ⟨earlier, other⟩ member
    apply error?_eq_none_iff.mpr
    apply first earlier other (ordered.2.2 _ member _ List.mem_cons_self)
    exact mem_nodes_iff.mp (by simp [split, member])

theorem display_node (path : List Nat) :
    (Location.node path).display =
      "root" ++ String.join (path.map fun i => ".children[" ++ toString i ++ "]") := by
  rw [Location.display]
  generalize "root" = text
  induction path generalizing text with
  | nil => rw [List.foldl_nil, List.map_nil, String.join_nil, String.append_empty]
  | cons i rest ih =>
      rw [List.foldl_cons, ih, List.map_cons, String.join_cons]
      simp only [String.append_assoc]

/-- Validation accepts a tree exactly if every node in it keeps the rules.  Else it gives the error
of the first node that breaks one, and where that error has a place, it is the address of the node.
-/
theorem validate_blames_first (grammar : Grammar) :
    (grammar.validate = .ok () ↔
      ∀ path node, grammar.node? path = some node → node.Allowed) ∧
    ∀ error, grammar.validate = .error error ↔
      ∃ path node, grammar.FirstAtFault path node ∧ node.error? path = some error ∧
        node.Breaks path error ∧ ∀ location fault, error = .malformed location fault →
          location.display =
            "root" ++ String.join (path.map fun i => ".children[" ++ toString i ++ "]") := by
  rw [validate, validateAt_eq_findSome?, elim_eq_ok_iff]
  simp only [List.nil_append, elim_eq_error_iff, findSome?_nodes_eq_some_iff]
  constructor
  · simp only [List.findSome?_eq_none_iff, Prod.forall, mem_nodes_iff, error?_eq_none_iff]
  · intro error
    constructor
    · rintro ⟨path, node, first, fails⟩
      have broken := breaks_of_error? fails
      refine ⟨path, node, first, fails, broken, ?_⟩
      rintro location fault rfl
      rw [broken.location_eq, display_node]
    · rintro ⟨path, node, first, fails, -⟩
      exact ⟨path, node, first, fails⟩

/-! Two nodes at fault: the one deeper down comes first. -/

def blankTermBeforeNegation : Grammar :=
  combine .union
    [combine .intersect [exact "red" "text" ["red"], exact "fox" "text" ["fox", " "]],
      combine .not []]

theorem validate_blames_first_blankTerm :
    blankTermBeforeNegation.validate = .error (.malformed (.node [0, 1]) (.blankTerm 1)) ∧
      (Location.node [0, 1]).display = "root.children[0].children[1]" ∧
      blankTermBeforeNegation.FirstAtFault [0, 1] (exact "fox" "text" ["fox", " "]) := by
  have refused : blankTermBeforeNegation.validate =
      .error (.malformed (.node [0, 1]) (.blankTerm 1)) := rfl
  refine ⟨refused, rfl, ?_⟩
  obtain ⟨path, node, first, -, broken, -⟩ := ((validate_blames_first _).2 _).mp refused
  obtain rfl := Location.node.inj broken.location_eq
  obtain rfl := Option.some.inj (first.leads.symm.trans rfl)
  exact first

end Grammar

end Concordance
