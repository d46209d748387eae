import Concordance.Proofs.Match.Members
import Concordance.Proofs.Match.Order
import Mathlib.Data.List.Lex

/-!
Products and unions by their members.  Of matches that are the same, a canonical list keeps the one
given last, and a canonical list by first occurrence the one given first.  Choices from increasing
lists come in lexicographic order, so a product keeps what the last of several choices merges to.
-/

namespace Concordance.Match

/-! What canonical lists keep. -/

theorem find?_reverse_cons {α : Type} (p : α → Bool) (first : α) (rest : List α) :
    (first :: rest).reverse.find? p =
      (rest.reverse.find? p).or (if p first then some first else none) := by
  rw [List.reverse_cons, List.find?_append, List.find?_singleton]

theorem find?_same_eq_none {list : List Match} {first found : Match}
    (apart : ∀ later ∈ list, first.Precedes later) (here : first.same found = true) :
    list.reverse.find? (·.same found) = none := by
  simp only [List.find?_eq_none, List.mem_reverse]
  intro later member same
  have differs := (apart later member).not_same
  rw [same_of_same here same] at differs
  cases differs

theorem find?_reverse_singleton_iff {only found : Match} :
    [only].reverse.find? (·.same found) = some found ↔ found = only := by
  rw [List.reverse_singleton, List.find?_singleton]
  constructor
  · intro given
    split at given
    · exact (Option.some.inj given).symm
    · cases given
  · rintro rfl
    rw [if_pos (same_self found)]

theorem mem_keepLast_iff {list : List Match} {found : Match}
    (sorted : list.Pairwise fun first second => first.le second = true) :
    found ∈ keepLast list ↔ list.reverse.find? (·.same found) = some found := by
  fun_induction keepLast list with
  | case1 first second rest same ih =>
      -- What is dropped is the same as its successor, to which a search from the end comes first.
      have goesOn (here : first.same found = true) : second.same found = true :=
        same_of_same (same_symm same) (same_symm here)
      rw [ih sorted.of_cons, find?_reverse_cons _ first, find?_reverse_cons]
      cases later : rest.reverse.find? (·.same found) with
      | some last => simp
      | none =>
          cases here : first.same found with
          | false => simp
          | true => simp [goesOn here]
  | case2 first second rest differ ih =>
      have apart := precedes_of_sorted sorted (Bool.not_eq_true _ ▸ differ)
      rw [find?_reverse_cons, List.mem_cons, ih sorted.of_cons]
      cases here : first.same found with
      | false =>
          have other : found ≠ first := by
            rintro rfl
            simp at here
          simp [other]
      | true =>
          rw [find?_same_eq_none apart here]
          simpa using eq_comm
  | case3 list short =>
      rcases eq_nil_or_singleton short with rfl | ⟨only, rfl⟩
      · simp
      · rw [find?_reverse_singleton_iff, List.mem_singleton]

theorem filter_same_mergeSort (list : List Match) (found : Match) :
    (list.mergeSort le).filter (·.same found) = list.filter (·.same found) := by
  -- Sorting is stable, and matches that are the same are in order as they stand.
  have sorted : (list.filter (·.same found)).Pairwise fun first second =>
      first.le second = true := by
    apply List.pairwise_of_forall_mem_list
    intro first firstMember second secondMember
    exact le_of_same (same_of_same (List.mem_filter.mp firstMember).2
      (List.mem_filter.mp secondMember).2)
  symm
  apply List.Sublist.eq_of_length
  · have kept := (List.sublist_mergeSort @le_trans le_total sorted List.filter_sublist).filter
      (·.same found)
    simpa [List.filter_filter] using kept
  · exact ((List.mergeSort_perm list le).filter _).length_eq.symm

theorem mem_canonical_iff {list : List Match} {found : Match} :
    found ∈ canonical list ↔ list.reverse.find? (·.same found) = some found := by
  rw [canonical, mem_keepLast_iff (List.pairwise_mergeSort @le_trans le_total list),
    ← List.head?_filter, ← List.head?_filter, List.filter_reverse, List.filter_reverse,
    filter_same_mergeSort]

theorem mem_canonicalFirst_iff {list : List Match} {found : Match} :
    found ∈ canonicalFirst list ↔ list.find? (·.same found) = some found := by
  rw [canonicalFirst, mem_canonical_iff, List.reverse_reverse]

/-! Choices. -/

/-- Choices from ordered lists are in lexicographic order. -/
theorem pairwise_choices {α : Type} {r : α → α → Prop} {lists : List (List α)}
    (ordered : ∀ list ∈ lists, list.Pairwise r) : (choices lists).Pairwise (List.Lex r) := by
  induction lists with
  | nil => exact List.pairwise_singleton _ _
  | cons list rest ih =>
      obtain ⟨listOrdered, restOrdered⟩ := List.forall_mem_cons.mp ordered
      rw [choices, List.pairwise_flatMap]
      constructor
      · intro first member
        exact List.pairwise_map.mpr ((ih restOrdered).imp .cons)
      · apply listOrdered.imp
        intro first second before parts member others otherMember
        obtain ⟨_, -, rfl⟩ := List.mem_map.mp member
        obtain ⟨_, -, rfl⟩ := List.mem_map.mp otherMember
        exact .rel before

theorem choices_append {α : Type} (left right : List (List α)) :
    choices (left ++ right) =
      (choices left).flatMap fun parts => (choices right).map (parts ++ ·) := by
  induction left with
  | nil => simp [choices]
  | cons list rest ih =>
      simp only [List.cons_append, choices, ih, List.map_flatMap, List.flatMap_assoc,
        List.flatMap_map, List.map_map]
      rfl

theorem combinations_eq_choices {α : Type} {lists : List (List α)} (some : lists ≠ []) :
    combinations lists = choices lists := by
  rw [combinations_eq, if_neg some]

theorem pairwise_combinations {α : Type} {r : α → α → Prop} {lists : List (List α)}
    (ordered : ∀ list ∈ lists, list.Pairwise r) : (combinations lists).Pairwise (List.Lex r) := by
  rw [combinations_eq]
  split
  · exact .nil
  · exact pairwise_choices ordered

theorem of_find?_reverse_eq_some {α : Type} {r : α → α → Prop} {list : List α} {p : α → Bool}
    {last : α} (ordered : list.Pairwise r) (found : list.reverse.find? p = some last) :
    last ∈ list ∧ p last = true ∧
      ∀ other ∈ list, p other = true → other = last ∨ r other last := by
  obtain ⟨holds, later, earlier, split, none⟩ := List.find?_eq_some_iff_append.mp found
  have whole : list = earlier.reverse ++ last :: later.reverse := by
    simpa using congrArg List.reverse split
  rw [whole, List.pairwise_append] at ordered
  refine ⟨by simp [whole], holds, ?_⟩
  intro other member otherHolds
  rw [whole, List.mem_append, List.mem_cons, @List.mem_reverse _ _ later] at member
  rcases member with before | rfl | after
  · exact .inr (ordered.2.2 other before last List.mem_cons_self)
  · exact .inl rfl
  · have fails := none other after
    rw [otherHolds] at fails
    cases fails

theorem find?_reverse_eq_some_iff {α : Type} {r : α → α → Prop} [Std.Asymm r] {list : List α}
    {p : α → Bool} {last : α} (ordered : list.Pairwise r) :
    list.reverse.find? p = some last ↔
      last ∈ list ∧ p last = true ∧
        ∀ other ∈ list, p other = true → other = last ∨ r other last := by
  constructor
  · exact of_find?_reverse_eq_some ordered
  · rintro ⟨member, holds, greatest⟩
    cases search : list.reverse.find? p with
    | none => exact absurd holds (List.find?_eq_none.mp search last (List.mem_reverse.mpr member))
    | some other =>
        obtain ⟨otherMember, otherHolds, otherGreatest⟩ := of_find?_reverse_eq_some ordered search
        rcases greatest other otherMember otherHolds with rfl | before
        · rfl
        · rcases otherGreatest last member holds with rfl | after
          · rfl
          · exact absurd after (Std.Asymm.asymm _ _ before)

/-! Products. -/

/-- A choice of one match of each list, of at least one list, whose tokens keep a rule. -/
structure Chosen (rule : List Nat → Prop) (lists : List (List Match)) (parts : List Match) :
    Prop where
  some : lists ≠ []
  each : List.Forall₂ (· ∈ ·) parts lists
  kept : rule (merge parts).tokens

/-- The product of lists: what the choices merge to, each once and in increasing order, with the
texts of the last choice. -/
structure IsProduct (rule : List Nat → Prop) (lists : List (List Match)) (found : List Match) :
    Prop where
  increasing : Increasing found
  members : ∀ one, one ∈ found ↔ ∃ parts, Chosen rule lists parts ∧ merge parts = one ∧
    ∀ other, Chosen rule lists other → (merge other).same one = true →
      other = parts ∨ List.Lex Precedes other parts
  complete : ∀ parts, Chosen rule lists parts → ∃ one ∈ found, one.same (merge parts) = true
  none : lists = [] ∨ [] ∈ lists → found = []

variable {rule : List Nat → Prop} {lists : List (List Match)} {keep : List Match → Bool}

/-- What the accepted choices merge to, each once and in increasing order, with the texts of the
last choice. -/
structure IsMergeOf (accepted : List Match → Prop) (found : List Match) : Prop where
  increasing : Increasing found
  members : ∀ one, one ∈ found ↔ ∃ parts, accepted parts ∧ merge parts = one ∧
    ∀ other, accepted other → (merge other).same one = true →
      other = parts ∨ List.Lex Precedes other parts
  complete : ∀ parts, accepted parts → ∃ one ∈ found, one.same (merge parts) = true

theorem isMergeOf_merged {accepted : List Match → Prop}
    (increasing : ∀ list ∈ lists, Increasing list)
    (accepts : ∀ parts, parts ∈ (combinations lists).filter keep ↔ accepted parts) :
    IsMergeOf accepted (merged lists keep) where
  increasing := increasing_merged lists keep
  members one := by
    have ordered := (pairwise_combinations increasing).filter keep
    rw [merged, mem_canonical_iff, ← List.map_reverse, List.find?_map, Option.map_eq_some_iff]
    simp only [find?_reverse_eq_some_iff ordered, accepts, Function.comp_apply]
    constructor
    · rintro ⟨parts, ⟨chosen, -, last⟩, merges⟩
      exact ⟨parts, chosen, merges, last⟩
    · rintro ⟨parts, chosen, rfl, last⟩
      exact ⟨parts, ⟨chosen, same_self _, last⟩, rfl⟩
  complete parts chosen :=
    exists_same_of_mem_canonical (List.mem_map_of_mem ((accepts parts).mpr chosen))

theorem mem_filter_combinations_iff {parts : List Match}
    (decides : ∀ parts, keep parts = true ↔ rule (merge parts).tokens) :
    parts ∈ (combinations lists).filter keep ↔ Chosen rule lists parts := by
  rw [List.mem_filter, decides, mem_combinations_iff]
  constructor
  · rintro ⟨⟨some, each⟩, kept⟩
    exact ⟨some, each, kept⟩
  · rintro ⟨some, each, kept⟩
    exact ⟨⟨some, each⟩, kept⟩

theorem isProduct_merged (increasing : ∀ list ∈ lists, Increasing list)
    (decides : ∀ parts, keep parts = true ↔ rule (merge parts).tokens) :
    IsProduct rule lists (merged lists keep) := by
  obtain ⟨ordered, members, complete⟩ :=
    isMergeOf_merged increasing fun _ => mem_filter_combinations_iff decides
  refine ⟨ordered, members, complete, ?_⟩
  rintro (rfl | member)
  · simp [merged, combinations_eq, canonical, keepLast]
  · exact merged_eq_nil_of_mem member

/-! Rules. -/

theorem linked_iff {related : Nat → Nat → Bool} {tokens : List Nat} :
    linked related tokens = true ↔
      tokens.IsChain fun first second => related first second = true := by
  fun_induction linked related tokens with
  | case1 first second rest ih => rw [Bool.and_eq_true, ih, List.isChain_cons_cons]
  | case2 tokens short =>
      rcases eq_nil_or_singleton short with rfl | ⟨only, rfl⟩
      · simp
      · simp

theorem isContiguous_iff {found : Match} :
    found.isContiguous = true ↔ found.tokens.IsChain fun first second => second = first + 1 := by
  simp only [isContiguous, linked_iff, beq_iff_eq]

theorem isWithin_iff {slop : Option Nat} {found : Match} :
    found.isWithin slop = true ↔ found.tokens.IsChain fun first second =>
      first < second ∧ ∀ most ∈ slop, second ≤ first + most := by
  simp only [isWithin, linked_iff, Bool.and_eq_true, decide_eq_true_iff, Option.all_eq_true,
    Option.mem_def, Nat.sub_le_iff_le_add']

/-! Unions. -/

/-- The union of lists: their members, each once and in increasing order, with the texts of the
first list that has it. -/
structure IsUnion (lists : List (List Match)) (found : List Match) : Prop where
  increasing : Increasing found
  members : ∀ one, one ∈ found ↔ ∃ before list after, lists = before ++ list :: after ∧
    one ∈ list ∧ ∀ earlier ∈ before, ∀ other ∈ earlier, other.same one = false
  complete : ∀ list ∈ lists, ∀ one ∈ list, ∃ kept ∈ found, kept.same one = true

theorem mem_union_iff {one : Match} (increasing : ∀ list ∈ lists, Increasing list) :
    one ∈ union lists ↔ ∃ before list after, lists = before ++ list :: after ∧
      one ∈ list ∧ ∀ earlier ∈ before, ∀ other ∈ earlier, other.same one = false := by
  rw [union, mem_canonicalFirst_iff, List.find?_flatten_eq_some_iff]
  constructor
  · rintro ⟨-, before, smaller, larger, after, split, none, -⟩
    exact ⟨before, _, after, split, by simp, by simpa using none⟩
  · rintro ⟨before, list, after, rfl, member, none⟩
    obtain ⟨smaller, larger, rfl⟩ := List.append_of_mem member
    refine ⟨same_self one, before, smaller, larger, after, rfl, by simpa using none, ?_⟩
    intro other otherMember
    have listIncreasing := increasing _ (List.mem_append_right before List.mem_cons_self)
    have precedes := (List.pairwise_append.mp listIncreasing).2.2 other otherMember one
      List.mem_cons_self
    rw [precedes.not_same, Bool.not_false]

theorem isUnion_union (increasing : ∀ list ∈ lists, Increasing list) :
    IsUnion lists (union lists) where
  increasing := increasing_union lists
  members _ := mem_union_iff increasing
  complete := by
    intro list member one oneMember
    exact exists_same_of_mem_canonicalFirst (List.mem_flatten_of_mem member oneMember)

end Concordance.Match
