import Concordance.Proofs.Match.Combine
import Concordance.Proofs.Match.Members
import Concordance.Proofs.Match.Order

/-!
Matches without tokens.  They pass every test of positions and stand in no cluster, so that a
combinator over a single list keeps one wherever there is one.
-/

namespace Concordance.Match

def AnyTokenless (found : List Match) : Prop :=
  ∃ part ∈ found, part.isEmpty = true

variable {list : List Match}

theorem isEmpty_eq_of_same {left right : Match} (same : left.same right = true) :
    left.isEmpty = right.isEmpty := by
  rw [isEmpty, isEmpty, (same_iff.mp same).1]

namespace AnyTokenless

theorem canonical (given : AnyTokenless list) : AnyTokenless (canonical list) := by
  obtain ⟨part, member, tokenless⟩ := given
  obtain ⟨kept, keptMember, same⟩ := exists_same_of_mem_canonical member
  exact ⟨kept, keptMember, (isEmpty_eq_of_same same).trans tokenless⟩

theorem canonicalFirst (given : AnyTokenless list) : AnyTokenless (canonicalFirst list) := by
  obtain ⟨part, member, tokenless⟩ := given
  exact canonical ⟨part, List.mem_reverse.mpr member, tokenless⟩

theorem nearest (given : AnyTokenless list) : AnyTokenless (nearest list) := by
  obtain ⟨part, member, tokenless⟩ := given
  refine canonicalFirst ⟨part, List.mem_append_left _ ?_, tokenless⟩
  exact List.mem_filter.mpr ⟨member, tokenless⟩

theorem finish (matchFirst : Bool) (given : AnyTokenless list) :
    AnyTokenless (finish matchFirst list) := by
  cases matchFirst with
  | true => exact given.nearest
  | false => exact given

/-! One list. -/

theorem merged_singleton {keep : List Match → Bool} (given : AnyTokenless list)
    (kept : ∀ part : Match, part.isEmpty = true → keep [part] = true) :
    AnyTokenless (merged [list] keep) := by
  obtain ⟨part, member, tokenless⟩ := given
  have chosen : [part] ∈ combinations [list] :=
    mem_combinations_iff.mpr ⟨List.cons_ne_nil _ _, .cons member .nil⟩
  refine canonical ⟨merge [part], List.mem_map_of_mem ?_, ?_⟩
  · exact List.mem_filter.mpr ⟨chosen, kept part tokenless⟩
  · rwa [merge_singleton]

theorem linked_merge_singleton {related : Nat → Nat → Bool} {part : Match}
    (tokenless : part.isEmpty = true) : linked related (merge [part]).tokens = true := by
  rw [merge_singleton, List.isEmpty_iff.mp tokenless]
  rfl

theorem intersection_singleton (matchFirst : Bool) (given : AnyTokenless list) :
    AnyTokenless (intersection matchFirst [list]) :=
  (given.merged_singleton fun _ _ => rfl).finish matchFirst

theorem concatenation_singleton (given : AnyTokenless list) :
    AnyTokenless (concatenation [list]) :=
  given.merged_singleton fun _ => linked_merge_singleton

theorem gap_singleton (slop : Option Nat) (matchFirst : Bool) (given : AnyTokenless list) :
    AnyTokenless (gap slop matchFirst [list]) :=
  (given.merged_singleton fun _ => linked_merge_singleton).finish matchFirst

theorem layerMatch_singleton (given : AnyTokenless list) : AnyTokenless (layerMatch [list]) :=
  given.merged_singleton fun part _ => isAligned_singleton part

end AnyTokenless

/-! Unions and negations. -/

theorem anyTokenless_union {lists : List (List Match)} (member : list ∈ lists)
    (given : AnyTokenless list) : AnyTokenless (union lists) := by
  obtain ⟨part, partMember, tokenless⟩ := given
  exact .canonicalFirst ⟨part, List.mem_flatten.mpr ⟨list, member, partMember⟩, tokenless⟩

theorem anyTokenless_negation_nil : AnyTokenless (negation []) :=
  ⟨empty, List.mem_singleton_self empty, rfl⟩

end Concordance.Match
