import Concordance.Proofs.Match.Combine
import Mathlib.Data.List.Sort

/-!
The order of matches.  It is a total preorder in which the matches between which it does not decide
are the same, so a canonical list is strictly increasing, and with it what every combination of
matches gives.
-/

namespace Concordance.Match

/-- The order of matches, spelled out. -/
def Precedes (left right : Match) : Prop :=
  left.tokens < right.tokens ∨ left.tokens = right.tokens ∧ left.features < right.features

def Increasing (found : List Match) : Prop :=
  found.Pairwise Precedes

theorem le_iff {left right : Match} :
    left.le right = true ↔
      left.tokens < right.tokens ∨
        left.tokens = right.tokens ∧ ¬right.features < left.features := by
  simp [le]

theorem same_iff {left right : Match} :
    left.same right = true ↔ left.tokens = right.tokens ∧ left.features = right.features := by
  simp [same]

theorem le_total (left right : Match) : (left.le right || right.le left) = true := by
  rw [Bool.or_eq_true, le_iff, le_iff]
  by_cases equal : left.tokens = right.tokens
  · rcases List.le_total left.features right.features with features | features
    · exact .inl (.inr ⟨equal, List.not_lt.mpr features⟩)
    · exact .inr (.inr ⟨equal.symm, List.not_lt.mpr features⟩)
  · rcases List.le_total left.tokens right.tokens with less | greater
    · exact .inl (.inl ((List.le_iff_lt_or_eq.mp less).resolve_right equal))
    · exact .inr (.inl ((List.le_iff_lt_or_eq.mp greater).resolve_right (Ne.symm equal)))

theorem le_trans {first second third : Match} (before : first.le second = true)
    (after : second.le third = true) : first.le third = true := by
  rw [le_iff] at *
  rcases before with tokens | ⟨tokens, features⟩
  · rcases after with others | ⟨others, -⟩
    · exact .inl (List.lt_trans tokens others)
    · exact .inl (others ▸ tokens)
  · rcases after with others | ⟨others, otherFeatures⟩
    · exact .inl (tokens ▸ others)
    · refine .inr ⟨tokens.trans others, ?_⟩
      rw [List.not_lt] at *
      exact List.le_trans features otherFeatures

theorem le_eq_false_iff {left right : Match} :
    left.le right = false ↔ right.Precedes left := by
  rw [Bool.eq_false_iff, ne_eq, le_iff, not_or]
  constructor
  · rintro ⟨tokens, features⟩
    rcases List.le_iff_lt_or_eq.mp (List.not_lt.mp tokens) with less | equal
    · exact .inl less
    · exact .inr ⟨equal, Decidable.not_not.mp fun ge => features ⟨equal.symm, ge⟩⟩
  · rintro (less | ⟨equal, features⟩)
    · exact ⟨List.not_lt.mpr (List.le_of_lt less), fun given => List.lt_irrefl _ (given.1 ▸ less)⟩
    · exact ⟨equal ▸ List.lt_irrefl _, fun given => given.2 features⟩

theorem Precedes.le {left right : Match} (precedes : left.Precedes right) :
    left.le right = true := by
  have total := le_total right left
  rwa [le_eq_false_iff.mpr precedes, Bool.false_or] at total

theorem Precedes.trans_le {first second third : Match} (before : first.Precedes second)
    (after : second.le third = true) : first.Precedes third := by
  rw [← le_eq_false_iff, Bool.eq_false_iff] at *
  exact fun back => before (le_trans after back)

theorem Precedes.not_same {left right : Match} (precedes : left.Precedes right) :
    left.same right = false := by
  rw [Bool.eq_false_iff, ne_eq, same_iff]
  rintro ⟨tokens, features⟩
  rcases precedes with less | ⟨-, less⟩
  · exact List.lt_irrefl _ (tokens ▸ less)
  · exact List.lt_irrefl _ (features ▸ less)

theorem precedes_of_le {left right : Match} (le : left.le right = true)
    (differ : left.same right = false) : left.Precedes right := by
  rcases le_iff.mp le with tokens | ⟨tokens, features⟩
  · exact .inl tokens
  · rcases List.le_iff_lt_or_eq.mp (List.not_lt.mp features) with less | equal
    · exact .inr ⟨tokens, less⟩
    · rw [same_iff.mpr ⟨tokens, equal⟩] at differ
      cases differ

theorem Precedes.asymm {left right : Match} (precedes : left.Precedes right) :
    ¬right.Precedes left := by
  rw [← le_eq_false_iff, precedes.le]
  exact nofun

instance : Std.Asymm Precedes where
  asymm _ _ := Precedes.asymm

theorem lt_iff {left right : Match} : left.lt right = true ↔ left.Precedes right := by
  rw [lt, Bool.and_eq_true, Bool.not_eq_true']
  exact ⟨fun given => precedes_of_le given.1 given.2, fun less => ⟨less.le, less.not_same⟩⟩

theorem same_of_le {left right : Match} (before : left.le right = true)
    (after : right.le left = true) : left.same right = true := by
  cases differ : left.same right with
  | true => rfl
  | false =>
      rw [le_eq_false_iff.mpr (precedes_of_le before differ)] at after
      cases after

theorem le_of_same {left right : Match} (same : left.same right = true) : left.le right = true := by
  obtain ⟨tokens, features⟩ := same_iff.mp same
  exact le_iff.mpr (.inr ⟨tokens, features ▸ List.lt_irrefl _⟩)

theorem compare_eq_lt_iff {left right : Match} :
    left.compare right = .lt ↔ left.Precedes right := by
  rw [compare]
  constructor
  · intro less
    split at less
    · cases less
    · next differ =>
      split at less
      · next le => exact precedes_of_le le (Bool.not_eq_true _ ▸ differ)
      · cases less
  · intro precedes
    rw [if_neg (by simp [precedes.not_same]), if_pos precedes.le]

/-! Canonical lists. -/

theorem eq_nil_or_singleton {α : Type} {list : List α}
    (short : ∀ first second rest, list = first :: second :: rest → False) :
    list = [] ∨ ∃ only, list = [only] := by
  match list with
  | [] => exact .inl rfl
  | [only] => exact .inr ⟨only, rfl⟩
  | first :: second :: rest => exact absurd rfl (short first second rest)

theorem precedes_of_sorted {first second : Match} {rest : List Match}
    (sorted : (first :: second :: rest).Pairwise fun first second => first.le second = true)
    (differ : first.same second = false) : ∀ later ∈ second :: rest, first.Precedes later := by
  obtain ⟨least, restSorted⟩ := List.pairwise_cons.mp sorted
  have below := precedes_of_le (least second List.mem_cons_self) differ
  intro later member
  rcases List.mem_cons.mp member with rfl | member
  · exact below
  · exact below.trans_le ((List.pairwise_cons.mp restSorted).1 later member)

theorem increasing_keepLast {list : List Match}
    (sorted : list.Pairwise fun first second => first.le second = true) :
    Increasing (keepLast list) := by
  fun_induction keepLast list with
  | case1 first second rest same ih => exact ih sorted.of_cons
  | case2 first second rest differ ih =>
      refine List.pairwise_cons.mpr ⟨?_, ih sorted.of_cons⟩
      intro later member
      exact precedes_of_sorted sorted (Bool.not_eq_true _ ▸ differ) later
        (mem_of_mem_keepLast member)
  | case3 list short =>
      rcases eq_nil_or_singleton short with rfl | ⟨only, rfl⟩
      · exact .nil
      · exact List.pairwise_singleton _ _

theorem increasing_canonical (found : List Match) : Increasing (canonical found) :=
  increasing_keepLast (List.pairwise_mergeSort @le_trans le_total found)

theorem increasing_canonicalFirst (found : List Match) : Increasing (canonicalFirst found) :=
  increasing_canonical found.reverse

theorem keepLast_eq_self {list : List Match} (increasing : Increasing list) :
    keepLast list = list := by
  fun_induction keepLast list with
  | case1 first second rest same ih =>
      have apart := (List.pairwise_cons.mp increasing).1 second List.mem_cons_self
      rw [apart.not_same] at same
      cases same
  | case2 first second rest differ ih => rw [ih (List.pairwise_cons.mp increasing).2]
  | case3 => rfl

theorem canonical_eq_self {list : List Match} (increasing : Increasing list) :
    canonical list = list := by
  rw [canonical, List.mergeSort_of_pairwise (increasing.imp Precedes.le),
    keepLast_eq_self increasing]

/-! What matches are compared by. -/

def key (found : Match) : List Nat × List String :=
  (found.tokens, found.features)

theorem same_iff_key_eq {left right : Match} : left.same right = true ↔ left.key = right.key := by
  rw [same_iff, key, key, Prod.mk.injEq]

theorem same_symm {left right : Match} (same : left.same right = true) :
    right.same left = true :=
  same_iff_key_eq.mpr (same_iff_key_eq.mp same).symm

theorem same_of_same {left right found : Match} (leftSame : left.same found = true)
    (rightSame : right.same found = true) : left.same right = true := by
  rw [same_iff_key_eq] at *
  exact leftSame.trans rightSame.symm

def KeyPrecedes (left right : List Nat × List String) : Prop :=
  left.1 < right.1 ∨ left.1 = right.1 ∧ left.2 < right.2

theorem KeyPrecedes.asymm {left right : List Nat × List String}
    (precedes : KeyPrecedes left right) : ¬KeyPrecedes right left :=
  @Precedes.asymm ⟨left.1, left.2, []⟩ ⟨right.1, right.2, []⟩ precedes

instance : Std.Irrefl KeyPrecedes where
  irrefl _ precedes := precedes.asymm precedes

instance : Std.Antisymm KeyPrecedes where
  antisymm _ _ precedes back := absurd back precedes.asymm

theorem Increasing.keys {found : List Match} (increasing : Increasing found) :
    (found.map key).Pairwise KeyPrecedes :=
  List.pairwise_map.mpr increasing

theorem exists_same_of_mem_keepLast {found : Match} {list : List Match} (member : found ∈ list) :
    ∃ kept ∈ keepLast list, kept.same found = true := by
  fun_induction keepLast list generalizing found with
  | case1 first second rest same ih =>
      rcases List.mem_cons.mp member with rfl | member
      · obtain ⟨kept, keptMember, keptSame⟩ := ih List.mem_cons_self
        rw [same_iff_key_eq] at *
        exact ⟨kept, keptMember, same_iff_key_eq.mpr (keptSame.trans same.symm)⟩
      · exact ih member
  | case2 first second rest differ ih =>
      rcases List.mem_cons.mp member with rfl | member
      · exact ⟨found, List.mem_cons_self, same_self found⟩
      · obtain ⟨kept, keptMember, keptSame⟩ := ih member
        exact ⟨kept, List.mem_cons_of_mem first keptMember, keptSame⟩
  | case3 => exact ⟨found, member, same_self found⟩

/-- Nothing is lost by putting matches in order, texts apart. -/
theorem exists_same_of_mem_canonical {found : Match} {list : List Match} (member : found ∈ list) :
    ∃ kept ∈ canonical list, kept.same found = true :=
  exists_same_of_mem_keepLast (List.mem_mergeSort.mpr member)

theorem exists_same_of_mem_canonicalFirst {found : Match} {list : List Match}
    (member : found ∈ list) : ∃ kept ∈ canonicalFirst list, kept.same found = true :=
  exists_same_of_mem_canonical (List.mem_reverse.mpr member)

/-- Strictly increasing lists with the same members, texts apart, are the same list, texts apart. -/
theorem map_key_eq_of_increasing {left right : List Match} (leftIncreasing : Increasing left)
    (rightIncreasing : Increasing right)
    (same : ∀ key, key ∈ left.map Match.key ↔ key ∈ right.map Match.key) :
    left.map key = right.map key :=
  leftIncreasing.keys.eq_of_mem_iff rightIncreasing.keys same

theorem Increasing.eq_of_same {list : List Match} (increasing : Increasing list)
    {left right : Match} (leftMember : left ∈ list) (rightMember : right ∈ list)
    (same : left.same right = true) : left = right :=
  List.inj_on_of_nodup_map increasing.keys.nodup leftMember rightMember (same_iff_key_eq.mp same)

/-! Combinations. -/

theorem increasing_merged (lists : List (List Match)) (keep : List Match → Bool) :
    Increasing (merged lists keep) :=
  increasing_canonical _

theorem increasing_finish {matchFirst : Bool} {found : List Match} (given : Increasing found) :
    Increasing (finish matchFirst found) := by
  cases matchFirst with
  | false => exact given
  | true => exact increasing_canonicalFirst _

theorem increasing_union (lists : List (List Match)) : Increasing (union lists) :=
  increasing_canonicalFirst _

theorem increasing_negation (found : List Match) : Increasing (negation found) := by
  rw [negation]
  split
  · exact List.pairwise_singleton _ _
  · exact .nil

end Concordance.Match
