import Concordance.Proofs.Match.Clusters

/-!
The nearest matches.  Of the candidates that belong together exactly one stands, the least one by
dispersion, start of the span and order; so what stands depends on which candidates there are and
not on how they are listed.
-/

namespace Concordance.Match

/-- Comes no later by dispersion, then by the start of the span, then in the order of matches. -/
def NoWorse (left right : Match) : Prop :=
  left.dispersion < right.dispersion ∨ left.dispersion = right.dispersion ∧
    (left.start < right.start ∨ left.start = right.start ∧ left.le right = true)

namespace NoWorse

theorem trans {first second third : Match} (before : first.NoWorse second)
    (after : second.NoWorse third) : first.NoWorse third := by
  have order := @le_trans first second third
  unfold NoWorse at *
  grind

theorem of_not {left right : Match} (worse : ¬right.NoWorse left) : left.NoWorse right := by
  have order := le_total left right
  unfold NoWorse at *
  grind

theorem refl (found : Match) : found.NoWorse found :=
  .inr ⟨rfl, .inr ⟨rfl, by simpa using le_total found found⟩⟩

theorem same {left right : Match} (before : left.NoWorse right) (after : right.NoWorse left) :
    left.same right = true := by
  have order := @same_of_le left right
  unfold NoWorse at *
  grind

end NoWorse

namespace Spanned

theorem le_iff {left right : Spanned} :
    left.le right = true ↔ left.start < right.start ∨ left.start = right.start ∧
      (left.stop < right.stop ∨ left.stop = right.stop ∧ left.found.le right.found = true) := by
  simp [le]

theorem le_total (left right : Spanned) : (left.le right || right.le left) = true := by
  have order := Match.le_total left.found right.found
  rw [Bool.or_eq_true, le_iff, le_iff]
  grind

theorem le_trans {first second third : Spanned} (before : first.le second = true)
    (after : second.le third = true) : first.le third = true := by
  have order := @Match.le_trans first.found second.found third.found
  rw [le_iff] at *
  grind

theorem Read.start_eq {spanned : Spanned} (read : spanned.Read) :
    spanned.found.start = spanned.start := by
  rw [Match.start, read]
  rfl

theorem beats_iff {left right : Spanned} (leftRead : left.Read) (rightRead : right.Read) :
    left.beats right = true ↔ ¬right.found.NoWorse left.found := by
  rw [NoWorse, leftRead.start_eq, rightRead.start_eq]
  simp only [beats, Bool.or_eq_true, Bool.and_eq_true, decide_eq_true_eq, beq_iff_eq, lt_iff,
    ← le_eq_false_iff]
  grind

end Spanned

theorem Cluster.best_noWorse {cluster : Cluster} (read : ∀ member ∈ cluster.members, member.Read) :
    ∀ member ∈ cluster.members, cluster.best.found.NoWorse member.found := by
  induction cluster using Cluster.induction with
  | single first => exact List.forall_mem_singleton.mpr (NoWorse.refl first.found)
  | add cluster next ih =>
      rw [members_add, List.forall_mem_append, List.forall_mem_singleton] at *
      obtain ⟨clusterRead, nextRead⟩ := read
      have least := ih clusterRead
      have decides := Spanned.beats_iff nextRead (clusterRead _ cluster.best_mem)
      rw [best_add]
      split
      · next beaten =>
        have better := NoWorse.of_not (decides.mp beaten)
        exact ⟨fun member inside => better.trans (least member inside), NoWorse.refl next.found⟩
      · next unbeaten => exact ⟨least, Classical.not_not.mp (mt decides.mpr unbeaten)⟩

/-! What does not depend on texts. -/

variable {left right leftOther rightOther : Match}

theorem span?_eq_of_same (same : left.same right = true) : left.span? = right.span? := by
  rw [span?, span?, (same_iff.mp same).1]

theorem Overlaps.congr (overlap : left.Overlaps right) (leftSame : left.same leftOther = true)
    (rightSame : right.same rightOther = true) : leftOther.Overlaps rightOther := by
  obtain ⟨index, leftSpans, rightSpans⟩ := overlap
  rw [Spans, span?_eq_of_same leftSame] at leftSpans
  rw [Spans, span?_eq_of_same rightSame] at rightSpans
  exact ⟨index, leftSpans, rightSpans⟩

theorem NoWorse.congr (noWorse : left.NoWorse right) (leftSame : left.same leftOther = true)
    (rightSame : right.same rightOther = true) : leftOther.NoWorse rightOther := by
  obtain ⟨leftTokens, leftFeatures⟩ := same_iff.mp leftSame
  obtain ⟨rightTokens, rightFeatures⟩ := same_iff.mp rightSame
  simpa only [NoWorse, dispersion, start, le, span?_eq_of_same leftSame,
    span?_eq_of_same rightSame, leftTokens, leftFeatures, rightTokens, rightFeatures] using noWorse

theorem Overlaps.isEmpty_eq_false (overlap : left.Overlaps right) :
    left.isEmpty = false ∧ right.isEmpty = false := by
  obtain ⟨index, ⟨_, _, leftSpans, -⟩, ⟨_, _, rightSpans, -⟩⟩ := overlap
  rw [← Bool.not_eq_true, ← Bool.not_eq_true, ← span?_eq_none_iff, ← span?_eq_none_iff, leftSpans,
    rightSpans]
  exact ⟨nofun, nofun⟩

theorem overlaps_of_same (same : left.same right = true) (tokens : left.isEmpty = false) :
    left.Overlaps right := by
  rw [← Bool.not_eq_true, ← span?_eq_none_iff] at tokens
  obtain ⟨⟨low, high⟩, spans⟩ := Option.ne_none_iff_exists'.mp tokens
  have order := le_of_span? spans
  have own : left.Spans low := ⟨low, high, spans, Nat.le_refl low, order⟩
  rw [Spans, span?_eq_of_same same] at own
  exact ⟨low, ⟨low, high, spans, Nat.le_refl low, order⟩, own⟩

theorem Together.isEmpty_eq {candidates : List Match} (together : Together candidates left right) :
    left.isEmpty = right.isEmpty := by
  induction together with
  | refl => rfl
  | tail _ step ih =>
      obtain ⟨before, after⟩ := step.2.2.isEmpty_eq_false
      rw [ih, before, after]

/-- A chain of candidates, followed in a list that has them all, texts apart. -/
theorem Together.exists_same {candidates others : List Match}
    (subset : candidates.map key ⊆ others.map key) (together : Together candidates left right)
    (leftMember : leftOther ∈ others) (leftSame : left.same leftOther = true) :
    ∃ rightOther, right.same rightOther = true ∧ Together others leftOther rightOther := by
  suffices ∃ rightOther ∈ others, right.same rightOther = true ∧
      Together others leftOther rightOther by
    obtain ⟨rightOther, -, found⟩ := this
    exact ⟨rightOther, found⟩
  induction together with
  | refl => exact ⟨leftOther, leftMember, leftSame, .refl⟩
  | @tail middle last _ step ih =>
      obtain ⟨middleOther, middleMember, middleSame, chain⟩ := ih
      obtain ⟨-, lastMember, overlap⟩ := step
      obtain ⟨lastOther, lastOtherMember, keyEq⟩ :=
        List.mem_map.mp (subset (List.mem_map_of_mem lastMember))
      have lastSame := same_iff_key_eq.mpr keyEq.symm
      exact ⟨lastOther, lastOtherMember, lastSame,
        chain.tail ⟨middleMember, lastOtherMember, overlap.congr middleSame lastSame⟩⟩

/-! Which candidates stand. -/

/-- A candidate without tokens stands, and of those that belong together the least one. -/
def Stands (candidates : List Match) (found : Match) : Prop :=
  found.isEmpty = true ∨ ∀ other, Together candidates found other → found.NoWorse other

/-- The candidates with tokens, as the sweep reads them. -/
def spanned (candidates : List Match) : List Spanned :=
  (candidates.filterMap Spanned.ofMatch?).mergeSort Spanned.le

theorem mem_spanned_iff {candidates : List Match} {read : Spanned} :
    read ∈ spanned candidates ↔ read.Read ∧ read.found ∈ candidates := by
  rw [spanned, List.mem_mergeSort, List.mem_filterMap]
  constructor
  · rintro ⟨found, member, spans⟩
    obtain ⟨rfl, own⟩ := Spanned.ofMatch?_eq_some_iff.mp spans
    exact ⟨own, member⟩
  · rintro ⟨own, member⟩
    exact ⟨read.found, member, Spanned.ofMatch?_eq_some_iff.mpr ⟨rfl, own⟩⟩

theorem inOrder_spanned (candidates : List Match) : InOrder (spanned candidates) := by
  refine (List.pairwise_mergeSort @Spanned.le_trans Spanned.le_total _).imp ?_
  intro left right le
  rcases Spanned.le_iff.mp le with less | ⟨equal, -⟩
  · exact Nat.le_of_lt less
  · exact Nat.le_of_eq equal

variable {candidates : List Match}

theorem exists_cluster {found : Match} (member : found ∈ candidates)
    (tokens : found.isEmpty = false) :
    ∃ cluster ∈ clusters (spanned candidates), ∃ read ∈ cluster.members, read.found = found := by
  have spans : found.span? ≠ none := by rw [ne_eq, span?_eq_none_iff, tokens]; exact nofun
  obtain ⟨⟨low, high⟩, spans⟩ := Option.ne_none_iff_exists'.mp spans
  have inside : Spanned.mk low high found ∈ spanned candidates :=
    mem_spanned_iff.mpr ⟨spans, member⟩
  obtain ⟨cluster, clusterMember, readMember⟩ := mem_clusters_iff.mp inside
  exact ⟨cluster, clusterMember, _, readMember, rfl⟩

theorem together_of_mem_cluster {cluster : Cluster} {left right : Spanned}
    (clusterMember : cluster ∈ clusters (spanned candidates)) (leftMember : left ∈ cluster.members)
    (rightMember : right ∈ cluster.members) : Together candidates left.found right.found := by
  have joined := joined_clusters (fun _ => mem_spanned_iff.mp) (inOrder_spanned candidates) cluster
    clusterMember
  exact (joined left leftMember).symm.trans (joined right rightMember)

theorem stands_best {cluster : Cluster} (clusterMember : cluster ∈ clusters (spanned candidates)) :
    Stands candidates cluster.best.found := by
  refine .inr fun other together => ?_
  obtain ⟨read, readMember, rfl⟩ := exists_mem_of_together (fun _ => mem_spanned_iff)
    (inOrder_spanned candidates) clusterMember cluster.best_mem together
  apply cluster.best_noWorse _ read readMember
  intro member inside
  exact (mem_spanned_iff.mp (mem_clusters_iff.mpr ⟨cluster, clusterMember, inside⟩)).1

/-- What is collected before it is put in order: candidates without tokens, and the best ones. -/
theorem mem_collected_iff {found : Match} :
    found ∈ candidates.filter isEmpty ++ winners (spanned candidates) ↔
      (found ∈ candidates ∧ found.isEmpty = true) ∨
        ∃ cluster ∈ clusters (spanned candidates), cluster.best.found = found := by
  rw [List.mem_append, List.mem_filter, winners_eq, List.mem_map]

theorem stands_of_mem_nearest {found : Match} (member : found ∈ nearest candidates) :
    Stands candidates found := by
  rcases mem_collected_iff.mp (mem_of_mem_canonicalFirst member) with
    ⟨-, tokenless⟩ | ⟨cluster, clusterMember, rfl⟩
  · exact .inl tokenless
  · exact stands_best clusterMember

theorem Stands.same {left right : Match} (leftStands : Stands candidates left)
    (rightStands : Stands candidates right) (together : Together candidates left right)
    (tokens : left.isEmpty = false) : left.same right = true := by
  have rightTokens := together.isEmpty_eq.symm.trans tokens
  have before := leftStands.resolve_left (by simp [tokens]) right together
  have after := rightStands.resolve_left (by simp [rightTokens]) left together.symm
  exact before.same after

theorem Stands.congr {others : List Match} {found other : Match}
    (subset : others.map key ⊆ candidates.map key) (stands : Stands candidates found)
    (member : found ∈ candidates) (same : found.same other = true) : Stands others other := by
  rcases stands with tokenless | least
  · left
    rwa [isEmpty, ← (same_iff.mp same).1]
  · refine .inr fun last together => ?_
    obtain ⟨lastOther, lastSame, chain⟩ := together.exists_same subset member (same_symm same)
    exact (least lastOther chain).congr same (same_symm lastSame)

/-- Of candidates that belong together one is chosen. -/
theorem exists_nearest_together {found : Match} (member : found ∈ candidates)
    (tokens : found.isEmpty = false) :
    ∃ chosen ∈ nearest candidates, Together candidates found chosen := by
  obtain ⟨cluster, clusterMember, read, readMember, rfl⟩ := exists_cluster member tokens
  have together := together_of_mem_cluster clusterMember readMember cluster.best_mem
  have bestMember := (mem_spanned_iff.mp
    (mem_clusters_iff.mpr ⟨cluster, clusterMember, cluster.best_mem⟩)).2
  obtain ⟨chosen, chosenMember, same⟩ := exists_same_of_mem_canonicalFirst
    (mem_collected_iff.mpr (.inr ⟨cluster, clusterMember, rfl⟩))
  have chosenTokens : chosen.isEmpty = false := by
    rw [isEmpty, (same_iff.mp same).1]
    exact together.isEmpty_eq.symm.trans tokens
  refine ⟨chosen, chosenMember, together.tail ⟨bestMember, mem_of_mem_nearest chosenMember, ?_⟩⟩
  exact (overlaps_of_same same chosenTokens).symm

theorem exists_nearest_same {found : Match} (member : found ∈ candidates)
    (stands : Stands candidates found) :
    ∃ chosen ∈ nearest candidates, chosen.same found = true := by
  cases tokens : found.isEmpty with
  | true =>
      exact exists_same_of_mem_canonicalFirst (mem_collected_iff.mpr (.inl ⟨member, tokens⟩))
  | false =>
      obtain ⟨chosen, chosenMember, together⟩ := exists_nearest_together member tokens
      refine ⟨chosen, chosenMember, ?_⟩
      exact (stands_of_mem_nearest chosenMember).same stands together.symm
        (together.isEmpty_eq.symm.trans tokens)

theorem increasing_nearest (candidates : List Match) : Increasing (nearest candidates) :=
  increasing_canonicalFirst _

theorem mem_map_key_nearest_iff {keys : List Nat × List String} :
    keys ∈ (nearest candidates).map key ↔
      ∃ found ∈ candidates, Stands candidates found ∧ found.key = keys := by
  rw [List.mem_map]
  constructor
  · rintro ⟨chosen, member, rfl⟩
    exact ⟨chosen, mem_of_mem_nearest member, stands_of_mem_nearest member, rfl⟩
  · rintro ⟨found, member, stands, rfl⟩
    obtain ⟨chosen, chosenMember, same⟩ := exists_nearest_same member stands
    exact ⟨chosen, chosenMember, same_iff_key_eq.mp same⟩

theorem mem_map_key_nearest_of_subset {others : List Match} {keys : List Nat × List String}
    (subset : candidates.map key ⊆ others.map key) (back : others.map key ⊆ candidates.map key)
    (member : keys ∈ (nearest candidates).map key) : keys ∈ (nearest others).map key := by
  obtain ⟨found, foundMember, stands, rfl⟩ := mem_map_key_nearest_iff.mp member
  obtain ⟨other, otherMember, keyEq⟩ := List.mem_map.mp (subset (List.mem_map_of_mem foundMember))
  have otherStands := stands.congr back foundMember (same_iff_key_eq.mpr keyEq.symm)
  exact mem_map_key_nearest_iff.mpr ⟨other, otherMember, otherStands, keyEq⟩

/-- The nearest matches are, in strictly increasing order, the candidates without tokens and the
least candidate of every class of those that chains of overlapping spans connect: one for each
class.  Listed in another order, repeated or with other texts, the candidates give the same. -/
theorem nearest_optimal (candidates : List Match) :
    Increasing (nearest candidates) ∧
      (∀ chosen ∈ nearest candidates, chosen ∈ candidates ∧ Stands candidates chosen) ∧
      (∀ found ∈ candidates, Stands candidates found →
        ∃ chosen ∈ nearest candidates, chosen.same found = true) ∧
      (∀ found ∈ candidates, found.isEmpty = false →
        ∃! chosen, chosen ∈ nearest candidates ∧ Together candidates found chosen) ∧
      ∀ others : List Match, (∀ keys, keys ∈ candidates.map key ↔ keys ∈ others.map key) →
        (nearest candidates).map key = (nearest others).map key := by
  refine ⟨increasing_nearest candidates, ?_, ?_, ?_, ?_⟩
  · exact fun chosen member => ⟨mem_of_mem_nearest member, stands_of_mem_nearest member⟩
  · exact fun found member stands => exists_nearest_same member stands
  · intro found member tokens
    obtain ⟨chosen, chosenMember, together⟩ := exists_nearest_together member tokens
    refine ⟨chosen, ⟨chosenMember, together⟩, ?_⟩
    rintro other ⟨otherMember, otherTogether⟩
    apply (increasing_nearest candidates).eq_of_same otherMember chosenMember
    exact (stands_of_mem_nearest otherMember).same (stands_of_mem_nearest chosenMember)
      (otherTogether.symm.trans together) (otherTogether.isEmpty_eq.symm.trans tokens)
  · intro others same
    have subset : candidates.map key ⊆ others.map key := fun keys => (same keys).mp
    have back : others.map key ⊆ candidates.map key := fun keys => (same keys).mpr
    apply map_key_eq_of_increasing (increasing_nearest candidates) (increasing_nearest others)
    exact fun keys => ⟨mem_map_key_nearest_of_subset subset back,
      mem_map_key_nearest_of_subset back subset⟩

/-- Two pairs of overlapping spans, one inside the other, and a candidate without tokens. -/
theorem nearest_optimal_nested :
    let pair (low high : Nat) : Match := ⟨[low, high], ["text", "text"], ["", ""]⟩
    let given := [pair 0 5, pair 4 5, empty, pair 9 12, pair 10 11]
    (nearest given).map key = (nearest given.reverse).map key ∧
      ∃! chosen, chosen ∈ nearest given ∧ Together given (pair 0 5) chosen := by
  intro pair given
  obtain ⟨-, -, -, classes, listing⟩ := nearest_optimal given
  refine ⟨listing given.reverse ?_, classes (pair 0 5) List.mem_cons_self rfl⟩
  simp only [List.map_reverse, List.mem_reverse, implies_true]

end Concordance.Match
