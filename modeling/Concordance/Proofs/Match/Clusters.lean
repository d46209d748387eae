import Concordance.Proofs.Match.Members
import Concordance.Proofs.Match.Order
import Mathlib.Data.List.Induction
import Mathlib.Data.List.Pairwise
import Mathlib.Logic.Relation

/-!
Clusters of candidates.  The sweep over candidates in order of their spans cuts the list where a
span starts beyond all ends so far.  Inside such a part every candidate overlaps one that was read
before it, and no candidate overlaps one of another part, so the parts are the classes of the
candidates that chains of overlaps connect.
-/

namespace Concordance.Match

/-! Spans. -/

def start (found : Match) : Nat :=
  (found.span?.map Prod.fst).getD 0

/-- Whether the span of a match, from its least token to its greatest one, holds an index. -/
def Spans (found : Match) (index : Nat) : Prop :=
  ∃ low high, found.span? = some (low, high) ∧ low ≤ index ∧ index ≤ high

def Overlaps (left right : Match) : Prop :=
  ∃ index, left.Spans index ∧ right.Spans index

theorem Overlaps.symm {left right : Match} (overlap : left.Overlaps right) :
    right.Overlaps left := by
  obtain ⟨index, leftSpans, rightSpans⟩ := overlap
  exact ⟨index, rightSpans, leftSpans⟩

theorem span?_eq_none_iff {found : Match} : found.span? = none ↔ found.isEmpty = true := by
  rw [span?, isEmpty]
  cases found.tokens <;> simp

theorem foldl_min_le (tokens : List Nat) (token : Nat) : tokens.foldl min token ≤ token := by
  induction tokens generalizing token with
  | nil => exact Nat.le_refl token
  | cons next rest ih => exact Nat.le_trans (ih _) (Nat.min_le_left _ _)

theorem le_foldl_max (tokens : List Nat) (token : Nat) : token ≤ tokens.foldl max token := by
  induction tokens generalizing token with
  | nil => exact Nat.le_refl token
  | cons next rest ih => exact Nat.le_trans (Nat.le_max_left _ _) (ih _)

theorem le_of_span? {found : Match} {low high : Nat} (spans : found.span? = some (low, high)) :
    low ≤ high := by
  rw [span?] at spans
  split at spans
  · cases spans
  · next token rest _ =>
    cases spans
    exact Nat.le_trans (foldl_min_le rest token) (le_foldl_max rest token)

/-- Candidates that belong together: a chain of overlapping candidates leads from one to the other.
-/
def Together (candidates : List Match) : Match → Match → Prop :=
  Relation.ReflTransGen fun left right =>
    left ∈ candidates ∧ right ∈ candidates ∧ left.Overlaps right

theorem Together.symm {candidates : List Match} {left right : Match}
    (together : Together candidates left right) : Together candidates right left := by
  induction together with
  | refl => exact .refl
  | tail _ step ih => exact .head ⟨step.2.1, step.1, step.2.2.symm⟩ ih

namespace Spanned

/-- The span is the one of the match. -/
def Read (spanned : Spanned) : Prop :=
  spanned.found.span? = some (spanned.start, spanned.stop)

theorem ofMatch?_eq_some_iff {found : Match} {spanned : Spanned} :
    ofMatch? found = some spanned ↔ spanned.found = found ∧ spanned.Read := by
  obtain ⟨start, stop, other⟩ := spanned
  rw [ofMatch?, Read, Option.map_eq_some_iff]
  constructor
  · rintro ⟨⟨low, high⟩, spans, equal⟩
    cases equal
    exact ⟨rfl, spans⟩
  · rintro ⟨rfl, spans⟩
    exact ⟨(start, stop), spans, rfl⟩

theorem Read.start_le_stop {spanned : Spanned} (read : spanned.Read) :
    spanned.start ≤ spanned.stop :=
  le_of_span? read

theorem Read.spans_iff {spanned : Spanned} (read : spanned.Read) {index : Nat} :
    spanned.found.Spans index ↔ spanned.start ≤ index ∧ index ≤ spanned.stop := by
  constructor
  · rintro ⟨low, high, spans, within⟩
    rw [read] at spans
    cases spans
    exact within
  · exact fun within => ⟨spanned.start, spanned.stop, read, within⟩

theorem Read.overlaps_iff {left right : Spanned} (leftRead : left.Read) (rightRead : right.Read) :
    left.found.Overlaps right.found ↔ left.start ≤ right.stop ∧ right.start ≤ left.stop := by
  have leftOrder := leftRead.start_le_stop
  have rightOrder := rightRead.start_le_stop
  simp only [Overlaps, leftRead.spans_iff, rightRead.spans_iff]
  constructor
  · rintro ⟨index, leftWithin, rightWithin⟩
    omega
  · rintro ⟨before, after⟩
    exact ⟨max left.start right.start, by omega, by omega⟩

end Spanned

/-! The parts that the sweep makes. -/

/-- What the sweep has read of a part: at least one candidate. -/
structure Cluster where
  first : Spanned
  others : List Spanned
deriving DecidableEq

namespace Cluster

def members (cluster : Cluster) : List Spanned :=
  cluster.first :: cluster.others

def add (cluster : Cluster) (next : Spanned) : Cluster :=
  ⟨cluster.first, cluster.others ++ [next]⟩

def stop (cluster : Cluster) : Nat :=
  cluster.others.foldl (fun stop next => max stop next.stop) cluster.first.stop

def best (cluster : Cluster) : Spanned :=
  cluster.others.foldl (fun best next => if next.beats best then next else best) cluster.first

@[simp] theorem members_add (cluster : Cluster) (next : Spanned) :
    (cluster.add next).members = cluster.members ++ [next] := rfl

@[simp] theorem stop_add (cluster : Cluster) (next : Spanned) :
    (cluster.add next).stop = max cluster.stop next.stop := by
  simp [stop, add]

@[simp] theorem best_add (cluster : Cluster) (next : Spanned) :
    (cluster.add next).best = if next.beats cluster.best then next else cluster.best := by
  rw [best, add, List.foldl_append]
  rfl

/-- What holds of a part with one candidate, and is kept where another one is added, holds of every
part. -/
theorem induction {Kept : Cluster → Prop} (single : ∀ first, Kept ⟨first, []⟩)
    (add : ∀ cluster next, Kept cluster → Kept (cluster.add next)) (cluster : Cluster) :
    Kept cluster := by
  obtain ⟨first, others⟩ := cluster
  induction others using List.reverseRecOn with
  | nil => exact single first
  | append_singleton others next ih => exact add ⟨first, others⟩ next ih

theorem exists_stop (cluster : Cluster) :
    (∃ member ∈ cluster.members, member.stop = cluster.stop) ∧
      ∀ member ∈ cluster.members, member.stop ≤ cluster.stop := by
  induction cluster using Cluster.induction with
  | single first => simp [members, stop]
  | add cluster next ih =>
      obtain ⟨⟨last, lastMember, lastStop⟩, bounded⟩ := ih
      rw [members_add, stop_add]
      constructor
      · rcases Nat.le_total cluster.stop next.stop with le | le
        · exact ⟨next, by simp, (Nat.max_eq_right le).symm⟩
        · exact ⟨last, by simp [lastMember], lastStop.trans (Nat.max_eq_left le).symm⟩
      · intro member inside
        rcases List.mem_append.mp inside with inside | inside
        · exact Nat.le_trans (bounded member inside) (Nat.le_max_left _ _)
        · rw [List.mem_singleton.mp inside]
          exact Nat.le_max_right _ _

theorem best_mem (cluster : Cluster) : cluster.best ∈ cluster.members := by
  induction cluster using Cluster.induction with
  | single first => exact List.mem_cons_self
  | add cluster next ih =>
      rw [best_add, members_add]
      split
      · simp
      · simp [ih]

end Cluster

/-- The parts of a list in order of spans, after the part that is being read. -/
def clustersFrom : List Spanned → Cluster → List Cluster
  | [], current => [current]
  | next :: rest, current =>
    if current.stop < next.start then current :: clustersFrom rest ⟨next, []⟩
    else clustersFrom rest (current.add next)

def clusters : List Spanned → List Cluster
  | [] => []
  | first :: rest => clustersFrom rest ⟨first, []⟩

/-- The sweep keeps of every part the end and the best candidate so far. -/
theorem winnersFrom_eq (list : List Spanned) (current : Cluster) :
    winnersFrom list current.stop current.best =
      (clustersFrom list current).map fun cluster => cluster.best.found := by
  induction list generalizing current with
  | nil => rfl
  | cons next rest ih =>
      rw [winnersFrom, clustersFrom]
      split
      · exact congrArg (current.best.found :: ·) (ih ⟨next, []⟩)
      · rw [← ih, Cluster.stop_add, Cluster.best_add]

theorem winners_eq (list : List Spanned) :
    winners list = (clusters list).map fun cluster => cluster.best.found := by
  cases list with
  | nil => rfl
  | cons first rest => exact winnersFrom_eq rest ⟨first, []⟩

theorem flatMap_members_clustersFrom (list : List Spanned) (current : Cluster) :
    (clustersFrom list current).flatMap Cluster.members = current.members ++ list := by
  induction list generalizing current with
  | nil => simp [clustersFrom]
  | cons next rest ih =>
      rw [clustersFrom]
      split
      · rw [List.flatMap_cons, ih]
        rfl
      · rw [ih, Cluster.members_add, List.append_assoc]
        rfl

theorem flatMap_members_clusters (list : List Spanned) :
    (clusters list).flatMap Cluster.members = list := by
  cases list with
  | nil => rfl
  | cons first rest => exact flatMap_members_clustersFrom rest ⟨first, []⟩

theorem mem_clusters_iff {spanned : Spanned} {list : List Spanned} :
    spanned ∈ list ↔ ∃ cluster ∈ clusters list, spanned ∈ cluster.members := by
  rw [← List.mem_flatMap, flatMap_members_clusters]

/-! Candidates of different parts. -/

/-- Spans in order of where they start. -/
def InOrder (list : List Spanned) : Prop :=
  list.Pairwise fun left right => left.start ≤ right.start

/-- No candidate of one part overlaps one of the other. -/
def Cluster.Apart (left right : Cluster) : Prop :=
  ∀ first ∈ left.members, ∀ second ∈ right.members,
    first.stop < second.start ∨ second.stop < first.start

instance : Std.Symm Cluster.Apart where
  symm _ _ apart := fun second secondMember first firstMember =>
    (apart first firstMember second secondMember).symm

theorem mem_of_mem_clustersFrom {list : List Spanned} {current cluster : Cluster}
    {spanned : Spanned} (clusterMember : cluster ∈ clustersFrom list current)
    (member : spanned ∈ cluster.members) : spanned ∈ current.members ++ list := by
  rw [← flatMap_members_clustersFrom]
  exact List.mem_flatMap_of_mem clusterMember member

theorem apart_clustersFrom {list : List Spanned} (ordered : InOrder list) (current : Cluster) :
    (clustersFrom list current).Pairwise Cluster.Apart := by
  induction list generalizing current with
  | nil => exact List.pairwise_singleton _ _
  | cons next rest ih =>
      obtain ⟨least, restOrdered⟩ := List.pairwise_cons.mp ordered
      rw [clustersFrom]
      split
      · next beyond =>
        refine List.pairwise_cons.mpr ⟨?_, ih restOrdered _⟩
        intro cluster clusterMember first firstMember second secondMember
        have ended := current.exists_stop.2 first firstMember
        rcases List.mem_cons.mp (mem_of_mem_clustersFrom clusterMember secondMember) with
          rfl | secondMember
        · omega
        · have later := least second secondMember
          omega
      · exact ih restOrdered _

theorem apart_clusters {list : List Spanned} (ordered : InOrder list) :
    (clusters list).Pairwise Cluster.Apart := by
  cases list with
  | nil => exact .nil
  | cons first rest => exact apart_clustersFrom (List.pairwise_cons.mp ordered).2 _

/-! Candidates of one part. -/

def Cluster.Joined (candidates : List Match) (cluster : Cluster) : Prop :=
  ∀ member ∈ cluster.members, Together candidates cluster.first.found member.found

/-- A candidate that starts before the end of a part overlaps one of its candidates. -/
theorem Cluster.Joined.add {candidates : List Match} {cluster : Cluster} {next : Spanned}
    (joined : cluster.Joined candidates) (given : ∀ member ∈ cluster.members,
      member.Read ∧ member.found ∈ candidates ∧ member.start ≤ next.start)
    (nextRead : next.Read) (nextMember : next.found ∈ candidates)
    (touches : next.start ≤ cluster.stop) : (cluster.add next).Joined candidates := by
  intro member inside
  rw [Cluster.members_add] at inside
  rcases List.mem_append.mp inside with inside | inside
  · exact joined member inside
  · rw [List.mem_singleton.mp inside]
    obtain ⟨⟨last, lastMember, lastStop⟩, -⟩ := cluster.exists_stop
    obtain ⟨lastRead, lastFound, before⟩ := given last lastMember
    have nextOrder := nextRead.start_le_stop
    have overlap := (lastRead.overlaps_iff nextRead).mpr ⟨by omega, by omega⟩
    exact (joined last lastMember).tail ⟨lastFound, nextMember, overlap⟩

theorem joined_clustersFrom {candidates : List Match} {list : List Spanned} {current : Cluster}
    (given : ∀ spanned ∈ current.members ++ list, spanned.Read ∧ spanned.found ∈ candidates)
    (ordered : InOrder (current.members ++ list)) (joined : current.Joined candidates) :
    ∀ cluster ∈ clustersFrom list current, cluster.Joined candidates := by
  induction list generalizing current with
  | nil => exact List.forall_mem_singleton.mpr joined
  | cons next rest ih =>
      obtain ⟨currentGiven, restGiven⟩ := List.forall_mem_append.mp given
      obtain ⟨-, restOrdered, before⟩ := List.pairwise_append.mp ordered
      rw [clustersFrom]
      split
      · refine List.forall_mem_cons.mpr ⟨joined, ih restGiven restOrdered ?_⟩
        exact List.forall_mem_singleton.mpr .refl
      · next touches =>
        obtain ⟨nextRead, nextMember⟩ := restGiven next List.mem_cons_self
        have assoc : (current.add next).members ++ rest = current.members ++ next :: rest := by
          rw [Cluster.members_add, List.append_assoc]
          rfl
        apply ih
        · rwa [assoc]
        · rwa [assoc]
        · refine joined.add ?_ nextRead nextMember (Nat.le_of_not_lt touches)
          intro member inside
          obtain ⟨read, found⟩ := currentGiven member inside
          exact ⟨read, found, before member inside next List.mem_cons_self⟩

theorem joined_clusters {candidates : List Match} {list : List Spanned}
    (given : ∀ spanned ∈ list, spanned.Read ∧ spanned.found ∈ candidates)
    (ordered : InOrder list) : ∀ cluster ∈ clusters list, cluster.Joined candidates := by
  cases list with
  | nil => exact nofun
  | cons first rest =>
      exact joined_clustersFrom given ordered (List.forall_mem_singleton.mpr .refl)

/-- The part of a candidate is its class: it holds whatever belongs together with the candidate. -/
theorem exists_mem_of_together {candidates : List Match} {list : List Spanned} {cluster : Cluster}
    {spanned : Spanned} {other : Match}
    (given : ∀ spanned, spanned ∈ list ↔ spanned.Read ∧ spanned.found ∈ candidates)
    (ordered : InOrder list) (clusterMember : cluster ∈ clusters list)
    (member : spanned ∈ cluster.members) (together : Together candidates spanned.found other) :
    ∃ found ∈ cluster.members, found.found = other := by
  induction together with
  | refl => exact ⟨spanned, member, rfl⟩
  | @tail middle last _ step ih =>
      obtain ⟨before, beforeMember, rfl⟩ := ih
      obtain ⟨-, lastMember, overlap⟩ := step
      have ⟨_, _, low, high, spans, _⟩ := overlap
      have afterRead : (Spanned.mk low high last).Read := spans
      obtain ⟨otherCluster, otherMember, afterMember⟩ :=
        mem_clusters_iff.mp ((given ⟨low, high, last⟩).mpr ⟨afterRead, lastMember⟩)
      have beforeRead := ((given before).mp
        (mem_clusters_iff.mpr ⟨cluster, clusterMember, beforeMember⟩)).1
      have meets := (beforeRead.overlaps_iff afterRead).mp overlap
      have same : cluster = otherCluster := by
        apply Decidable.byContradiction
        intro differ
        have apart := (apart_clusters ordered).forall clusterMember otherMember differ before
          beforeMember _ afterMember
        dsimp only at meets apart
        omega
      exact ⟨_, same ▸ afterMember, rfl⟩

end Concordance.Match
