import Concordance.Cache
import Concordance.Proofs.Entries
import Mathlib.Logic.Function.Basic

/-!
Runs of caches.  Several caches are asked and cloned in any order, and number what they build in
common.  What a cache holds under a key is known from the calls that it has gone through, as itself
or as the cache it was cloned from.
-/

namespace Concordance

namespace MatcherCache

/-! Requests. -/

inductive Request where
  | getOrBuild (key : String) (grammar : Grammar)
  | get (key : String)
  | evict (key : String)
  | clear

inductive Answer where
  | matcher (cached : CachedMatcher)
  | entry (cached? : Option CachedMatcher)
  | present (value : Bool)
  | done

/-- The answer to a request, and the cache that the request leaves. -/
def ask (cache : MatcherCache) : Request → Traced Error (Answer × MatcherCache)
  | .getOrBuild key grammar => do
    let (cached, next) ← cache.getOrBuild key grammar
    return (.matcher cached, next)
  | .get key => return (.entry (cache.get? key), cache)
  | .evict key => return (.present (cache.contains key), cache.evict key)
  | .clear => return (.done, cache.clear)

/-- The cache after a request; one that fails leaves the cache as it was. -/
def after (cache : MatcherCache) (request : Request) : MatcherCache :=
  match (cache.ask request).outcome with
  | .ok (_, next) => next
  | .error _ => cache

/-- Whether a request may change what is under a key. -/
def Request.Concerns (key : String) : Request → Prop
  | getOrBuild other _ | get other | evict other => other = key
  | clear => True

def Request.Drops (key : String) : Request → Prop
  | evict other => other = key
  | clear => True
  | getOrBuild _ _ | get _ => False

theorem Request.Drops.concerns {key : String} {request : Request} (drops : request.Drops key) :
    request.Concerns key := by
  cases request with
  | evict other => exact drops
  | clear => trivial
  | getOrBuild other grammar => exact drops.elim
  | get other => exact drops.elim

variable {cache : MatcherCache} {key : String} {cached : CachedMatcher}

/-! What a cache does with a key that it knows, and with one that it does not know. -/

theorem getOrBuild_of_some (found : cache.get? key = some cached) (grammar : Grammar) :
    cache.getOrBuild key grammar = pure (cached, cache) := by
  rw [getOrBuild, found]

theorem getOrBuild_of_none (missing : cache.get? key = none) (grammar : Grammar) :
    (cache.getOrBuild key grammar).outcome =
      Matcher.ofGrammar grammar >>= fun matcher =>
        .ok (⟨cache.nextBuild, matcher⟩,
          ⟨cache.entries.put key ⟨cache.nextBuild, matcher⟩, cache.nextBuild + 1⟩) := by
  rw [getOrBuild, missing]
  simp

/-- What is given is then under the key. -/
theorem get?_of_getOrBuild {grammar : Grammar} {next : MatcherCache}
    (gives : (cache.getOrBuild key grammar).outcome = .ok (cached, next)) :
    next.get? key = some cached := by
  cases found : cache.get? key with
  | some held =>
      rw [getOrBuild_of_some found] at gives
      cases gives
      exact found
  | none =>
      rw [getOrBuild_of_none found, bind_eq_ok_iff] at gives
      obtain ⟨matcher, -, made⟩ := gives
      cases made
      exact (Entries.get?_put ..).trans (if_pos rfl)

theorem ask_getOrBuild_cases (cache : MatcherCache) (key : String) (grammar : Grammar) :
    (∃ cached, cache.get? key = some cached ∧
      (cache.ask (.getOrBuild key grammar)).outcome = .ok (.matcher cached, cache)) ∨
    (∃ error, cache.get? key = none ∧ Matcher.ofGrammar grammar = .error error ∧
      (cache.ask (.getOrBuild key grammar)).outcome = .error error) ∨
    ∃ matcher, cache.get? key = none ∧ Matcher.ofGrammar grammar = .ok matcher ∧
      (cache.ask (.getOrBuild key grammar)).outcome =
        .ok (.matcher ⟨cache.nextBuild, matcher⟩,
          ⟨cache.entries.put key ⟨cache.nextBuild, matcher⟩, cache.nextBuild + 1⟩) := by
  rw [ask, Traced.outcome_bind]
  cases found : cache.get? key with
  | some cached =>
      rw [getOrBuild_of_some found]
      exact .inl ⟨cached, rfl, rfl⟩
  | none =>
      rw [getOrBuild_of_none found]
      cases built : Matcher.ofGrammar grammar with
      | error error => exact .inr (.inl ⟨error, rfl, rfl, rfl⟩)
      | ok matcher => exact .inr (.inr ⟨matcher, rfl, rfl, rfl⟩)

/-- Only a grammar without a matcher fails, and only where its matcher would be built. -/
theorem getOrBuild_eq_error_iff {grammar : Grammar} {error : Error} :
    (cache.getOrBuild key grammar).outcome = .error error ↔
      cache.get? key = none ∧ Matcher.ofGrammar grammar = .error error := by
  cases found : cache.get? key with
  | some cached =>
      rw [getOrBuild_of_some found]
      exact iff_of_false nofun nofun
  | none =>
      rw [getOrBuild_of_none found, and_iff_right rfl]
      cases Matcher.ofGrammar grammar with
      | error other => simp
      | ok matcher => simp

theorem after_of_ok {request : Request} {answer : Answer} {next : MatcherCache}
    (asked : (cache.ask request).outcome = .ok (answer, next)) : cache.after request = next := by
  rw [after, asked]

theorem after_of_error {request : Request} {error : Error}
    (fails : (cache.ask request).outcome = .error error) : cache.after request = cache := by
  rw [after, fails]

/-! Calls. -/

/-- A request, and the cache to which it was put. -/
structure Call where
  cache : MatcherCache
  request : Request

namespace Call

variable {key : String} {cached other : CachedMatcher} {call : Call} {calls : List Call}

/-- A matcher was asked for under a key, and this one was given. -/
def Gives (key : String) (cached : CachedMatcher) (call : Call) : Prop :=
  ∃ grammar next, call.request = .getOrBuild key grammar ∧
    (call.cache.ask call.request).outcome = .ok (.matcher cached, next)

/-- A matcher was asked for under a key where there was none, and it was built: it is the matcher of
the grammar, and its number is new. -/
def Builds (key : String) (cached : CachedMatcher) (call : Call) : Prop :=
  ∃ grammar, call.request = .getOrBuild key grammar ∧ call.cache.get? key = none ∧
    Matcher.ofGrammar grammar = .ok cached.matcher ∧ cached.build = call.cache.nextBuild

/-- The cache after the call. -/
def next (call : Call) : MatcherCache :=
  call.cache.after call.request

theorem Builds.eq (first : call.Builds key cached) (second : call.Builds key other) :
    cached = other := by
  obtain ⟨grammar, asked, -, built, number⟩ := first
  obtain ⟨_, askedAgain, -, builtAgain, numberAgain⟩ := second
  rw [asked] at askedAgain
  cases askedAgain
  rw [built] at builtAgain
  cases cached
  cases other
  cases builtAgain
  rw [CachedMatcher.mk.injEq]
  exact ⟨number.trans numberAgain.symm, rfl⟩

theorem Builds.key_eq {otherKey : String} (first : call.Builds key cached)
    (second : call.Builds otherKey other) : key = otherKey := by
  obtain ⟨grammar, asked, -⟩ := first
  obtain ⟨_, askedAgain, -⟩ := second
  rw [asked] at askedAgain
  cases askedAgain
  rfl

theorem Builds.missing (builds : call.Builds key cached) : call.cache.get? key = none := by
  obtain ⟨-, -, missing, -⟩ := builds
  exact missing

theorem Builds.ask_outcome (builds : call.Builds key cached) :
    (call.cache.ask call.request).outcome =
      .ok (.matcher cached, ⟨call.cache.entries.put key cached, cached.build + 1⟩) := by
  obtain ⟨grammar, asked, missing, built, number⟩ := builds
  rw [asked]
  rcases ask_getOrBuild_cases call.cache key grammar with ⟨held, found, -⟩ |
    ⟨error, -, invalid, -⟩ | ⟨matcher, -, valid, answers⟩
  · rw [missing] at found
    cases found
  · rw [built] at invalid
    cases invalid
  · rw [built] at valid
    cases valid
    rw [answers, ← number]

theorem Builds.next_eq (builds : call.Builds key cached) :
    call.next = ⟨call.cache.entries.put key cached, cached.build + 1⟩ :=
  after_of_ok builds.ask_outcome

theorem Builds.gives (builds : call.Builds key cached) : call.Gives key cached := by
  have answers := builds.ask_outcome
  obtain ⟨grammar, asked, -⟩ := builds
  exact ⟨grammar, _, asked, answers⟩

theorem Builds.not_drops {otherKey : String} (builds : call.Builds key cached) :
    ¬call.request.Drops otherKey := by
  obtain ⟨grammar, asked, -⟩ := builds
  rw [asked]
  exact id

/-- All that a call can do: build a matcher, drop what is under one key or under all, or nothing. -/
theorem next_cases (call : Call) :
    (∃ key cached, call.Builds key cached) ∨
    (∀ key cached, ¬call.Builds key cached) ∧
      (call.next = call.cache ∧ (∀ key, ¬call.request.Drops key) ∨
        (∃ key, call.request = .evict key ∧ call.next = call.cache.evict key) ∨
        call.request = .clear ∧ call.next = call.cache.clear) := by
  obtain ⟨cache, request⟩ := call
  cases request with
  | getOrBuild key grammar =>
      rcases ask_getOrBuild_cases cache key grammar with ⟨held, found, answers⟩ |
        ⟨error, -, invalid, fails⟩ | ⟨matcher, missing, built, -⟩
      · refine .inr ⟨?_, .inl ⟨after_of_ok answers, fun _ => id⟩⟩
        rintro _ cached ⟨_, ⟨⟩, missing, -⟩
        rw [found] at missing
        cases missing
      · refine .inr ⟨?_, .inl ⟨after_of_error fails, fun _ => id⟩⟩
        rintro _ cached ⟨_, ⟨⟩, -, built, -⟩
        rw [invalid] at built
        cases built
      · exact .inl ⟨key, ⟨cache.nextBuild, matcher⟩, grammar, rfl, missing, built, rfl⟩
  | get key => exact .inr ⟨(fun _ _ ⟨_, asks, _⟩ => nomatch asks), .inl ⟨rfl, fun _ => id⟩⟩
  | evict key =>
      exact .inr ⟨(fun _ _ ⟨_, asks, _⟩ => nomatch asks), .inr (.inl ⟨key, rfl, rfl⟩)⟩
  | clear => exact .inr ⟨(fun _ _ ⟨_, asks, _⟩ => nomatch asks), .inr (.inr ⟨rfl, rfl⟩)⟩

/-- What is under a key after a call has been built by the call, or it was there before and has not
been dropped. -/
theorem get?_next_iff : call.next.get? key = some cached ↔
    call.Builds key cached ∨ call.cache.get? key = some cached ∧ ¬call.request.Drops key := by
  rcases next_cases call with ⟨builtKey, built, builds⟩ |
    ⟨none, ⟨after, keeps⟩ | ⟨dropped, asked, after⟩ | ⟨asked, after⟩⟩
  · rw [builds.next_eq, get?, Entries.get?_put, and_iff_left builds.not_drops]
    split
    · next same =>
      subst same
      have missing := builds.missing
      rw [missing, or_iff_left nofun]
      refine ⟨?_, fun again => congrArg some (builds.eq again)⟩
      rintro ⟨⟩
      exact builds
    · next differ =>
      exact (or_iff_right fun again => differ (builds.key_eq again)).symm
  · rw [after, or_iff_right (none key cached), and_iff_left (keeps key)]
  · rw [after, asked, or_iff_right (none key cached), get?, evict, Entries.get?_erase]
    show _ ↔ _ ∧ ¬dropped = key
    split
    · next same => exact iff_of_false nofun fun kept => kept.2 same
    · next differ => exact (and_iff_left differ).symm
  · rw [after, asked, or_iff_right (none key cached)]
    exact iff_of_false nofun fun kept => kept.2 trivial

theorem Gives.get?_next (gives : call.Gives key cached) : call.next.get? key = some cached := by
  obtain ⟨grammar, given, asked, answers⟩ := gives
  rw [next, after_of_ok answers]
  rw [asked, ask, Traced.outcome_bind, bind_eq_ok_iff] at answers
  obtain ⟨⟨held, kept⟩, outcome, same⟩ := answers
  cases same
  exact get?_of_getOrBuild outcome

theorem Builds.concerns (builds : call.Builds key cached) : call.request.Concerns key := by
  obtain ⟨grammar, asked, -⟩ := builds
  rw [asked]
  exact rfl

theorem get?_next_of_not_concerns (apart : ¬call.request.Concerns key) :
    call.next.get? key = call.cache.get? key := by
  have keeps : ¬call.request.Drops key := mt Request.Drops.concerns apart
  apply Option.ext
  intro cached
  rw [get?_next_iff, or_iff_right fun builds => apart builds.concerns, and_iff_left keeps]

theorem Builds.build_eq (builds : call.Builds key cached) :
    cached.build = call.cache.nextBuild := by
  obtain ⟨-, -, -, -, number⟩ := builds
  exact number

theorem nextBuild_le_next (call : Call) : call.cache.nextBuild ≤ call.next.nextBuild := by
  rcases next_cases call with ⟨key, cached, builds⟩ | ⟨-, ⟨after, -⟩ | ⟨key, -, after⟩ | ⟨-, after⟩⟩
  · rw [builds.next_eq, ← builds.build_eq]
    exact Nat.le_succ _
  · rw [after]
  · rw [after]
    exact Nat.le_refl _
  · rw [after]
    exact Nat.le_refl _

/-! Calls in a row. -/

/-- Whatever was given under the key has been dropped since. -/
def Settled (key : String) (calls : List Call) : Prop :=
  ∀ before call after cached, calls = before ++ call :: after → call.Gives key cached →
    ∃ later ∈ after, later.request.Drops key

/-- The matcher was built by the first call that gave one under the key after the key was last
dropped. -/
def Stands (key : String) (cached : CachedMatcher) (calls : List Call) : Prop :=
  ∃ before call after, calls = before ++ call :: after ∧ Settled key before ∧
    call.Builds key cached ∧ ∀ later ∈ after, ¬later.request.Drops key

/-- What is under a key is known from the calls. -/
structure Accounts (key : String) (entry : Option CachedMatcher) (calls : List Call) : Prop where
  settled : entry = none → Settled key calls
  stands : ∀ cached, entry = some cached → Stands key cached calls

theorem Settled.exists_drop {before after : List Call}
    (settled : Settled key (before ++ call :: after)) (builds : call.Builds key cached) :
    ∃ later ∈ after, later.request.Drops key :=
  settled before call after cached rfl builds.gives

theorem Stands.not_settled (stands : Stands key cached calls) : ¬Settled key calls := by
  obtain ⟨before, call, after, rfl, -, builds, kept⟩ := stands
  intro settled
  obtain ⟨later, member, drops⟩ := settled.exists_drop builds
  exact kept later member drops

theorem Stands.eq (first : Stands key cached calls) (second : Stands key other calls) :
    cached = other := by
  obtain ⟨before, call, after, rfl, settled, builds, kept⟩ := first
  obtain ⟨before', call', after', same, settled', builds', kept'⟩ := second
  -- Of two different calls the earlier one has been dropped before the later one.
  rcases List.append_eq_append_iff.mp same with ⟨between, rfl, rest⟩ | ⟨between, rfl, rest⟩
  · cases between with
    | nil =>
        cases rest
        exact builds.eq builds'
    | cons first between =>
        cases rest
        obtain ⟨later, member, drops⟩ := settled'.exists_drop builds
        exact absurd drops (kept later (List.mem_append_left _ member))
  · cases between with
    | nil =>
        cases rest
        exact builds.eq builds'
    | cons first between =>
        cases rest
        obtain ⟨later, member, drops⟩ := settled.exists_drop builds'
        exact absurd drops (kept' later (List.mem_append_left _ member))

theorem Accounts.eq_none_iff {entry : Option CachedMatcher} (accounts : Accounts key entry calls) :
    entry = none ↔ Settled key calls := by
  refine ⟨accounts.settled, fun settled => ?_⟩
  cases entry with
  | none => rfl
  | some cached => exact absurd settled (accounts.stands cached rfl).not_settled

theorem Accounts.eq_some_iff {entry : Option CachedMatcher} (accounts : Accounts key entry calls) :
    entry = some cached ↔ Stands key cached calls := by
  refine ⟨accounts.stands cached, fun stands => ?_⟩
  cases entry with
  | none => exact absurd (accounts.settled rfl) stands.not_settled
  | some other => exact congrArg some ((accounts.stands other rfl).eq stands)

theorem Accounts.append (accounts : Accounts key (call.cache.get? key) calls) :
    Accounts key (call.next.get? key) (calls ++ [call]) := by
  constructor
  · intro missing before other after cached same gives
    rcases List.eq_nil_or_concat after with rfl | ⟨after, last, rfl⟩
    · obtain ⟨-, lastSame⟩ := List.append_inj' same rfl
      cases lastSame
      rw [gives.get?_next] at missing
      cases missing
    · rw [List.concat_eq_append] at same ⊢
      rw [← List.cons_append, ← List.append_assoc] at same
      obtain ⟨rfl, lastSame⟩ := List.append_inj' same rfl
      cases lastSame
      by_cases drops : call.request.Drops key
      · exact ⟨call, List.mem_append_right _ List.mem_cons_self, drops⟩
      · have empty : call.cache.get? key = none := by
          apply Option.eq_none_iff_forall_ne_some.mpr
          intro held found
          rw [get?_next_iff.mpr (.inr ⟨found, drops⟩)] at missing
          cases missing
        obtain ⟨later, member, dropped⟩ := accounts.settled empty _ _ _ _ rfl gives
        exact ⟨later, List.mem_append_left _ member, dropped⟩
  · intro cached found
    rcases get?_next_iff.mp found with builds | ⟨held, keeps⟩
    · exact ⟨calls, call, [], rfl, accounts.settled builds.missing, builds, nofun⟩
    · obtain ⟨before, other, after, rfl, settled, builds, kept⟩ := accounts.stands cached held
      refine ⟨before, other, after ++ [call], by simp, settled, builds, ?_⟩
      intro later member
      rcases List.mem_append.mp member with member | member
      · exact kept later member
      · rw [List.mem_singleton.mp member]
        exact keeps

end Call

end MatcherCache

/-! Several caches. -/

/-- Caches in places.  What they build they number in common, so that no two builds have one number;
with each cache stand the calls that it has gone through, as itself or as the cache that it was
cloned from. -/
structure Caches where
  entries : Nat → Entries String CachedMatcher
  calls : Nat → List MatcherCache.Call
  /-- The number of the next build, in whichever cache. -/
  nextBuild : Nat

namespace Caches

open MatcherCache (Request Call)

inductive Step where
  | ask (place : Nat) (request : Request)
  | clone (source target : Nat)

/-- The place that a step may change. -/
def Step.place : Step → Nat
  | ask place _ => place
  | clone _ target => target

/-- All places with an empty cache. -/
def start : Caches := ⟨fun _ => .empty, fun _ => [], 0⟩

def cache (caches : Caches) (place : Nat) : MatcherCache :=
  ⟨caches.entries place, caches.nextBuild⟩

def step (caches : Caches) : Step → Caches
  | .ask place request =>
    let call : Call := ⟨caches.cache place, request⟩
    ⟨Function.update caches.entries place call.next.entries,
      Function.update caches.calls place (caches.calls place ++ [call]), call.next.nextBuild⟩
  | .clone source target =>
    { caches with
      entries := Function.update caches.entries target (caches.entries source)
      calls := Function.update caches.calls target (caches.calls source) }

def run (caches : Caches) (history : List Step) : Caches :=
  history.foldl step caches

/-- A matcher is built in this step. -/
def Step.Builds (caches : Caches) (cached : CachedMatcher) : Step → Prop
  | ask place request => ∃ key, Call.Builds key cached ⟨caches.cache place, request⟩
  | clone _ _ => False

variable {caches : Caches} {place : Nat} {cached : CachedMatcher}

theorem run_append (caches : Caches) (first second : List Step) :
    caches.run (first ++ second) = (caches.run first).run second :=
  List.foldl_append

/-! What a step keeps. -/

theorem entries_step_of_ne {next : Step} (apart : next.place ≠ place) :
    (caches.step next).entries place = caches.entries place := by
  cases next with
  | ask other request => exact Function.update_of_ne apart.symm _ _
  | clone source target => exact Function.update_of_ne apart.symm _ _

theorem entries_run_of_ne {history : List Step} (apart : ∀ next ∈ history, next.place ≠ place) :
    (caches.run history).entries place = caches.entries place := by
  induction history generalizing caches with
  | nil => rfl
  | cons next rest ih =>
      rw [List.forall_mem_cons] at apart
      exact (ih apart.2).trans (entries_step_of_ne apart.1)

theorem entries_step_clone (source target : Nat) :
    (caches.step (.clone source target)).entries target = caches.entries source :=
  Function.update_self ..

/-! Numbers. -/

theorem nextBuild_le_step (next : Step) : caches.nextBuild ≤ (caches.step next).nextBuild := by
  cases next with
  | ask place request => exact Call.nextBuild_le_next ⟨caches.cache place, request⟩
  | clone source target => exact Nat.le_refl _

theorem nextBuild_le_run (history : List Step) :
    caches.nextBuild ≤ (caches.run history).nextBuild := by
  induction history generalizing caches with
  | nil => exact Nat.le_refl _
  | cons next rest ih => exact Nat.le_trans (nextBuild_le_step next) ih

theorem Step.Builds.build_eq {next : Step} (builds : next.Builds caches cached) :
    cached.build = caches.nextBuild ∧ (caches.step next).nextBuild = cached.build + 1 := by
  cases next with
  | ask place request =>
      obtain ⟨key, builds⟩ := builds
      exact ⟨builds.build_eq, congrArg MatcherCache.nextBuild builds.next_eq⟩
  | clone source target => exact builds.elim

/-! What a cache holds. -/

/-- The calls of every cache account for what is in it. -/
def Accounted (caches : Caches) : Prop :=
  ∀ place key, Call.Accounts key ((caches.cache place).get? key) (caches.calls place)

theorem Accounted.step (accounted : caches.Accounted) (next : Step) :
    (caches.step next).Accounted := by
  intro place key
  show Call.Accounts key (((caches.step next).entries place).get? key)
    ((caches.step next).calls place)
  cases next with
  | ask asked request =>
      rw [Caches.step]
      dsimp only
      by_cases same : place = asked
      · subst same
        rw [Function.update_self, Function.update_self]
        exact (accounted place key).append
      · rw [Function.update_of_ne same, Function.update_of_ne same]
        exact accounted place key
  | clone source target =>
      rw [Caches.step]
      dsimp only
      by_cases same : place = target
      · subst same
        rw [Function.update_self, Function.update_self]
        exact accounted source key
      · rw [Function.update_of_ne same, Function.update_of_ne same]
        exact accounted place key

theorem accounted_start : start.Accounted := by
  intro place key
  exact ⟨fun _ before call after cached same => by simp [start] at same, nofun⟩

theorem Accounted.run (accounted : caches.Accounted) (history : List Step) :
    (caches.run history).Accounted := by
  induction history generalizing caches with
  | nil => exact accounted
  | cons next rest ih => exact ih (accounted.step next)

/-- Of two builds in one history, the later has the greater number. -/
theorem build_lt_of_builds {before between : List Step} {first second : Step}
    {earlier later : CachedMatcher} (firstBuilds : first.Builds (caches.run before) earlier)
    (secondBuilds : second.Builds (caches.run (before ++ first :: between)) later) :
    earlier.build < later.build := by
  have middle := @nextBuild_le_run ((caches.run before).step first) between
  rw [firstBuilds.build_eq.2] at middle
  rw [secondBuilds.build_eq.1, run_append]
  exact middle

theorem step_of_error {request : Request} {error : Error}
    (fails : ((caches.cache place).ask request).outcome = .error error) :
    (caches.step (.ask place request)).entries = caches.entries ∧
      (caches.step (.ask place request)).nextBuild = caches.nextBuild := by
  have same : Call.next ⟨caches.cache place, request⟩ = caches.cache place :=
    MatcherCache.after_of_error fails
  constructor
  · rw [step]
    dsimp only
    rw [same]
    exact Function.update_eq_self place caches.entries
  · exact congrArg MatcherCache.nextBuild same

/-- Under a key there is, after every history of requests and clones, what the first call that gave
a matcher built since the key was last dropped; nothing if there was no such call.  Each build has a
number of its own, and what is there is given again, without a build, for every grammar. -/
theorem cache_of_run {history : List Step} {cache : MatcherCache}
    (reached : start.run history = caches) (there : caches.cache place = cache) :
    (∀ key cached, cache.get? key = some cached ↔ Call.Stands key cached (caches.calls place)) ∧
    (∀ key, cache.get? key = none ↔ Call.Settled key (caches.calls place)) ∧
    (∀ before first between second after earlier later,
      history = before ++ first :: between ++ second :: after →
      first.Builds (start.run before) earlier →
      second.Builds (start.run (before ++ first :: between)) later →
      earlier.build < later.build) ∧
    (∀ key cached grammar, cache.get? key = some cached →
      cache.getOrBuild key grammar = pure (cached, cache)) ∧
    (∀ key grammar cached next, (cache.getOrBuild key grammar).outcome = .ok (cached, next) →
      next.get? key = some cached) ∧
    (∀ key grammar error, (cache.getOrBuild key grammar).outcome = .error error ↔
      cache.get? key = none ∧ Matcher.ofGrammar grammar = .error error) ∧
    (∀ request error, (cache.ask request).outcome = .error error →
      (caches.step (.ask place request)).entries = caches.entries ∧
      (caches.step (.ask place request)).nextBuild = caches.nextBuild) ∧
    (∀ key request, ¬request.Concerns key → (cache.after request).get? key = cache.get? key) ∧
    (∀ key, ∃ present,
      (cache.ask (.evict key)).outcome = .ok (.present present, cache.after (.evict key)) ∧
      (present = true ↔ ∃ cached, cache.get? key = some cached)) ∧
    (∃ keys : Finset String, (∀ key, key ∈ keys ↔ ∃ cached, cache.get? key = some cached) ∧
      cache.size = keys.card) ∧
    ∀ target more,
      ((∀ next ∈ more, next.place ≠ target) →
        (start.run (history ++ .clone place target :: more)).entries target = cache.entries) ∧
      (target ≠ place → (∀ next ∈ more, next.place ≠ place) →
        (start.run (history ++ .clone place target :: more)).entries place = cache.entries) := by
  have accounts := fun key => accounted_start.run history place key
  rw [reached, there] at accounts
  refine ⟨?stands, ?settled, ?numbers, ?again, ?given, ?fails, ?failing, ?frame, ?evicted,
    ?counted, ?cloned⟩
  case stands => exact fun key cached => (accounts key).eq_some_iff
  case settled => exact fun key => (accounts key).eq_none_iff
  case numbers =>
    rintro before first between second after earlier later - firstBuilds secondBuilds
    exact build_lt_of_builds firstBuilds secondBuilds
  case again =>
    exact fun key cached grammar found => MatcherCache.getOrBuild_of_some found grammar
  case given =>
    exact fun key grammar cached next => MatcherCache.get?_of_getOrBuild
  case fails => exact fun key grammar error => MatcherCache.getOrBuild_eq_error_iff
  case failing =>
    intro request error fails
    rw [← there] at fails
    exact step_of_error fails
  case frame =>
    exact fun key request => @Call.get?_next_of_not_concerns key ⟨cache, request⟩
  case evicted =>
    exact fun key =>
      ⟨cache.contains key, rfl, Entries.contains_eq_true_iff.trans Entries.mem_keys_iff⟩
  case counted =>
    exact ⟨cache.entries.keys.toFinset, fun key => List.mem_toFinset.trans Entries.mem_keys_iff,
      Entries.size_eq_card_keys cache.entries⟩
  case cloned =>
    intro target more
    have held : caches.entries place = cache.entries := by rw [← there, Caches.cache]
    rw [run_append, reached]
    constructor
    · intro apart
      exact (entries_run_of_ne apart).trans ((entries_step_clone place target).trans held)
    · intro differ apart
      have kept : (caches.step (.clone place target)).entries place = caches.entries place :=
        entries_step_of_ne differ
      exact (entries_run_of_ne apart).trans (kept.trans held)

/-! A matcher is built, given again for a grammar that has none, cloned, dropped and built anew. -/

def foxes : Grammar :=
  .exact "foxes" "text" ["fox", "vixen"]

def foxesTwice : List Step := [
  .ask 0 (.getOrBuild "fox" foxes),
  .ask 0 (.getOrBuild "fox" (.combine .union [])),
  .ask 0 (.getOrBuild "hen" (.combine .union [])),
  .clone 0 1,
  .ask 0 (.evict "fox"),
  .ask 0 (.getOrBuild "fox" foxes)]

/-- The matcher of the grammar, with the number of a build. -/
def foxesBuilt (build : Nat) : CachedMatcher :=
  ⟨build, .scan (.ofTerms ["fox", "vixen"] "text" false false)⟩

theorem cache_of_run_foxesTwice :
    Call.Stands "fox" (foxesBuilt 1) ((start.run foxesTwice).calls 0) ∧
    Call.Stands "fox" (foxesBuilt 0) ((start.run foxesTwice).calls 1) ∧
    (foxesBuilt 0).build < (foxesBuilt 1).build ∧
    Call.Settled "hen" ((start.run foxesTwice).calls 0) ∧
    ((start.run foxesTwice).cache 1).getOrBuild "fox" (.combine .union []) =
      pure (foxesBuilt 0, (start.run foxesTwice).cache 1) := by
  obtain ⟨stands, settled, numbers, -⟩ := @cache_of_run _ 0 foxesTwice _ rfl rfl
  obtain ⟨standsInClone, -, -, again, -⟩ := @cache_of_run _ 1 foxesTwice _ rfl rfl
  have inClone : ((start.run foxesTwice).cache 1).get? "fox" = some (foxesBuilt 0) := rfl
  refine ⟨(stands _ _).mp rfl, (standsInClone _ _).mp inClone, ?_, (settled _).mp rfl,
    again _ _ _ inClone⟩
  exact numbers [] (.ask 0 (.getOrBuild "fox" foxes)) ((foxesTwice.drop 1).take 4)
    (.ask 0 (.getOrBuild "fox" foxes)) [] _ _ rfl ⟨"fox", foxes, rfl, rfl, rfl, rfl⟩
    ⟨"fox", foxes, rfl, rfl, rfl, rfl⟩

end Caches

end Concordance
