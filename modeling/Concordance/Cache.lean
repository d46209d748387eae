import Concordance.Matcher.Build

/-!
Matchers kept under keys.  A matcher is built when its key is first asked for and stays until it is
evicted; a build that fails leaves nothing behind.  Every build has a number of its own, which tells
one built matcher from another.
-/

namespace Concordance

structure CachedMatcher where
  build : Nat
  matcher : Matcher
deriving Repr

structure MatcherCache where
  entries : Entries String CachedMatcher
  /-- The number of the next build. -/
  nextBuild : Nat
deriving Repr

namespace MatcherCache

def empty : MatcherCache := ⟨.empty, 0⟩

def get? (cache : MatcherCache) (key : String) : Option CachedMatcher :=
  cache.entries.get? key

/-- The matcher under a key, built from a grammar if there is none. -/
def getOrBuild (cache : MatcherCache) (key : String) (grammar : Grammar) :
    Traced Error (CachedMatcher × MatcherCache) := do
  match cache.get? key with
  | some cached => return (cached, cache)
  | none =>
    let matcher ← Matcher.ofGrammar grammar
    Traced.report (.builtMatcher grammar.name)
    let cached := ⟨cache.nextBuild, matcher⟩
    return (cached, ⟨cache.entries.put key cached, cache.nextBuild + 1⟩)

def contains (cache : MatcherCache) (key : String) : Bool :=
  cache.entries.contains key

def evict (cache : MatcherCache) (key : String) : MatcherCache :=
  { cache with entries := cache.entries.erase key }

def clear (cache : MatcherCache) : MatcherCache :=
  { cache with entries := .empty }

def size (cache : MatcherCache) : Nat :=
  cache.entries.size

def isEmpty (cache : MatcherCache) : Bool :=
  cache.entries.isEmpty

end MatcherCache

end Concordance
