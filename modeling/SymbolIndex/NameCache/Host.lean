import SymbolIndex.NameCache.Basic

/-! # Shared name caches

A host owns any number of caches and hands out handles to them: shared handles, scopes opened on
them, and updaters obtained from scopes. A handle refers to its cache and never copies it. Handles
of each kind are numbered in the order they are made, and the number of a dropped one is not used
again.
-/
namespace SymbolIndex

abbrev CacheId := Nat

/-- The handles of one kind; a dropped one leaves its place empty. -/
abbrev Handles := List (Option CacheId)

structure Host where
  caches : List NameCache
  shared : Handles
  scopes : Handles
  updaters : Handles
  deriving Repr

inductive HostStep where
  | create (capacity : UInt64)
  | share (cache : NameCache)
  | clone (slot : Nat)
  | drop (slot : Nat)
  | enter (slot : Nat)
  | leave (scope : Nat)
  | obtainUpdater (scope : Nat)
  | cloneUpdater (updater : Nat)
  | dropUpdater (updater : Nat)
  | resolve (scope : Nat) (symbol : Symbol)
  | update (updater : Nat) (ops : List NameCache.Op)
  | read (slot : Nat) (queries : List NameCache.Query)
  | sharesCache (scope slot : Nat)
  | references (slot : Nat)
  deriving DecidableEq, Repr

inductive HostAnswer where
  | handle (number : Nat)
  | done
  | noHandle
  | name (n : Name)
  | answers (as : List NameCache.Answer)
  | flag (b : Bool)
  | count (n : Nat)
  deriving DecidableEq, Repr

namespace Host

def empty : Host := ⟨[], [], [], []⟩

def get? (handles : Handles) (number : Nat) : Option CacheId := handles[number]?.join

def cache (h : Host) (id : CacheId) : NameCache := h.caches.getD id .empty

def setCache (h : Host) (id : CacheId) (c : NameCache) : Host :=
  { h with caches := h.caches.set id c }

def adopt (h : Host) (c : NameCache) : HostAnswer × Host :=
  (.handle h.shared.length,
    { h with
      caches := h.caches ++ [c]
      shared := h.shared ++ [some h.caches.length] })

def references (h : Host) (id : CacheId) : Nat :=
  h.shared.count (some id) + h.scopes.count (some id) + h.updaters.count (some id)

def withCache (h : Host) (handles : Handles) (number : Nat)
    (f : CacheId → Logged (HostAnswer × Host)) : Logged (HostAnswer × Host) :=
  match get? handles number with
  | none => pure (.noHandle, h)
  | some id => f id

def step (h : Host) : HostStep → Logged (HostAnswer × Host)
  | .create capacity => pure (h.adopt (.withCapacity capacity))
  | .share cache => pure (h.adopt cache)
  | .clone slot => h.withCache h.shared slot fun id =>
    pure (.handle h.shared.length, { h with shared := h.shared ++ [some id] })
  | .drop slot => h.withCache h.shared slot fun _ =>
    pure (.done, { h with shared := h.shared.set slot none })
  | .enter slot => h.withCache h.shared slot fun id =>
    pure (.handle h.scopes.length, { h with scopes := h.scopes ++ [some id] })
  | .leave scope => h.withCache h.scopes scope fun _ =>
    pure (.done, { h with scopes := h.scopes.set scope none })
  | .obtainUpdater scope => h.withCache h.scopes scope fun id =>
    pure (.handle h.updaters.length, { h with updaters := h.updaters ++ [some id] })
  | .cloneUpdater updater => h.withCache h.updaters updater fun id =>
    pure (.handle h.updaters.length, { h with updaters := h.updaters ++ [some id] })
  | .dropUpdater updater => h.withCache h.updaters updater fun _ =>
    pure (.done, { h with updaters := h.updaters.set updater none })
  | .resolve scope symbol => h.withCache h.scopes scope fun id => do
    let (n, c) ← (h.cache id).lookupOrInsert symbol.module symbol.name
    return (.name n, h.setCache id c)
  | .update updater ops => h.withCache h.updaters updater fun id => do
    let (as, c) ← (h.cache id).run ops
    return (.answers as, h.setCache id c)
  | .read slot queries => h.withCache h.shared slot fun id =>
    pure (.answers (queries.map (h.cache id).answer), h)
  | .sharesCache scope slot => h.withCache h.scopes scope fun id =>
    h.withCache h.shared slot fun id' => pure (.flag (id = id'), h)
  | .references slot => h.withCache h.shared slot fun id => pure (.count (h.references id), h)

def run (h : Host) : List HostStep → Logged (List HostAnswer × Host)
  | [] => pure ([], h)
  | step :: steps => do
    let (answer, next) ← h.step step
    let (answers, last) ← next.run steps
    return (answer :: answers, last)

/-- Runs steps inside a scope of their own and gives their answers alone. -/
def inScope (h : Host) (slot : Nat) (steps : (scope : Nat) → List HostStep) :
    Logged (List HostAnswer × Host) := do
  let scope := h.scopes.length
  let (answers, next) ← h.run (.enter slot :: steps scope ++ [.leave scope])
  return (answers.tail.dropLast, next)

def withUpdater (h : Host) (slot : Nat) (steps : (updater : Nat) → List HostStep) :
    Logged (List HostAnswer × Host) := do
  let updater := h.updaters.length
  let (answers, next) ← h.inScope slot fun scope =>
    .obtainUpdater scope :: steps updater ++ [.dropUpdater updater]
  return (answers.tail.dropLast, next)

end Host

def showReferences (n : Nat) : String :=
  "SharedNameCache \x7b strong_refs: " ++ toString n ++ " \x7d"

end SymbolIndex
