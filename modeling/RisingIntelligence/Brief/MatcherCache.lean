import RisingIntelligence.Brief.TopicRelevance
import RisingIntelligence.Shared.Machine
import RisingIntelligence.Shared.Recency

/-!
# The cache of matchers

`LruTopicRelevanceMatcherCache` of `apps/brief/src/query-mode-selection.ts`.  A topic without terms
has the matcher `null`, which the cache stores like any other.
-/

namespace RisingIntelligence.Brief

open Js.Map

variable {ε μ : Type}

def DEFAULT_TOPIC_RELEVANCE_MATCHER_CACHE_MAX_ENTRIES : Nat := 512

structure LruTopicRelevanceMatcherCache (μ : Type) where
  maxEntries : Nat
  cache : List (String × Option μ)

/-- `Number.isInteger(maxEntries)` -/
def integerOf : Js.Double → Option Int
  | .number value => value.integer?
  | .nan => none

def createTopicRelevanceMatcherCache (maxEntries : Option Js.Double) :
    Except String (LruTopicRelevanceMatcherCache μ) :=
  let given := maxEntries.getD (.ofInt DEFAULT_TOPIC_RELEVANCE_MATCHER_CACHE_MAX_ENTRIES)
  match (integerOf given).filter fun entries => decide (0 < entries) with
  | some entries => .ok ⟨entries.toNat, []⟩
  | none => .error "Topic relevance matcher cache maxEntries must be a positive integer"

namespace LruTopicRelevanceMatcherCache

/-- A builder that throws leaves the cache as it is. -/
def resolve (build : String → Except ε (Option μ)) (lru : LruTopicRelevanceMatcherCache μ)
    (topicKey : String) : Except ε (Option μ) × LruTopicRelevanceMatcherCache μ :=
  match get topicKey lru.cache with
  | some cached => (.ok cached, { lru with cache := set topicKey cached (delete topicKey lru.cache) })
  | none =>
      match build topicKey with
      | .error thrown => (.error thrown, lru)
      | .ok matcher =>
          (.ok matcher, { lru with
            cache := evictOldest lru.maxEntries (set topicKey matcher lru.cache) })

/-! ## What it holds -/

/-- The keys that a sequence of calls resolves. -/
def resolvedKeys (build : String → Except ε (Option μ)) (topicKeys : List String) : List String :=
  topicKeys.filter fun topicKey => (build topicKey).isOk

/-- The keys resolved last, each with what is built for it. -/
structure Holds (build : String → Except ε (Option μ)) (resolved : List String)
    (lru : LruTopicRelevanceMatcherCache μ) : Prop where
  keys : lru.cache.map (·.1) = recent lru.maxEntries resolved
  built : ∀ entry ∈ lru.cache, build entry.1 = .ok entry.2

variable {build : String → Except ε (Option μ)} {lru : LruTopicRelevanceMatcherCache μ}
  {resolved topicKeys : List String} {topicKey : String} {matcher : Option μ}

theorem Holds.nodup (holds : Holds build resolved lru) : (lru.cache.map (·.1)).Nodup :=
  holds.keys ▸ nodup_recent

theorem Holds.length_le (holds : Holds build resolved lru) :
    lru.cache.length ≤ lru.maxEntries := by
  have same := congrArg List.length holds.keys
  rw [List.length_map, length_recent] at same
  omega

theorem Holds.remember (holds : Holds build resolved lru) (builds : build topicKey = .ok matcher) :
    Holds build (resolved ++ [topicKey])
      { lru with cache := remember lru.maxEntries topicKey matcher lru.cache } where
  keys := keys_remember holds.keys
  built := by
    intro entry mem
    rcases mem_of_mem_remember holds.nodup mem with rfl | before
    · exact builds
    · exact holds.built entry before

theorem resolvedKeys_of_ok (builds : build topicKey = .ok matcher) :
    resolvedKeys build [topicKey] = [topicKey] := by
  unfold resolvedKeys
  rw [List.filter_singleton, builds]
  rfl

theorem resolvedKeys_of_error {thrown : ε} (builds : build topicKey = .error thrown) :
    resolvedKeys build [topicKey] = [] := by
  unfold resolvedKeys
  rw [List.filter_singleton, builds]
  rfl

/-- One call. -/
theorem resolve_spec (holds : Holds build resolved lru) (topicKey : String) :
    (resolve build lru topicKey).1 = build topicKey ∧
      (resolve build lru topicKey).2.maxEntries = lru.maxEntries ∧
      Holds build (resolved ++ resolvedKeys build [topicKey]) (resolve build lru topicKey).2 := by
  unfold resolve
  cases found : get topicKey lru.cache with
  | some cached =>
      have builds : build topicKey = .ok cached := holds.built _ (mem_of_get found)
      have known : topicKey ∈ lru.cache.map (·.1) := List.mem_map_of_mem (mem_of_get found)
      dsimp only
      rw [resolvedKeys_of_ok builds, ← remember_of_mem holds.length_le known]
      exact ⟨builds.symm, rfl, holds.remember builds⟩
  | none =>
      cases builds : build topicKey with
      | error thrown =>
          rw [resolvedKeys_of_error builds, List.append_nil]
          exact ⟨rfl, rfl, holds⟩
      | ok matcher =>
          dsimp only
          rw [resolvedKeys_of_ok builds, ← remember_of_notMem (get_eq_none_iff.1 found)]
          exact ⟨rfl, rfl, holds.remember builds⟩

/-- Every sequence of calls. -/
theorem runs_spec (holds : Holds build resolved lru) (topicKeys : List String) :
    answers (resolve build) lru topicKeys = topicKeys.map build ∧
      (stateAfter (resolve build) lru topicKeys).maxEntries = lru.maxEntries ∧
      Holds build (resolved ++ resolvedKeys build topicKeys)
        (stateAfter (resolve build) lru topicKeys) := by
  induction topicKeys generalizing lru resolved with
  | nil =>
      refine ⟨rfl, rfl, ?_⟩
      rw [resolvedKeys, List.filter_nil, List.append_nil]
      exact holds
  | cons topicKey topicKeys ih =>
      obtain ⟨answer, limit, kept⟩ := resolve_spec holds topicKey
      obtain ⟨answers', limit', kept'⟩ := ih kept
      refine ⟨?_, limit'.trans limit, ?_⟩
      · rw [answers, answer, answers', List.map_cons]
      · have split : resolvedKeys build (topicKey :: topicKeys) =
            resolvedKeys build [topicKey] ++ resolvedKeys build topicKeys := by
          rw [resolvedKeys, resolvedKeys, resolvedKeys, ← List.filter_append]
          rfl
        rw [split, ← List.append_assoc]
        exact kept'

/-- A cache that is created is empty. -/
theorem created {maxEntries : Nat} (positive : 1 ≤ maxEntries) :
    createTopicRelevanceMatcherCache (μ := μ) (some (.ofInt maxEntries)) = .ok ⟨maxEntries, []⟩ := by
  have whole : integerOf (.ofInt maxEntries) = some (maxEntries : Int) := rfl
  rw [createTopicRelevanceMatcherCache, Option.getD_some, whole, Option.filter_some,
    if_pos (decide_eq_true (by omega))]
  rfl

theorem holds_empty (build : String → Except ε (Option μ)) (maxEntries : Nat) :
    Holds build [] ⟨maxEntries, []⟩ where
  keys := by simp [recent]
  built := by
    intro entry mem
    cases mem

/-- The cache answers what the builder does, and holds the keys resolved last. -/
theorem resolve_transparent {maxEntries : Nat} (positive : 1 ≤ maxEntries) :
    ∃ cache : LruTopicRelevanceMatcherCache μ,
      createTopicRelevanceMatcherCache (some (.ofInt maxEntries)) = .ok cache ∧
        ∀ (build : String → Except ε (Option μ)) (topicKeys : List String),
          answers (resolve build) cache topicKeys = topicKeys.map build ∧
          (stateAfter (resolve build) cache topicKeys).cache.length ≤ maxEntries ∧
          (stateAfter (resolve build) cache topicKeys).cache.map (·.1) =
            recent maxEntries (resolvedKeys build topicKeys) ∧
          ∀ entry ∈ (stateAfter (resolve build) cache topicKeys).cache,
            build entry.1 = .ok entry.2 := by
  refine ⟨_, created positive, fun build topicKeys => ?_⟩
  obtain ⟨same, limit, holds⟩ := runs_spec (holds_empty build maxEntries) topicKeys
  have bound := holds.length_le
  have keys := holds.keys
  rw [limit] at bound keys
  exact ⟨same, bound, keys, holds.built⟩

/-- A builder that finds no terms in `"ai"`. -/
def termless (topicKey : String) : Except InheritedAliases (Option (List String)) :=
  .ok (if topicKey = "ai" then none else some [topicKey])

theorem resolve_transparent_ai :
    ∃ cache : LruTopicRelevanceMatcherCache (List String),
      createTopicRelevanceMatcherCache (some (.ofInt 2)) = .ok cache ∧
        answers (resolve termless) cache ["go", "rust", "ai", "rust", "ai"] =
          [.ok (some ["go"]), .ok (some ["rust"]), .ok none, .ok (some ["rust"]), .ok none] ∧
        (stateAfter (resolve termless) cache ["go", "rust", "ai", "rust", "ai"]).cache.map (·.1) =
          ["rust", "ai"] := by
  obtain ⟨cache, made, law⟩ := resolve_transparent (ε := InheritedAliases) (μ := List String)
    (show 1 ≤ 2 by decide)
  obtain ⟨same, -, keys, -⟩ := law termless ["go", "rust", "ai", "rust", "ai"]
  exact ⟨cache, made, same, keys⟩

/-- The service asks the cache for what the builder would build. -/
theorem answers_getTopicRelevanceMatcher (runtime : RelevanceRuntime) (topicKeys : List String) :
    answers (resolve (getTopicRelevanceMatcher runtime))
        ⟨DEFAULT_TOPIC_RELEVANCE_MATCHER_CACHE_MAX_ENTRIES, []⟩ topicKeys =
      topicKeys.map (getTopicRelevanceMatcher runtime) :=
  (runs_spec (holds_empty _ _) topicKeys).1

end LruTopicRelevanceMatcherCache

end RisingIntelligence.Brief
