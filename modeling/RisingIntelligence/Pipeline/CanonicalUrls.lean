import RisingIntelligence.Pipeline.BriefEvidence

/-!
# Canonical URLs

When the canonical form of a URL is its own canonical form, for every implementation of `URL` that
keeps the laws of URLs.  Nothing but the slash at the end of the path changes a second time.
-/

namespace RisingIntelligence

open Js (UrlApi)

/-- The path of the URL that a value parses to ends in one slash at most, or is two slashes. -/
def EndsInOneSlash (api : UrlApi) (value : String) : Prop :=
  ∀ url, api.parse (Js.trim value) = some url →
    ¬ (Js.endsWith (api.pathname url) "//" = true ∧ 2 < Js.length (api.pathname url))

/-- A set of canonical URLs that stays as it is, and has one URL for each canonical form. -/
structure StablySet (api : UrlApi) (urls : List String) : Prop where
  again : dedupeCanonicalBriefEvidenceUrls api (urls.map some) = urls
  apart : ∀ url ∈ urls, ∀ other ∈ urls,
    canonicalizeBriefEvidenceUrl api url = canonicalizeBriefEvidenceUrl api other → url = other

/-- The URL without the slash at the end of its path. -/
def cutSlash (api : UrlApi) (url : api.Url) : api.Url :=
  if decide (1 < Js.length (api.pathname url)) && Js.endsWith (api.pathname url) "/" then
    api.setPathname (Js.dropLast (api.pathname url)) url
  else url

/-! ## Texts -/

theorem endsWith_iff {value stop : String} :
    Js.endsWith value stop = true ↔ ∃ start, value = start ++ stop := by
  unfold Js.endsWith
  rw [List.isSuffixOf_iff_suffix]
  constructor
  · intro there
    obtain ⟨start, same⟩ := there
    refine ⟨String.ofList start, ?_⟩
    rw [← String.toList_inj, String.toList_append, String.toList_ofList, same]
  · intro there
    obtain ⟨start, rfl⟩ := there
    rw [String.toList_append]
    exact List.suffix_append _ _

theorem dropLast_append_slash (path : String) : Js.dropLast (path ++ "/") = path := by
  unfold Js.dropLast
  rw [String.toList_append]
  change String.ofList (path.toList ++ ['/']).dropLast = path
  rw [List.dropLast_concat, String.ofList_toList]

theorem length_append_slash (path : String) : Js.length (path ++ "/") = Js.length path + 1 := by
  have split : ∀ cs : List Char,
      Js.length (String.ofList (cs ++ ['/'])) = Js.length (String.ofList cs) + 1 := by
    intro cs
    induction cs with
    | nil => rfl
    | cons c rest ih =>
        rw [List.cons_append, Js.length_cons, Js.length_cons, ih]
        omega
  have whole := split path.toList
  rwa [String.ofList_append, String.ofList_toList] at whole

theorem length_pos_iff {text : String} : 0 < Js.length text ↔ text ≠ "" := by
  cases shape : text.toList with
  | nil =>
      obtain rfl : text = "" := String.toList_eq_nil_iff.1 shape
      simp [Js.length]
  | cons c rest =>
      have same : text = String.ofList (c :: rest) := by rw [← shape, String.ofList_toList]
      have unit : 0 < Js.units c := by
        unfold Js.units
        split <;> decide
      rw [same, Js.length_cons]
      constructor
      · intro _ empty
        have nothing := congrArg String.toList empty
        rw [String.toList_ofList] at nothing
        cases nothing
      · intro _
        omega

/-- A text in brackets. -/
theorem eq_brackets {text : String} (opens : Js.startsWith text "[" = true)
    (closes : Js.endsWith text "]" = true) : text = "[" ++ Js.dropEnds text ++ "]" := by
  obtain ⟨start, rfl⟩ := endsWith_iff.1 closes
  unfold Js.startsWith at opens
  rw [List.isPrefixOf_iff_prefix, String.toList_append] at opens
  rw [← String.toList_inj]
  unfold Js.dropEnds
  simp only [String.toList_append, String.toList_ofList]
  cases shape : start.toList with
  | nil =>
      rw [shape] at opens
      exact absurd (List.cons_prefix_cons.1 opens).1 (by decide)
  | cons c rest =>
      rw [shape] at opens
      obtain rfl : '[' = c := (List.cons_prefix_cons.1 opens).1
      change '[' :: rest ++ [']'] = ['['] ++ (rest ++ [']']).dropLast ++ [']']
      rw [List.dropLast_concat]
      rfl

/-! ## One URL -/

section OneUrl

variable {api : UrlApi} {url : api.Url} {value form : String}

theorem setHostname_normalized (laws : api.Lawful) (web : api.isWeb url) :
    api.setHostname (normalizeHostname api (api.hostname url)) url = url := by
  unfold normalizeHostname
  dsimp only
  rw [laws.lower_hostname url web]
  split
  · rename_i bracketed
    rw [Bool.and_eq_true] at bracketed
    exact laws.setHostname_bare url _ web (eq_brackets bracketed.1 bracketed.2)
  · exact laws.setHostname_hostname url web

theorem normalizeHttpUrl_eq (laws : api.Lawful) (web : api.isWeb url) :
    normalizeHttpUrl api url = api.href (cutSlash api (api.setHash "" url)) := by
  have web' : api.isWeb (api.setHash "" url) := by
    unfold UrlApi.isWeb
    rwa [laws.protocol_setHash]
  obtain ⟨http, https⟩ := laws.port_ne_default (api.setHash "" url)
  have other : ((api.protocol (api.setHash "" url) == "http:" &&
      api.port (api.setHash "" url) == "80") ||
      (api.protocol (api.setHash "" url) == "https:" &&
        api.port (api.setHash "" url) == "443")) = false := by
    simp only [Bool.or_eq_false_iff, Bool.and_eq_false_iff, beq_eq_false_iff_ne]
    tauto
  unfold normalizeHttpUrl
  dsimp only
  rw [setHostname_normalized laws web', other]
  rfl

theorem canonicalize_href (laws : api.Lawful) (web : api.isWeb url) :
    canonicalizeBriefEvidenceUrl api (api.href url) =
      if isDisallowedHostname api (api.hostname url) then none
      else some (normalizeHttpUrl api url) := by
  have whole : normalizeOptionalString (some (api.href url)) = some (api.href url) := by
    unfold normalizeOptionalString
    rw [Option.map_some, laws.trim_href url web]
    exact Option.filter_some_pos (by simpa using laws.href_ne_empty url)
  have parsed : parseHttpUrl api (api.href url) = some url := by
    unfold parseHttpUrl
    rw [laws.parse_href url web]
    apply Option.filter_some_pos
    simpa [UrlApi.isWeb] using web
  unfold canonicalizeBriefEvidenceUrl
  rw [whole]
  dsimp only
  rw [parsed]

theorem canonicalize_eq_some (found : canonicalizeBriefEvidenceUrl api value = some form) :
    ∃ url, api.parse (Js.trim value) = some url ∧ api.isWeb url ∧
      isDisallowedHostname api (api.hostname url) = false ∧ form = normalizeHttpUrl api url := by
  unfold canonicalizeBriefEvidenceUrl at found
  cases whole : normalizeOptionalString (some value) with
  | none =>
      rw [whole] at found
      cases found
  | some text =>
      rw [whole] at found
      dsimp only at found
      unfold normalizeOptionalString at whole
      rw [Option.map_some] at whole
      obtain rfl : Js.trim value = text := Option.some.inj (Option.eq_some_of_filter_eq_some whole)
      cases parsed : parseHttpUrl api (Js.trim value) with
      | none =>
          rw [parsed] at found
          cases found
      | some url =>
          rw [parsed] at found
          dsimp only at found
          unfold parseHttpUrl at parsed
          obtain ⟨url, there, rfl, web⟩ : ∃ other, api.parse (Js.trim value) = some other ∧
              other = url ∧ api.isWeb other := by
            rw [Option.filter_eq_some_iff] at parsed
            exact ⟨url, parsed.1, rfl, by simpa [UrlApi.isWeb] using parsed.2⟩
          cases private_ : isDisallowedHostname api (api.hostname url) with
          | true =>
              rw [private_] at found
              cases found
          | false =>
              rw [private_] at found
              cases found
              exact ⟨url, there, web, private_, rfl⟩

theorem href_injective (laws : api.Lawful) {other : api.Url} (web : api.isWeb url)
    (web' : api.isWeb other) (same : api.href url = api.href other) : url = other := by
  have parsed := laws.parse_href url web
  rw [same, laws.parse_href other web'] at parsed
  exact (Option.some.inj parsed).symm

/-- A slash is cut off a path of more than one. -/
theorem cutSlash_eq_self_iff (laws : api.Lawful) (web : api.isWeb url) :
    cutSlash api url = url ↔
      ¬ (Js.endsWith (api.pathname url) "/" = true ∧ 1 < Js.length (api.pathname url)) := by
  unfold cutSlash
  constructor
  · intro same cut
    obtain ⟨path, whole⟩ := endsWith_iff.1 cut.1
    have nonempty : path ≠ "" := by
      intro empty
      rw [whole, empty, length_append_slash] at cut
      exact absurd cut.2 (by decide)
    rw [if_pos (by simp [cut.1, cut.2]), whole, dropLast_append_slash] at same
    have shorter := laws.pathname_setPathname url path web whole nonempty
    rw [same, whole] at shorter
    have length := congrArg Js.length shorter
    rw [length_append_slash] at length
    omega
  · intro short
    rw [if_neg]
    intro cut
    rw [Bool.and_eq_true, decide_eq_true_eq] at cut
    exact short ⟨cut.2, cut.1⟩

theorem pathname_cutSlash (laws : api.Lawful) (web : api.isWeb url) :
    (Js.endsWith (api.pathname (cutSlash api url)) "/" = true ∧
      1 < Js.length (api.pathname (cutSlash api url))) ↔
    (Js.endsWith (api.pathname url) "//" = true ∧ 2 < Js.length (api.pathname url)) := by
  by_cases cut : Js.endsWith (api.pathname url) "/" = true ∧ 1 < Js.length (api.pathname url)
  · obtain ⟨path, whole⟩ := endsWith_iff.1 cut.1
    have nonempty : path ≠ "" := by
      intro empty
      rw [whole, empty, length_append_slash] at cut
      exact absurd cut.2 (by decide)
    have shorter : api.pathname (cutSlash api url) = path := by
      unfold cutSlash
      rw [if_pos (by simp [cut.1, cut.2]), whole, dropLast_append_slash]
      exact laws.pathname_setPathname url path web whole nonempty
    rw [shorter, whole, length_append_slash]
    have slashes : Js.endsWith (path ++ "/") "//" = true ↔ Js.endsWith path "/" = true := by
      rw [endsWith_iff, endsWith_iff]
      constructor
      · intro there
        obtain ⟨start, same⟩ := there
        refine ⟨start, ?_⟩
        have split : path ++ "/" = (start ++ "/") ++ "/" := by
          rw [same, String.append_assoc]
          rfl
        have last := congrArg Js.dropLast split
        rwa [dropLast_append_slash, dropLast_append_slash] at last
      · intro there
        obtain ⟨start, rfl⟩ := there
        exact ⟨start, by rw [String.append_assoc]; rfl⟩
    rw [slashes]
    apply and_congr_right
    intro _
    omega
  · rw [(cutSlash_eq_self_iff laws web).2 cut]
    constructor
    · intro cut'
      exact absurd cut' cut
    · intro longer
      obtain ⟨start, whole⟩ := endsWith_iff.1 longer.1
      have ends : Js.endsWith (api.pathname url) "/" = true := by
        rw [endsWith_iff]
        exact ⟨start ++ "/", by rw [whole, String.append_assoc]; rfl⟩
      exact absurd ⟨ends, by omega⟩ cut

theorem isWeb_cutSlash (laws : api.Lawful) : api.isWeb (cutSlash api url) ↔ api.isWeb url := by
  unfold UrlApi.isWeb cutSlash
  split
  · rw [laws.protocol_setPathname]
  · exact Iff.rfl

theorem setHash_cutSlash (laws : api.Lawful) :
    api.setHash "" (cutSlash api (api.setHash "" url)) = cutSlash api (api.setHash "" url) := by
  unfold cutSlash
  split
  · rw [laws.setHash_setPathname, laws.setHash_setHash]
  · exact laws.setHash_setHash url

theorem hostname_cutSlash (laws : api.Lawful) :
    api.hostname (cutSlash api url) = api.hostname url := by
  unfold cutSlash
  split
  · exact laws.hostname_setPathname _ _
  · rfl

/-- The form of a form has its slash cut off once more. -/
theorem canonicalize_form (laws : api.Lawful)
    (found : canonicalizeBriefEvidenceUrl api value = some form) :
    ∃ url, api.parse (Js.trim value) = some url ∧ api.isWeb url ∧
      form = api.href (cutSlash api (api.setHash "" url)) ∧
      canonicalizeBriefEvidenceUrl api form =
        some (api.href (cutSlash api (cutSlash api (api.setHash "" url)))) := by
  obtain ⟨url, parsed, web, public_, rfl⟩ := canonicalize_eq_some found
  have web' : api.isWeb (cutSlash api (api.setHash "" url)) := by
    rw [isWeb_cutSlash laws]
    unfold UrlApi.isWeb
    rwa [laws.protocol_setHash]
  refine ⟨url, parsed, web, normalizeHttpUrl_eq laws web, ?_⟩
  rw [normalizeHttpUrl_eq laws web, canonicalize_href laws web', hostname_cutSlash laws,
    laws.hostname_setHash, public_, normalizeHttpUrl_eq laws web', setHash_cutSlash laws]
  rfl

theorem canonicalize_idempotent_iff (laws : api.Lawful)
    (found : canonicalizeBriefEvidenceUrl api value = some form) :
    canonicalizeBriefEvidenceUrl api form = some form ↔ EndsInOneSlash api value := by
  obtain ⟨url, parsed, web, rfl, again⟩ := canonicalize_form laws found
  have web' : api.isWeb (api.setHash "" url) := by
    unfold UrlApi.isWeb
    rwa [laws.protocol_setHash]
  rw [again, Option.some.injEq]
  have step : api.href (cutSlash api (cutSlash api (api.setHash "" url))) =
      api.href (cutSlash api (api.setHash "" url)) ↔
        ¬ (Js.endsWith (api.pathname url) "//" = true ∧ 2 < Js.length (api.pathname url)) := by
    have cut := (isWeb_cutSlash laws).2 web'
    rw [← laws.pathname_setHash url web, ← pathname_cutSlash laws web',
      ← cutSlash_eq_self_iff laws cut]
    exact ⟨href_injective laws ((isWeb_cutSlash laws).2 cut) cut,
      fun same => congrArg api.href same⟩
  rw [step]
  unfold EndsInOneSlash
  constructor
  · intro short other there
    obtain rfl : url = other := Option.some.inj (parsed.symm.trans there)
    exact short
  · intro all
    exact all url parsed

end OneUrl

/-! ## Sets of URLs -/

section Sets

variable {api : UrlApi} {values : List (Option String)}

theorem canonicalUrl_eq_some_iff {value url : String} (laws : api.Lawful) :
    canonicalUrl api value = some url ↔ canonicalizeBriefEvidenceUrl api value = some url := by
  unfold canonicalUrl
  constructor
  · intro found
    split at found
    · cases found
    · exact (Option.filter_eq_some_iff.1 found).1
  · intro found
    obtain ⟨parsed, -, web, -, same⟩ := canonicalize_eq_some found
    have nonempty : url ≠ "" := by
      rw [same, normalizeHttpUrl_eq laws web]
      exact laws.href_ne_empty _
    have present : value ≠ "" := by
      intro empty
      rw [empty] at found
      cases found
    rw [if_neg present, found]
    exact Option.filter_some_pos (by simpa using nonempty)

theorem mem_dedupe_iff {url : String} (laws : api.Lawful) :
    url ∈ dedupeCanonicalBriefEvidenceUrls api values ↔
      ∃ value, some value ∈ values ∧ canonicalizeBriefEvidenceUrl api value = some url := by
  rw [mem_dedupeCanonical]
  constructor
  · intro there
    obtain ⟨value, mem, found⟩ := there
    exact ⟨value, mem, (canonicalUrl_eq_some_iff laws).1 found⟩
  · intro there
    obtain ⟨value, mem, found⟩ := there
    exact ⟨value, mem, (canonicalUrl_eq_some_iff laws).2 found⟩

theorem stablySet_of_fixed (laws : api.Lawful) {urls : List String} (nodup : urls.Nodup)
    (fixed : ∀ url ∈ urls, canonicalizeBriefEvidenceUrl api url = some url) :
    StablySet api urls := by
  constructor
  case again =>
    have kept : (urls.map some).filterMap (fun value => value.bind (canonicalUrl api)) = urls := by
      rw [List.filterMap_map]
      have same : urls.filterMap ((fun value => value.bind (canonicalUrl api)) ∘ some) =
          urls.filterMap some :=
        List.filterMap_congr fun url mem => (canonicalUrl_eq_some_iff laws).2 (fixed url mem)
      rw [same, List.filterMap_some]
    unfold dedupeCanonicalBriefEvidenceUrls
    rw [kept, Js.distinct_of_nodup nodup]
  case apart =>
    intro url mem other mem' same
    rw [fixed url mem, fixed other mem'] at same
    exact Option.some.inj same

/-- A set that stays as it is has the canonical form of every URL in its place. -/
theorem fixed_of_again (laws : api.Lawful) {urls : List String}
    (forms : ∀ url ∈ urls, ∃ form, canonicalizeBriefEvidenceUrl api url = some form)
    (again : dedupeCanonicalBriefEvidenceUrls api (urls.map some) = urls) :
    ∀ url ∈ urls, canonicalizeBriefEvidenceUrl api url = some url := by
  have all : (urls.map some).filterMap (fun value => value.bind (canonicalUrl api)) =
      urls.map fun url => (canonicalUrl api url).getD "" := by
    rw [List.filterMap_map, ← List.filterMap_eq_map']
    apply List.filterMap_congr
    intro url mem
    obtain ⟨form, found⟩ := forms url mem
    have present := (canonicalUrl_eq_some_iff laws).2 found
    change canonicalUrl api url = some ((canonicalUrl api url).getD "")
    rw [present, Option.getD_some]
  unfold dedupeCanonicalBriefEvidenceUrls at again
  rw [all] at again
  -- nothing was left out, so nothing moved
  have whole := (Js.distinct_sublist (urls.map fun url => (canonicalUrl api url).getD "")).eq_of_length
    (by rw [again, List.length_map])
  rw [whole] at again
  have pointwise : urls.map (fun url => (canonicalUrl api url).getD "") = urls.map id := by
    rw [again, List.map_id]
  intro url mem
  obtain ⟨form, found⟩ := forms url mem
  have same := List.map_inj_left.1 pointwise url mem
  rw [(canonicalUrl_eq_some_iff laws).2 found, Option.getD_some] at same
  rw [found, same]
  rfl

theorem stablySet_dedupe_iff (laws : api.Lawful) :
    StablySet api (dedupeCanonicalBriefEvidenceUrls api values) ↔
      ∀ value, some value ∈ values → canonicalizeBriefEvidenceUrl api value ≠ none →
        EndsInOneSlash api value := by
  constructor
  · intro stable value mem accepted
    obtain ⟨form, found⟩ := Option.ne_none_iff_exists'.1 accepted
    have forms : ∀ url ∈ dedupeCanonicalBriefEvidenceUrls api values,
        ∃ form, canonicalizeBriefEvidenceUrl api url = some form := by
      intro url mem
      obtain ⟨value, -, found⟩ := (mem_dedupe_iff laws).1 mem
      obtain ⟨_, _, _, _, again⟩ := canonicalize_form laws found
      exact ⟨_, again⟩
    have fixed := fixed_of_again laws forms stable.again form
      ((mem_dedupe_iff laws).2 ⟨value, mem, found⟩)
    exact (canonicalize_idempotent_iff laws found).1 fixed
  · intro all
    apply stablySet_of_fixed laws nodup_dedupeCanonical
    intro url mem
    obtain ⟨value, mem, found⟩ := (mem_dedupe_iff laws).1 mem
    have accepted : canonicalizeBriefEvidenceUrl api value ≠ none := by
      rw [found]
      exact Option.some_ne_none url
    exact (canonicalize_idempotent_iff laws found).2 (all value mem accepted)

end Sets

/-- Canonicalising and deduping are idempotent exactly on values whose path ends in one slash. -/
theorem canonical_stable_iff (api : UrlApi) (laws : api.Lawful) :
    (∀ value form, canonicalizeBriefEvidenceUrl api value = some form →
      (canonicalizeBriefEvidenceUrl api form = some form ↔ EndsInOneSlash api value)) ∧
    ∀ values, StablySet api (dedupeCanonicalBriefEvidenceUrls api values) ↔
      ∀ value, some value ∈ values → canonicalizeBriefEvidenceUrl api value ≠ none →
        EndsInOneSlash api value :=
  ⟨fun _ _ found => canonicalize_idempotent_iff laws found, fun _ => stablySet_dedupe_iff laws⟩

theorem canonical_stable_iff_plain :
    canonicalizeBriefEvidenceUrl Js.validUrls "https://a.example/x" = some "https://a.example/x" ↔
      EndsInOneSlash Js.validUrls "https://a.example/x/" :=
  (canonical_stable_iff Js.validUrls Js.validUrls_lawful).1 "https://a.example/x/"
    "https://a.example/x" (by decide +kernel)

/-- Two slashes lose one at a time, so two URLs are returned that have one form. -/
theorem slashes_unstable :
    canonicalizeBriefEvidenceUrl Js.validUrls "https://a.example/x//" =
      some "https://a.example/x/" ∧
    canonicalizeBriefEvidenceUrl Js.validUrls "https://a.example/x/" = some "https://a.example/x" ∧
    dedupeCanonicalBriefEvidenceUrls Js.validUrls
        [some "https://a.example/x//", some "https://a.example/x/"] =
      ["https://a.example/x/", "https://a.example/x"] ∧
    canonicalizeBriefEvidenceUrl Js.validUrls "https://a.example/x/" =
      canonicalizeBriefEvidenceUrl Js.validUrls "https://a.example/x" := by
  refine ⟨?_, ?_, ?_, ?_⟩ <;> decide +kernel

end RisingIntelligence
