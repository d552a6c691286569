import RisingIntelligence.Pipeline.EnrichmentText

/-!
# Enriching twice

When `prepareRawEventForPersistence` changes nothing in what it prepared itself.

* What it prepares has four parts, each found from the event alone: the URL, the text, the language
  and the tags.  `prepare_prepare_iff`: nothing changes exactly if each part is found again.
* `Settled` says of an event that none of its parts is inferred or repaired in a way that the second
  run cannot see, and `prepare_idempotent_iff` that this is the condition.
-/

namespace RisingIntelligence.Enrichment

open Js (Json)

/-! ## The parts -/

section Parts

variable (api : EnrichmentApi) {TSource : Type} (event : RawEventPersistenceInput TSource)

def urlPart : UrlNormalizationResult := normalizeUrl api event.url

def textPart : TextNormalizationResult := normalizeText event.text event.title

def langPart : Option String × Option String :=
  resolveLang api event.lang event.sourceMeta event.title (textPart event).text

def tagsPart : List String × Bool :=
  resolveTags event.tags (haystack event.sourceMeta event.title (textPart event).text
    (urlPart api event).normalizedUrl)

def quality : RiQualityMetadata where
  schemaVersion := 1
  staleEvent := (event.publishedAt.map (event.fetchedAt - ·)).any (· > STALE_EVENT_THRESHOLD_MS)
  staleAgeHours := ((event.publishedAt.map (event.fetchedAt - ·)).filter (· > 0)).map api.hoursOf
  publishedInFuture := event.publishedAt.any (· > event.fetchedAt)
  invalidUrl := (urlPart api event).invalid
  normalizedUrl := (urlPart api event).normalized
  originalUrl := (urlPart api event).originalUrl
  urlIssueCodes := if (urlPart api event).issueCodes ≠ [] then
    some (urlPart api event).issueCodes else none
  lowInformationText := (textPart event).lowInformation
  textIssueCodes := if (textPart event).issueCodes ≠ [] then
    some (textPart event).issueCodes else none
  inferredTopics := (tagsPart api event).2
  inferredTopicCount := if (tagsPart api event).2 then (tagsPart api event).1.length else 0
  inferredLang := (langPart api event).2.isSome
  langInferenceMethod := (langPart api event).2

theorem quality_originalUrl :
    (quality api event).originalUrl = (urlPart api event).originalUrl :=
  rfl

theorem prepare_eq :
    prepareRawEventForPersistence api event =
      { event with
        url := (urlPart api event).normalizedUrl
        text := (textPart event).text
        lang := (langPart api event).1
        tags := (tagsPart api event).1
        topics := (tagsPart api event).1
        sourceMeta := some (buildMergedSourceMeta event.sourceMeta (quality api event)) } :=
  rfl

end Parts

/-! ## The record -/

section Record

theorem RiQualityMetadata.nodup_fields (quality : RiQualityMetadata) :
    (quality.fields.map (·.1)).Nodup := by
  unfold RiQualityMetadata.fields
  simp only [List.map_cons, List.map_nil]
  decide

theorem stringArray_inj {first second : List String}
    (same : stringArray first = stringArray second) : first = second :=
  List.map_injective_iff.2 (fun _ _ same => Json.string.inj same) (Json.array.inj same)

/-- Two records with the same object are the same. -/
theorem RiQualityMetadata.eq_of_fields {first second : RiQualityMetadata}
    (same : withoutUndefined first.fields = withoutUndefined second.fields) : first = second := by
  have agree : ∀ key, (first.fields.lookup key).bind id = (second.fields.lookup key).bind id := by
    intro key
    unfold withoutUndefined at same
    rw [← Js.lookup_definedFields first.nodup_fields, ← Js.lookup_definedFields second.nodup_fields,
      same]
  have texts := Option.map_injective fun a b (same : Json.string a = Json.string b) =>
    Json.string.inj same
  have lists := Option.map_injective fun a b (same : stringArray a = stringArray b) =>
    stringArray_inj same
  have numbers := Option.map_injective fun (a b : ℚ)
    (same : Json.number (.finite a) = Json.number (.finite b)) =>
      Js.Number.finite.inj (Json.number.inj same)
  have flags : ∀ a b, some (Json.bool a) = some (Json.bool b) → a = b :=
    fun a b same => Json.bool.inj (Option.some.inj same)
  have counts : ∀ a b : Nat, some (Json.number (.finite a)) = some (Json.number (.finite b)) →
      a = b :=
    fun a b same => by simpa using same
  ext1
  · exact counts _ _ (agree "schema_version")
  · exact flags _ _ (agree "stale_event")
  · exact numbers (agree "stale_age_hours")
  · exact flags _ _ (agree "published_in_future")
  · exact flags _ _ (agree "invalid_url")
  · exact flags _ _ (agree "normalized_url")
  · exact texts (agree "original_url")
  · exact lists (agree "url_issue_codes")
  · exact flags _ _ (agree "low_information_text")
  · exact lists (agree "text_issue_codes")
  · exact flags _ _ (agree "inferred_topics")
  · exact counts _ _ (agree "inferred_topic_count")
  · exact flags _ _ (agree "inferred_lang")
  · exact texts (agree "lang_inference_method")

end Record

section SourceMeta

variable {sourceMeta : Option SourceMeta} {quality first second : RiQualityMetadata} {key : String}

theorem lookup_filter_ne {entries : SourceMeta} {name : String} (other : key ≠ name) :
    (entries.filter fun entry => entry.1 ≠ name).lookup key = entries.lookup key := by
  induction entries with
  | nil => rfl
  | cons entry rest ih =>
      obtain ⟨found, value⟩ := entry
      by_cases dropped : found = name
      · have missed : (key == found) = false := by simpa [dropped] using other
        rw [List.filter_cons_of_neg (by simpa using dropped), ih, List.lookup_cons, missed]
      · rw [List.filter_cons_of_pos (by simpa using dropped), List.lookup_cons, List.lookup_cons, ih]

/-- Everything but the record is kept. -/
theorem lookup_merged (other : key ≠ "ri_quality") :
    (buildMergedSourceMeta sourceMeta quality).lookup key = (sourceMeta.getD []).lookup key := by
  have missed : (key == "ri_quality") = false := by simpa using other
  unfold buildMergedSourceMeta
  dsimp only
  rw [List.lookup_append, lookup_filter_ne other, List.lookup_cons, missed]
  simp

/-- The record of before is replaced. -/
theorem merged_merged :
    buildMergedSourceMeta (some (buildMergedSourceMeta sourceMeta first)) second =
      buildMergedSourceMeta sourceMeta second := by
  unfold buildMergedSourceMeta
  simp

theorem merged_inj
    (same : buildMergedSourceMeta sourceMeta first = buildMergedSourceMeta sourceMeta second) :
    first = second := by
  unfold buildMergedSourceMeta at same
  have last := List.append_cancel_left same
  simp only [List.cons.injEq, Prod.mk.injEq, Json.object.injEq, true_and, and_true] at last
  exact RiQualityMetadata.eq_of_fields last

end SourceMeta

/-! ## Both runs -/

section Runs

variable {api : EnrichmentApi} {TSource : Type} {event : RawEventPersistenceInput TSource}

/-- The stored event, as it is given to the second run. -/
def again (api : EnrichmentApi) (event : RawEventPersistenceInput TSource) :
    RawEventPersistenceInput TSource :=
  (prepareRawEventForPersistence api event).toRawEventPersistenceInput

theorem issueCodes_inj {first second : List String}
    (same : (if first ≠ [] then some first else none) =
      if second ≠ [] then some second else none) : first = second := by
  by_cases none : first = []
  · by_cases none' : second = []
    · rw [none, none']
    · simp [none, none'] at same
  · by_cases none' : second = []
    · simp [none, none'] at same
    · simpa [none, none'] using same

/-- What the second run is given. -/
theorem again_eq :
    again api event =
      { event with
        url := (urlPart api event).normalizedUrl
        text := (textPart event).text
        lang := (langPart api event).1
        tags := (tagsPart api event).1
        sourceMeta := some (buildMergedSourceMeta event.sourceMeta (quality api event)) } :=
  rfl

/-- Nothing changes exactly if each part is found again. -/
theorem prepare_prepare_iff :
    prepareRawEventForPersistence api (again api event) =
        prepareRawEventForPersistence api event ↔
      urlPart api (again api event) = urlPart api event ∧
        textPart (again api event) = textPart event ∧
        langPart api (again api event) = langPart api event ∧
        tagsPart api (again api event) = tagsPart api event := by
  obtain ⟨second, given⟩ : ∃ second, second = again api event := ⟨_, rfl⟩
  have stored : second.sourceMeta =
      some (buildMergedSourceMeta event.sourceMeta (quality api event)) := by
    rw [given]
    rfl
  rw [← given, prepare_eq, prepare_eq, stored]
  constructor
  · intro same
    have merged := Option.some.inj (congrArg (fun stored => stored.sourceMeta) same)
    rw [merged_merged] at merged
    have record : quality api second = quality api event := merged_inj merged
    have url := congrArg (fun stored => stored.url) same
    have text : (textPart second).text = (textPart event).text :=
      congrArg (fun stored => stored.text) same
    have lang := congrArg (fun stored => stored.lang) same
    have tags := congrArg (fun stored => stored.tags) same
    have fields := RiQualityMetadata.ext_iff.1 record
    unfold quality at fields
    dsimp only at fields
    obtain ⟨-, -, -, -, invalid, normalized, original, urlIssues, low, textIssues, inferred, -, -,
      method⟩ := fields
    refine ⟨?_, ?_, Prod.ext lang method, Prod.ext tags inferred⟩
    · exact UrlNormalizationResult.ext url normalized invalid original (issueCodes_inj urlIssues)
    · exact TextNormalizationResult.ext text low (issueCodes_inj textIssues)
  · intro parts
    obtain ⟨url, text, lang, tags⟩ := parts
    have times : second.publishedAt = event.publishedAt ∧ second.fetchedAt = event.fetchedAt := by
      rw [given]
      exact ⟨rfl, rfl⟩
    have record : quality api second = quality api event := by
      unfold quality
      rw [url, text, lang, tags, times.1, times.2]
    rw [url, text, lang, tags, record, merged_merged, given, again_eq]

end Runs

/-! ## URLs -/

section Urls

variable {api : EnrichmentApi} {rawUrl : String} {url : Option String}

/-- A URL is given up, or replaced by its normal form and kept beside it where they differ. -/
theorem normalizeGivenUrl_cases :
    ((normalizeGivenUrl api rawUrl).normalizedUrl = none ∧
        (normalizeGivenUrl api rawUrl).invalid = true) ∨
      ∃ form, (normalizeGivenUrl api rawUrl).normalizedUrl = some form ∧
        (normalizeGivenUrl api rawUrl).originalUrl =
          if form ≠ rawUrl then some rawUrl else none := by
  unfold normalizeGivenUrl
  dsimp only
  split
  · exact .inl ⟨rfl, rfl⟩
  · split
    · exact .inl ⟨rfl, rfl⟩
    · split
      · exact .inl ⟨rfl, rfl⟩
      · split
        · exact .inl ⟨rfl, rfl⟩
        · exact .inr ⟨_, rfl, rfl⟩

/-- There is no URL, or it is in normal form. -/
def UrlSettled (api : EnrichmentApi) (url : Option String) : Prop :=
  url.getD "" = "" ∨ (normalizeUrl api url).normalizedUrl = url

theorem normalizeUrl_settled_iff :
    normalizeUrl api (normalizeUrl api url).normalizedUrl = normalizeUrl api url ↔
      UrlSettled api url := by
  unfold UrlSettled
  cases url with
  | none => exact iff_of_true rfl (.inl rfl)
  | some rawUrl =>
      by_cases empty : rawUrl = ""
      · subst empty
        exact iff_of_true rfl (.inl rfl)
      have given : normalizeUrl api (some rawUrl) = normalizeGivenUrl api rawUrl := if_neg empty
      rw [given, Option.getD_some, or_iff_right empty]
      constructor
      · intro same
        rcases @normalizeGivenUrl_cases api rawUrl with ⟨none, invalid⟩ | ⟨form, found, original⟩
        · -- what is given up leaves no URL behind
          rw [none] at same
          have lost := congrArg UrlNormalizationResult.invalid same
          rw [invalid] at lost
          cases lost
        · rw [found] at same ⊢
          by_contra other
          have changed : form ≠ rawUrl := fun same => other (congrArg some same)
          rw [if_pos changed] at original
          have kept := congrArg UrlNormalizationResult.originalUrl same
          rw [original] at kept
          by_cases blank : form = ""
          · subst blank
            cases kept
          · have again : normalizeUrl api (some form) = normalizeGivenUrl api form := if_neg blank
            rw [again] at kept same
            rcases @normalizeGivenUrl_cases api form with ⟨none, -⟩ | ⟨next, -, original'⟩
            · rw [same, found] at none
              cases none
            · rw [original'] at kept
              split at kept
              · exact changed (Option.some.inj kept)
              · cases kept
      · intro form
        rw [form, given]

end Urls

/-! ## Language -/

section Languages

/-- What is documented of `toLowerCase`. -/
structure LowerCase (lower : String → String) : Prop where
  /-- A text stays if each of its characters is of some text in lower case, or a basic one that is no
  capital. -/
  lower_of_lowered : ∀ text : String,
    (∀ c ∈ text.toList, (c.toNat < 128 ∧ c.isUpper = false) ∨ ∃ given, c ∈ (lower given).toList) →
      lower text = text
  /-- No character becomes white space, and none is dropped. -/
  trim_lower : ∀ text, Js.trim (lower (Js.trim text)) = lower (Js.trim text)

/-- Trimming is the same before and after a change that keeps the white space. -/
theorem trimList_map {f : Char → Char} (keeps : ∀ c, Js.isWhitespace (f c) = Js.isWhitespace c)
    (cs : List Char) : Js.trimList (cs.map f) = (Js.trimList cs).map f := by
  have same : Js.isWhitespace ∘ f = Js.isWhitespace := funext keeps
  unfold Js.trimList
  rw [List.dropWhile_map, same, ← List.map_reverse, List.dropWhile_map, same, List.map_reverse]

theorem trim_hyphenate (value : String) : Js.trim (hyphenate value) = hyphenate (Js.trim value) := by
  unfold Js.trim hyphenate
  rw [String.toList_ofList, String.toList_ofList, trimList_map]
  intro c
  split
  · rename_i same
    rw [same]
    decide
  · rfl

theorem hyphenate_hyphenate (value : String) : hyphenate (hyphenate value) = hyphenate value := by
  unfold hyphenate
  rw [String.toList_ofList, List.map_map]
  refine congrArg String.ofList (List.map_congr_left fun c _ => ?_)
  by_cases line : c = '_'
  · simp [line]
  · simp [line]

variable {api : EnrichmentApi} {lang title : Option String} {text : String}
  {sourceMeta : Option SourceMeta}

theorem normalizeLanguageTag_empty (law : LowerCase api.toLowerCase) :
    normalizeLanguageTag api "" = "" := by
  have empty : api.toLowerCase "" = "" := law.lower_of_lowered "" fun c mem =>
    absurd mem List.not_mem_nil
  unfold normalizeLanguageTag
  rw [Js.trim_empty, empty]
  rfl

theorem normalizeLanguageTag_normalizeLanguageTag (law : LowerCase api.toLowerCase)
    (value : String) :
    normalizeLanguageTag api (normalizeLanguageTag api value) = normalizeLanguageTag api value := by
  have trimmed := law.trim_lower value
  have lowered : api.toLowerCase (hyphenate (api.toLowerCase (Js.trim value))) =
      hyphenate (api.toLowerCase (Js.trim value)) := by
    apply law.lower_of_lowered
    intro c mem
    unfold hyphenate at mem
    rw [String.toList_ofList, List.mem_map] at mem
    obtain ⟨given, mem, rfl⟩ := mem
    split
    · exact .inl (by decide)
    · exact .inr ⟨_, mem⟩
  unfold normalizeLanguageTag
  rw [trim_hyphenate, trimmed, lowered, hyphenate_hyphenate]

/-- A language that is given is normalized and kept. -/
theorem resolveLang_given (law : LowerCase api.toLowerCase)
    (given : normalizeLanguageTag api (lang.getD "") ≠ "") :
    resolveLang api lang sourceMeta title text =
      (some (normalizeLanguageTag api (lang.getD "")), none) := by
  have nonempty : lang.getD "" ≠ "" := fun empty => by
    rw [empty] at given
    exact given (normalizeLanguageTag_empty law)
  cases lang with
  | none => exact absurd rfl nonempty
  | some lang =>
      rw [Option.getD_some] at nonempty given
      have kept : (some lang).filter (fun lang => decide (lang ≠ "")) = some lang := by
        simp [nonempty]
      unfold resolveLang
      rw [kept]
      exact if_pos given

theorem inferLanguageFromSourceMeta_normal (law : LowerCase api.toLowerCase) {inferred : String}
    (found : inferLanguageFromSourceMeta api sourceMeta = some inferred) :
    normalizeLanguageTag api inferred = inferred := by
  unfold inferLanguageFromSourceMeta at found
  obtain ⟨candidate, -, rfl⟩ := Option.map_eq_some_iff.1 found
  exact normalizeLanguageTag_normalizeLanguageTag law candidate

theorem inferEnglishLanguageHeuristic_eq {inferred : String}
    (found : inferEnglishLanguageHeuristic api title text = some inferred) : inferred = "en" := by
  unfold inferEnglishLanguageHeuristic at found
  dsimp only at found
  split at found
  · cases found
  · split at found
    · exact (Option.some.inj found).symm
    · cases found

theorem normalizeLanguageTag_en (law : LowerCase api.toLowerCase) :
    normalizeLanguageTag api "en" = "en" := by
  have basic : ∀ c ∈ "en".toList, c.toNat < 128 ∧ c.isUpper = false :=
    Js.forall_mem_of_all (by decide)
  have lower : api.toLowerCase "en" = "en" :=
    law.lower_of_lowered "en" fun c mem => .inl (basic c mem)
  have trimmed : Js.trim "en" = "en" := by decide
  unfold normalizeLanguageTag
  rw [trimmed, lower]
  decide

/-- Without one, it is taken from the source meta, or else from the text. -/
theorem resolveLang_missing (law : LowerCase api.toLowerCase)
    (missing : normalizeLanguageTag api (lang.getD "") = "") :
    (∃ inferred method, inferred ≠ "" ∧ normalizeLanguageTag api inferred = inferred ∧
        ¬ ((inferLanguageFromSourceMeta api sourceMeta).getD "" = "" ∧
          inferEnglishLanguageHeuristic api title text = none) ∧
        resolveLang api lang sourceMeta title text = (some inferred, some method)) ∨
      ((inferLanguageFromSourceMeta api sourceMeta).getD "" = "" ∧
        inferEnglishLanguageHeuristic api title text = none ∧
        resolveLang api lang sourceMeta title text =
          (if lang.getD "" = "" then none else some "", none)) := by
  have given : (lang.filter (· ≠ "")).map (normalizeLanguageTag api) =
      if lang.getD "" = "" then none else some "" := by
    cases lang with
    | none => rfl
    | some lang =>
        rw [Option.getD_some] at missing ⊢
        by_cases empty : lang = ""
        · simp [empty]
        · simp [empty, missing]
  have blank : (if lang.getD "" = "" then none else some "").getD "" = "" := by
    split <;> rfl
  unfold resolveLang
  rw [given]
  dsimp only
  rw [if_neg (not_not.2 blank)]
  cases source : (inferLanguageFromSourceMeta api sourceMeta).filter
    (fun inferred => decide (inferred ≠ "")) with
  | some inferred =>
      obtain ⟨found, nonempty⟩ := Option.filter_eq_some_iff.1 source
      have nonempty : inferred ≠ "" := of_decide_eq_true nonempty
      refine .inl ⟨inferred, "source_meta", nonempty,
        inferLanguageFromSourceMeta_normal law found, ?_, rfl⟩
      intro none
      rw [found] at none
      exact nonempty none.1
  | none =>
      have absent : (inferLanguageFromSourceMeta api sourceMeta).getD "" = "" := by
        cases found : inferLanguageFromSourceMeta api sourceMeta with
        | none => rfl
        | some inferred => simpa [found] using source
      dsimp only
      cases heuristic : inferEnglishLanguageHeuristic api title text with
      | some inferred =>
          obtain rfl := inferEnglishLanguageHeuristic_eq heuristic
          refine .inl ⟨"en", "heuristic_en", by decide, normalizeLanguageTag_en law, ?_, rfl⟩
          intro none
          cases none.2
      | none => exact .inr ⟨absent, rfl, rfl⟩

/-- A language is given, or there is none and none is found. -/
def LangSettled (api : EnrichmentApi) (lang : Option String) (sourceMeta : Option SourceMeta)
    (title : Option String) (text : String) : Prop :=
  normalizeLanguageTag api (lang.getD "") ≠ "" ∨
    (lang.getD "" = "" ∧ (inferLanguageFromSourceMeta api sourceMeta).getD "" = "" ∧
      inferEnglishLanguageHeuristic api title text = none)

/-- The source meta is read again, but for the record. -/
theorem inferLanguageFromSourceMeta_merged {record : RiQualityMetadata} :
    inferLanguageFromSourceMeta api (some (buildMergedSourceMeta sourceMeta record)) =
      inferLanguageFromSourceMeta api sourceMeta := by
  have lang : "lang" ≠ "ri_quality" := by decide
  have language : "language" ≠ "ri_quality" := by decide
  have locale : "locale" ≠ "ri_quality" := by decide
  unfold inferLanguageFromSourceMeta
  simp only [List.findSome?_cons, List.findSome?_nil, Option.getD_some, lookup_merged lang, lookup_merged language,
    lookup_merged locale]

theorem resolveLang_settled_iff (law : LowerCase api.toLowerCase) {next : Option SourceMeta}
    (same : inferLanguageFromSourceMeta api next = inferLanguageFromSourceMeta api sourceMeta) :
    resolveLang api (resolveLang api lang sourceMeta title text).1 next title text =
        resolveLang api lang sourceMeta title text ↔
      LangSettled api lang sourceMeta title text := by
  unfold LangSettled
  by_cases given : normalizeLanguageTag api (lang.getD "") = ""
  · rw [or_iff_right (not_not.2 given)]
    rcases @resolveLang_missing api lang title text sourceMeta law given with
      ⟨inferred, method, nonempty, normal, found, first⟩ | ⟨noMeta, noText, first⟩
    · -- the second run takes it as given
      have second : resolveLang api (some inferred) next title text = (some inferred, none) := by
        have kept : normalizeLanguageTag api ((some inferred).getD "") ≠ "" := by
          rw [Option.getD_some, normal]
          exact nonempty
        rw [resolveLang_given law kept, Option.getD_some, normal]
      rw [first, second]
      constructor
      · intro same
        cases (Prod.mk.inj same).2
      · intro none
        exact absurd none.2 found
    · rw [first]
      by_cases empty : lang.getD "" = ""
      · rw [if_pos empty]
        have missing : normalizeLanguageTag api ((none : Option String).getD "") = "" :=
          normalizeLanguageTag_empty law
        rcases @resolveLang_missing api none title text next law missing with
          ⟨inferred, method, -, -, found, -⟩ | ⟨-, -, second⟩
        · rw [same] at found
          exact absurd ⟨noMeta, noText⟩ found
        · exact iff_of_true second ⟨empty, noMeta, noText⟩
      · rw [if_neg empty]
        have missing : normalizeLanguageTag api ((some "").getD "") = "" :=
          normalizeLanguageTag_empty law
        refine iff_of_false ?_ fun settled => empty settled.1
        rcases @resolveLang_missing api (some "") title text next law missing with
          ⟨inferred, method, nonempty, -, found, -⟩ | ⟨-, -, second⟩
        · rw [same] at found
          exact absurd ⟨noMeta, noText⟩ found
        · rw [second]
          intro same
          cases (Prod.mk.inj same).1
  · rw [resolveLang_given law given]
    have kept : normalizeLanguageTag api
        ((some (normalizeLanguageTag api (lang.getD ""))).getD "") ≠ "" := by
      rw [Option.getD_some, normalizeLanguageTag_normalizeLanguageTag law]
      exact given
    dsimp only
    rw [resolveLang_given law kept, Option.getD_some, normalizeLanguageTag_normalizeLanguageTag law]
    exact iff_of_true rfl (.inl given)

end Languages

/-! ## Topics -/

section Topics

variable {tags : List String} {content : String}

theorem normalizeTagList_normalizeTagList :
    normalizeTagList (normalizeTagList tags) = normalizeTagList tags := by
  have normal : ∀ tag ∈ normalizeTagList tags, Js.trim tag = tag ∧ tag ≠ "" := by
    intro tag mem
    unfold normalizeTagList at mem
    obtain ⟨mem, nonempty⟩ := List.mem_filter.1 (Js.mem_distinct.1 mem)
    obtain ⟨given, -, rfl⟩ := List.mem_map.1 mem
    exact ⟨Js.trim_trim given, of_decide_eq_true nonempty⟩
  have trimmed : (normalizeTagList tags).map Js.trim = normalizeTagList tags :=
    (List.map_congr_left fun tag mem => (normal tag mem).1).trans (List.map_id _)
  have kept : (normalizeTagList tags).filter (fun tag => decide (tag ≠ "")) =
      normalizeTagList tags :=
    List.filter_eq_self.2 fun tag mem => decide_eq_true (normal tag mem).2
  have distinct : Js.distinct (normalizeTagList tags) = normalizeTagList tags := by
    unfold normalizeTagList
    exact Js.distinct_distinct _
  generalize normalizeTagList tags = normalized at trimmed kept distinct
  unfold normalizeTagList
  rw [trimmed, kept, distinct]

theorem inferTopicsFrom_sublist {room : Nat} {rules : List (String × List TopicPattern)} :
    (inferTopicsFrom content room rules).Sublist (rules.map (·.1)) := by
  induction rules generalizing room with
  | nil =>
      cases room <;> exact List.Sublist.refl []
  | cons rule rest ih =>
      obtain ⟨key, patterns⟩ := rule
      cases room with
      | zero => exact List.nil_sublist _
      | succ room =>
          unfold inferTopicsFrom
          split
          · exact ih.cons_cons key
          · exact ih.cons key

/-- The keys of the rules are tags in normal form. -/
theorem normalizeTagList_inferTopics (inferred : inferTopics content ≠ []) :
    normalizeTagList (inferTopics content) ≠ [] := by
  obtain ⟨key, mem⟩ := List.exists_mem_of_ne_nil _ inferred
  have listed : key ∈ TOPIC_INFERENCE_RULES.map (·.1) := inferTopicsFrom_sublist.subset mem
  have nonempty : Js.trim key ≠ "" := by
    have all : (TOPIC_INFERENCE_RULES.map (·.1)).all (fun key => decide (Js.trim key ≠ "")) = true := by
      decide
    exact of_decide_eq_true (List.all_eq_true.1 all key listed)
  unfold normalizeTagList
  rw [ne_eq, Js.distinct_eq_nil]
  exact List.ne_nil_of_mem (List.mem_filter.2 ⟨List.mem_map_of_mem mem, decide_eq_true nonempty⟩)

/-- A tag is given, or none is found. -/
def TagsSettled (tags : List String) (content : String) : Prop :=
  normalizeTagList tags ≠ [] ∨ inferTopics content = []

theorem resolveTags_settled_iff :
    resolveTags (resolveTags tags content).1 content = resolveTags tags content ↔
      TagsSettled tags content := by
  unfold TagsSettled
  by_cases given : normalizeTagList tags = []
  · have first : resolveTags tags content =
        (inferTopics content, decide (inferTopics content ≠ [])) := if_pos given
    rw [first, or_iff_right (not_not.2 given)]
    by_cases none : inferTopics content = []
    · rw [none]
      have second : resolveTags [] content = (inferTopics content, decide (inferTopics content ≠ [])) :=
        rfl
      rw [second, none]
      exact iff_of_true rfl rfl
    · have second : resolveTags (inferTopics content) content =
          (normalizeTagList (inferTopics content), false) :=
        if_neg (normalizeTagList_inferTopics none)
      rw [second]
      refine iff_of_false ?_ none
      intro same
      have flag := (Prod.mk.inj same).2
      rw [decide_eq_true none] at flag
      cases flag
  · have first : resolveTags tags content = (normalizeTagList tags, false) := if_neg given
    have second : resolveTags (normalizeTagList tags) content =
        (normalizeTagList (normalizeTagList tags), false) := by
      refine if_neg ?_
      rw [normalizeTagList_normalizeTagList]
      exact given
    rw [first, second, normalizeTagList_normalizeTagList]
    exact iff_of_true rfl (.inl given)

theorem sourceMetaTags_merged {sourceMeta : Option SourceMeta} {record : RiQualityMetadata} :
    sourceMetaTags (some (buildMergedSourceMeta sourceMeta record)) = sourceMetaTags sourceMeta := by
  have tags : "tags" ≠ "ri_quality" := by decide
  unfold sourceMetaTags
  rw [Option.getD_some, lookup_merged tags]

end Topics

/-! ## The event -/

section Event

variable {api : EnrichmentApi} {TSource : Type} {event : RawEventPersistenceInput TSource}

/-- Nothing in the event is repaired or inferred that the second run takes for given. -/
structure Settled (api : EnrichmentApi) (event : RawEventPersistenceInput TSource) : Prop where
  url : UrlSettled api event.url
  text : TextSettled event.text event.title
  lang : LangSettled api event.lang event.sourceMeta event.title
    (normalizeText event.text event.title).text
  tags : TagsSettled event.tags (haystack event.sourceMeta event.title
    (normalizeText event.text event.title).text event.url)

theorem haystack_merged {sourceMeta : Option SourceMeta} {record : RiQualityMetadata}
    {title url : Option String} {text : String} :
    haystack (some (buildMergedSourceMeta sourceMeta record)) title text url =
      haystack sourceMeta title text url := by
  unfold haystack
  rw [sourceMetaTags_merged]

/-- A URL that is settled is searched as it was given. -/
theorem haystack_settled {url : Option String} (settled : UrlSettled api url)
    {sourceMeta : Option SourceMeta} {title : Option String} {text : String} :
    haystack sourceMeta title text (normalizeUrl api url).normalizedUrl =
      haystack sourceMeta title text url := by
  have same : (normalizeUrl api url).normalizedUrl.getD "" = url.getD "" := by
    rcases settled with empty | form
    · rw [empty]
      cases url with
      | none => rfl
      | some url =>
          obtain rfl : url = "" := empty
          rfl
    · rw [form]
  unfold haystack
  rw [same]

/-- The second run changes nothing exactly if the event is settled. -/
theorem prepare_idempotent_iff (law : LowerCase api.toLowerCase) :
    prepareRawEventForPersistence api (again api event) =
      prepareRawEventForPersistence api event ↔ Settled api event := by
  rw [prepare_prepare_iff]
  have url : urlPart api (again api event) = urlPart api event ↔ UrlSettled api event.url :=
    normalizeUrl_settled_iff
  have text : textPart (again api event) = textPart event ↔ TextSettled event.text event.title :=
    normalizeText_settled_iff
  have lang (same : textPart (again api event) = textPart event) :
      langPart api (again api event) = langPart api event ↔
        LangSettled api event.lang event.sourceMeta event.title (textPart event).text := by
    have second : langPart api (again api event) = resolveLang api (langPart api event).1
        (some (buildMergedSourceMeta event.sourceMeta (quality api event))) event.title
        (textPart (again api event)).text := rfl
    rw [second, same]
    exact resolveLang_settled_iff law inferLanguageFromSourceMeta_merged
  have tags (same : urlPart api (again api event) = urlPart api event)
      (same' : textPart (again api event) = textPart event) :
      tagsPart api (again api event) = tagsPart api event ↔
        TagsSettled event.tags (haystack event.sourceMeta event.title (textPart event).text
          event.url) := by
    have second : tagsPart api (again api event) = resolveTags (tagsPart api event).1
        (haystack (some (buildMergedSourceMeta event.sourceMeta (quality api event))) event.title
          (textPart (again api event)).text (urlPart api (again api event)).normalizedUrl) := rfl
    rw [second, same, same', haystack_merged, ← haystack_settled (url.1 same)]
    exact resolveTags_settled_iff
  constructor
  · intro parts
    obtain ⟨sameUrl, sameText, sameLang, sameTags⟩ := parts
    exact ⟨url.1 sameUrl, text.1 sameText, (lang sameText).1 sameLang,
      (tags sameUrl sameText).1 sameTags⟩
  · intro settled
    have sameUrl := url.2 settled.url
    have sameText := text.2 settled.text
    exact ⟨sameUrl, sameText, (lang sameText).2 settled.lang,
      (tags sameUrl sameText).2 settled.tags⟩

/-- In particular the URL that the first run was given is kept. -/
theorem originalUrl_again (same : prepareRawEventForPersistence api (again api event) =
    prepareRawEventForPersistence api event) :
    (quality api (again api event)).originalUrl = (quality api event).originalUrl := by
  rw [quality_originalUrl, quality_originalUrl, (prepare_prepare_iff.1 same).1]

/-! ### Plain events -/

theorem lowerCase_plain : LowerCase fun value => String.ofList (value.toList.map Char.toLower) where
  lower_of_lowered text lowered := by
    have each : ∀ c ∈ text.toList, c.toLower = c := by
      intro c mem
      apply Js.toLower_eq_self
      intro upper
      rcases lowered c mem with basic | ⟨given, mem⟩
      · have found : c.isUpper = true := decide_eq_true upper
        rw [basic.2] at found
        cases found
      · rw [String.toList_ofList, List.mem_map] at mem
        obtain ⟨d, -, rfl⟩ := mem
        rw [Js.toNat_toLower] at upper
        split at upper <;> omega
    have same : text.toList.map Char.toLower = text.toList :=
      (List.map_congr_left each).trans (List.map_id _)
    rw [same, String.ofList_toList]
  trim_lower text := by
    unfold Js.trim
    rw [String.toList_ofList, String.toList_ofList, trimList_map Js.isWhitespace_toLower,
      Js.trimList_trimList]

/-- Plain URLs have neither queries nor fragments. -/
def plainEnrichment : EnrichmentApi where
  toUrlApi := Js.plainUrls
  hash _ := ""
  searchKeys _ := []
  deleteSearchParam _ url := url
  sortSearchParams url := url
  hoursOf ms := ((ms + 18000) / 36000 : Int) / 100

/-- A link with a language and a tag, and nothing to repair but the slash at its end. -/
def slashedLink : RawEventPersistenceInput Unit where
  eventId := "e1"
  source := ()
  fetchedAt := 0
  publishedAt := none
  url := some "https://news.example/a/"
  title := none
  text := "x"
  authorId := none
  authorHandle := none
  authorDisplayName := none
  engagementScore := none
  engagementComments := none
  engagementLikes := none
  engagementShares := none
  lang := some "en"
  tags := ["ai"]
  extractedHashtags := []
  extractedUrls := []
  sourceMeta := none

theorem original_url_lost :
    (quality plainEnrichment slashedLink).originalUrl = some "https://news.example/a/" ∧
      (quality plainEnrichment (again plainEnrichment slashedLink)).originalUrl = none ∧
      prepareRawEventForPersistence plainEnrichment (again plainEnrichment slashedLink) ≠
        prepareRawEventForPersistence plainEnrichment slashedLink := by
  have first : (quality plainEnrichment slashedLink).originalUrl =
      some "https://news.example/a/" := by decide
  have stored : (again plainEnrichment slashedLink).url = some "https://news.example/a" := by
    rw [again_eq]
    decide
  have second : (quality plainEnrichment (again plainEnrichment slashedLink)).originalUrl = none := by
    generalize again plainEnrichment slashedLink = next at stored
    rw [quality_originalUrl]
    unfold urlPart
    rw [stored]
    decide
  refine ⟨first, second, ?_⟩
  intro same
  have lost : none = some "https://news.example/a/" :=
    second.symm.trans ((originalUrl_again same).trans first)
  cases lost

/-- The same link without the slash is stored once and for all. -/
theorem prepare_idempotent_link :
    prepareRawEventForPersistence plainEnrichment
        (again plainEnrichment { slashedLink with url := some "https://news.example/a" }) =
      prepareRawEventForPersistence plainEnrichment
        { slashedLink with url := some "https://news.example/a" } := by
  refine (prepare_idempotent_iff lowerCase_plain).2 ⟨.inr ?_, .inl rfl, .inl ?_, .inl ?_⟩
  · decide
  · decide
  · decide

end Event

end RisingIntelligence.Enrichment
