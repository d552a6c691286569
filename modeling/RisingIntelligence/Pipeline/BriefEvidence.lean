import RisingIntelligence.Pipeline.RawEvent
import RisingIntelligence.Shared.JsArray
import RisingIntelligence.Shared.Url

/-!
# Brief evidence

The canonical form of an evidence URL, `packages/pipeline/src/briefing-handoff.ts`.  A private host
has none.

* `canonicalizeBriefEvidenceUrl` cuts one trailing slash off the path, so the form of a form may
  differ from it.
* `canonicalUrl` is what the sets of URLs keep: the form of a value that has one.
-/

namespace RisingIntelligence

/-! ## Hosts -/

def normalizeHostname (api : Js.UrlApi) (hostname : String) : String :=
  let normalized := api.toLowerCase (Js.trim hostname)
  if Js.startsWith normalized "[" && Js.endsWith normalized "]" then Js.dropEnds normalized
  else normalized

def isPrivateOrLoopbackIpv4 (hostname : String) : Bool :=
  match (Js.split '.' hostname).mapM Js.parseInt10 with
  | some [first, second, third, fourth] =>
      [first, second, third, fourth].all (fun octet => decide (0 ≤ octet ∧ octet ≤ 255)) &&
        (first == 10 || first == 127 || (first == 169 && second == 254) ||
          (first == 172 && decide (16 ≤ second ∧ second ≤ 31)) || (first == 192 && second == 168))
  | _ => false

/-- `/^fe[89ab][0-9a-f]{0,2}$/i` -/
def isLinkLocalHextet (hextet : String) : Bool :=
  match hextet.toList.map Char.toLower with
  | 'f' :: 'e' :: first :: rest =>
      ['8', '9', 'a', 'b'].contains first && decide (rest.length ≤ 2) &&
        rest.all fun c => (Js.digitValue 16 c).isSome
  | _ => false

def isPrivateOrLoopbackIpv6 (hostname : String) : Bool :=
  Js.startsWith hostname "::" || Js.startsWith hostname "fc" || Js.startsWith hostname "fd" ||
    isLinkLocalHextet ((Js.split ':' hostname).headD "")

def isDisallowedHostname (api : Js.UrlApi) (hostname : String) : Bool :=
  let normalized := normalizeHostname api hostname
  if normalized == "localhost" || Js.endsWith normalized ".localhost" || normalized == "0.0.0.0" then
    true
  else
    let ipVersion := api.isIP normalized
    if ipVersion = 4 then isPrivateOrLoopbackIpv4 normalized
    else if ipVersion = 6 then isPrivateOrLoopbackIpv6 normalized
    else false

/-! ## URLs -/

def parseHttpUrl (api : Js.UrlApi) (value : String) : Option api.Url :=
  (api.parse value).filter fun parsed =>
    api.protocol parsed == "http:" || api.protocol parsed == "https:"

def normalizeHttpUrl (api : Js.UrlApi) (parsed : api.Url) : String :=
  let parsed := api.setHash "" parsed
  let parsed := api.setHostname (normalizeHostname api (api.hostname parsed)) parsed
  let defaultPort := (api.protocol parsed == "http:" && api.port parsed == "80") ||
    (api.protocol parsed == "https:" && api.port parsed == "443")
  let parsed := if defaultPort then api.setPort "" parsed else parsed
  let pathname := api.pathname parsed
  let parsed := if decide (1 < Js.length pathname) && Js.endsWith pathname "/" then
      api.setPathname (Js.dropLast pathname) parsed else parsed
  api.href parsed

def canonicalizeBriefEvidenceUrl (api : Js.UrlApi) (value : String) : Option String :=
  match normalizeOptionalString (some value) with
  | none => none
  | some normalized =>
      match parseHttpUrl api normalized with
      | none => none
      | some parsed =>
          if isDisallowedHostname api (api.hostname parsed) then none
          else some (normalizeHttpUrl api parsed)

/-- The canonical form that a set of URLs keeps of a value. -/
def canonicalUrl (api : Js.UrlApi) (value : String) : Option String :=
  if value = "" then none
  else (canonicalizeBriefEvidenceUrl api value).filter (· ≠ "")

def dedupeCanonicalBriefEvidenceUrls (api : Js.UrlApi) (values : List (Option String)) :
    List String :=
  Js.distinct (values.filterMap fun value => value.bind (canonicalUrl api))

section Dedupe

variable {api : Js.UrlApi} {values : List (Option String)} {url : String}

theorem mem_dedupeCanonical :
    url ∈ dedupeCanonicalBriefEvidenceUrls api values ↔
      ∃ value, some value ∈ values ∧ canonicalUrl api value = some url := by
  unfold dedupeCanonicalBriefEvidenceUrls
  rw [Js.mem_distinct, List.mem_filterMap]
  constructor
  · rintro ⟨value, mem, form⟩
    obtain ⟨text, rfl, form⟩ := Option.bind_eq_some_iff.1 form
    exact ⟨text, mem, form⟩
  · rintro ⟨text, mem, form⟩
    exact ⟨some text, mem, form⟩

theorem nodup_dedupeCanonical : (dedupeCanonicalBriefEvidenceUrls api values).Nodup :=
  Js.nodup_distinct _

theorem mem_dedupeCanonical_map {texts : List String} :
    url ∈ dedupeCanonicalBriefEvidenceUrls api (texts.map some) ↔
      ∃ text ∈ texts, canonicalUrl api text = some url := by
  rw [mem_dedupeCanonical]
  simp

end Dedupe

/-- The form of a form: a second slash at the end goes only the second time. -/
example : canonicalUrl Js.plainUrls "https://a.example/x//" = some "https://a.example/x/" ∧
    canonicalUrl Js.plainUrls "https://a.example/x/" = some "https://a.example/x" := by
  decide

end RisingIntelligence
