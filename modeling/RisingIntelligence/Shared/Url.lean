import RisingIntelligence.Shared.JsString

/-!
# URLs of the runtime

What the services use of `URL` and of `isIP`, with the case folding of strings, as an interface: the
services are modelled over any implementation.  `plainUrls` implements it for plain URLs, to evaluate
examples.
-/

namespace RisingIntelligence.Js

/-- The getters and setters of `URL`. -/
structure UrlApi where
  Url : Type
  /-- `new URL(value)`, `none` where it throws. -/
  parse : String → Option Url
  protocol : Url → String
  hostname : Url → String
  port : Url → String
  pathname : Url → String
  setHash : String → Url → Url
  setHostname : String → Url → Url
  setPort : String → Url → Url
  setPathname : String → Url → Url
  /-- `toString()` -/
  href : Url → String
  /-- `isIP` of `node:net`: 4, 6, or 0. -/
  isIP : String → Nat
  toLowerCase : String → String

def UrlApi.isWeb (api : UrlApi) (url : api.Url) : Prop :=
  api.protocol url = "http:" ∨ api.protocol url = "https:"

/-- What is documented of URLs: the text of a web URL parses to it, and a setter leaves the other
components as they are. -/
structure UrlApi.Lawful (api : UrlApi) : Prop where
  parse_href : ∀ url, api.isWeb url → api.parse (api.href url) = some url
  trim_href : ∀ url, api.isWeb url → trim (api.href url) = api.href url
  href_ne_empty : ∀ url, api.href url ≠ ""
  port_ne_default : ∀ url, ¬ (api.protocol url = "http:" ∧ api.port url = "80") ∧
    ¬ (api.protocol url = "https:" ∧ api.port url = "443")
  /-- The host of a web URL is in lower case. -/
  lower_hostname : ∀ url, api.isWeb url →
    api.toLowerCase (trim (api.hostname url)) = api.hostname url
  setHostname_hostname : ∀ url, api.isWeb url → api.setHostname (api.hostname url) url = url
  /-- The setter does not take an address without its brackets. -/
  setHostname_bare : ∀ url address, api.isWeb url → api.hostname url = "[" ++ address ++ "]" →
    api.setHostname address url = url
  setHash_setHash : ∀ url, api.setHash "" (api.setHash "" url) = api.setHash "" url
  protocol_setHash : ∀ url, api.protocol (api.setHash "" url) = api.protocol url
  hostname_setHash : ∀ url, api.hostname (api.setHash "" url) = api.hostname url
  pathname_setHash : ∀ url, api.isWeb url → api.pathname (api.setHash "" url) = api.pathname url
  setHash_setPathname : ∀ url path,
    api.setHash "" (api.setPathname path url) = api.setPathname path (api.setHash "" url)
  protocol_setPathname : ∀ url path, api.protocol (api.setPathname path url) = api.protocol url
  hostname_setPathname : ∀ url path, api.hostname (api.setPathname path url) = api.hostname url
  /-- The path of a web URL without a slash at its end is a path, if it is not empty. -/
  pathname_setPathname : ∀ url path, api.isWeb url → api.pathname url = path ++ "/" → path ≠ "" →
    api.pathname (api.setPathname path url) = path

/-! ## Plain URLs -/

/-- `http` or `https`, a host and a path that starts with a slash. -/
structure PlainUrl where
  protocol : String
  host : List Char
  path : List Char
  deriving DecidableEq

/-- A character that a host name or a path keeps as it is. -/
def isPlain (c : Char) : Bool :=
  c.isLower || c.isDigit || c == '.' || c == '-'

def PlainUrl.ofRest (protocol : String) (rest : List Char) : Option PlainUrl :=
  let host := rest.takeWhile isPlain
  let path := rest.dropWhile isPlain
  if host = [] ∨ path.any (fun c => !(isPlain c || c == '/')) then none
  else some { protocol := protocol, host := host, path := if path = [] then ['/'] else path }

def PlainUrl.parse (value : String) : Option PlainUrl :=
  let cs := value.toList
  if (cs.take 8).map Char.toLower = "https://".toList then ofRest "https:" (cs.drop 8)
  else if (cs.take 7).map Char.toLower = "http://".toList then ofRest "http:" (cs.drop 7)
  else none

/-- URLs like `https://a.example/x`: no user, port, query or fragment, a host that is a name, and no
capitals but in the scheme. -/
def plainUrls : UrlApi where
  Url := PlainUrl
  parse := PlainUrl.parse
  protocol := PlainUrl.protocol
  hostname url := String.ofList url.host
  port _ := ""
  pathname url := String.ofList url.path
  setHash _ url := url
  setHostname value url := { url with host := value.toList }
  setPort _ url := url
  setPathname value url :=
    { url with path := match value.toList with
        | '/' :: rest => '/' :: rest
        | rest => '/' :: rest }
  href url := url.protocol ++ "//" ++ String.ofList url.host ++ String.ofList url.path
  isIP _ := 0
  toLowerCase value := String.ofList (value.toList.map Char.toLower)

/-! ## Plain URLs as objects -/

def PlainUrl.isValid (url : PlainUrl) : Bool :=
  (url.protocol == "https:" || url.protocol == "http:") && !url.host.isEmpty &&
    url.host.all isPlain && url.path.head? == some '/' &&
    url.path.all fun c => isPlain c || c == '/'

/-- A plain URL that its text parses to. -/
@[ext]
structure ValidUrl where
  url : PlainUrl
  valid : url.isValid = true

/-- A setter does nothing where it would leave the plain URLs. -/
def ValidUrl.update (f : PlainUrl → PlainUrl) (url : ValidUrl) : ValidUrl :=
  if valid : (f url.url).isValid = true then ⟨f url.url, valid⟩ else url

def validUrls : UrlApi where
  Url := ValidUrl
  parse value := (PlainUrl.parse value).bind fun url =>
    if valid : url.isValid = true then some ⟨url, valid⟩ else none
  protocol url := url.url.protocol
  hostname url := String.ofList url.url.host
  port _ := ""
  pathname url := String.ofList url.url.path
  setHash _ url := url
  setHostname value := ValidUrl.update fun url => { url with host := value.toList }
  setPort _ url := url
  setPathname value := ValidUrl.update fun url => { url with path := value.toList }
  href url := plainUrls.href url.url
  isIP _ := 0
  toLowerCase value := String.ofList (value.toList.map Char.toLower)

theorem isPlain_small {c : Char} (plain : isPlain c = true) :
    c.toLower = c ∧ isWhitespace c = false := by
  have code : (97 ≤ c.toNat ∧ c.toNat ≤ 122) ∨ (48 ≤ c.toNat ∧ c.toNat ≤ 57) ∨ c.toNat = 46 ∨
      c.toNat = 45 := by
    simp only [isPlain, Bool.or_eq_true, beq_iff_eq] at plain
    rcases plain with ((lower | digit) | rfl) | rfl
    · unfold Char.isLower at lower
      rw [Bool.and_eq_true] at lower
      have least : 97 ≤ c.toNat := of_decide_eq_true lower.1
      have most : c.toNat ≤ 122 := of_decide_eq_true lower.2
      exact .inl ⟨least, most⟩
    · exact .inr (.inl (Char.isDigit_iff_toNat.1 digit))
    · exact .inr (.inr (.inl rfl))
    · exact .inr (.inr (.inr rfl))
  constructor
  · unfold Char.toLower
    rw [dif_neg]
    intro upper
    have least : 65 ≤ c.toNat := upper.1
    have most : c.toNat ≤ 90 := upper.2
    omega
  · simp only [isWhitespace, Bool.or_eq_false_iff, Bool.and_eq_false_iff, beq_eq_false_iff_ne,
      decide_eq_false_iff_not]
    omega

theorem trimList_of_solid {cs : List Char} (solid : ∀ c ∈ cs, isWhitespace c = false) :
    trimList cs = cs := by
  have kept : ∀ cs : List Char, (∀ c ∈ cs, isWhitespace c = false) →
      cs.dropWhile isWhitespace = cs := by
    intro cs solid
    cases cs with
    | nil => rfl
    | cons c rest => exact List.dropWhile_cons_of_neg (by simp [solid c List.mem_cons_self])
  unfold trimList
  rw [kept cs solid, kept cs.reverse fun c mem => solid c (List.mem_reverse.1 mem),
    List.reverse_reverse]

section Valid

variable {url : PlainUrl}

/-- The parts of a valid URL. -/
structure PlainUrl.Shaped (url : PlainUrl) : Prop where
  protocol : url.protocol = "https:" ∨ url.protocol = "http:"
  host_ne_nil : url.host ≠ []
  host : ∀ c ∈ url.host, isPlain c = true
  path : ∃ rest, url.path = '/' :: rest
  segments : ∀ c ∈ url.path, isPlain c = true ∨ c = '/'

theorem PlainUrl.shaped_iff : url.isValid = true ↔ url.Shaped := by
  unfold PlainUrl.isValid
  simp only [Bool.and_eq_true, Bool.or_eq_true, beq_iff_eq, Bool.not_eq_true',
    List.isEmpty_eq_false_iff, List.all_eq_true]
  constructor
  · intro holds
    obtain ⟨⟨⟨⟨protocol, nonempty⟩, host⟩, path⟩, segments⟩ := holds
    refine ⟨protocol, nonempty, host, ?_, segments⟩
    cases shape : url.path with
    | nil =>
        rw [shape] at path
        cases path
    | cons c rest =>
        rw [shape] at path
        cases path
        exact ⟨rest, rfl⟩
  · intro shaped
    obtain ⟨rest, shape⟩ := shaped.path
    refine ⟨⟨⟨⟨shaped.protocol, shaped.host_ne_nil⟩, shaped.host⟩, ?_⟩, shaped.segments⟩
    rw [shape]
    rfl

theorem PlainUrl.ofRest_append (shaped : url.Shaped) :
    PlainUrl.ofRest url.protocol (url.host ++ url.path) = some url := by
  obtain ⟨rest, shape⟩ := shaped.path
  have host : (url.host ++ url.path).takeWhile isPlain = url.host := by
    rw [shape, List.takeWhile_append_of_pos shaped.host, List.takeWhile_cons_of_neg (by decide),
      List.append_nil]
  have path : (url.host ++ url.path).dropWhile isPlain = url.path := by
    rw [shape, List.dropWhile_append_of_pos shaped.host, List.dropWhile_cons_of_neg (by decide)]
  have segments : (url.path.any fun c => !(isPlain c || c == '/')) = false := by
    rw [List.any_eq_false]
    intro c mem
    rcases shaped.segments c mem with plain | slash
    · simp [plain]
    · simp [slash]
  have nonempty : url.path ≠ [] := by
    rw [shape]
    exact List.cons_ne_nil _ _
  unfold PlainUrl.ofRest
  dsimp only
  rw [host, path, if_neg, if_neg nonempty]
  intro either
  rcases either with empty | bad
  · exact shaped.host_ne_nil empty
  · rw [segments] at bad
    cases bad

theorem PlainUrl.toList_href : (plainUrls.href url).toList =
    url.protocol.toList ++ ('/' :: '/' :: (url.host ++ url.path)) := by
  change (url.protocol ++ "//" ++ String.ofList url.host ++ String.ofList url.path).toList = _
  simp only [String.toList_append, String.toList_ofList, List.append_assoc]
  rfl

theorem PlainUrl.parse_href (shaped : url.Shaped) :
    PlainUrl.parse (plainUrls.href url) = some url := by
  have whole := PlainUrl.ofRest_append shaped
  unfold PlainUrl.parse
  dsimp only
  rw [PlainUrl.toList_href]
  rcases shaped.protocol with https | http
  · rw [https] at whole ⊢
    exact whole
  · rw [http] at whole ⊢
    exact whole

theorem PlainUrl.letters_href (shaped : url.Shaped) {c : Char}
    (mem : c ∈ (plainUrls.href url).toList) :
    isPlain c = true ∨ c = '/' ∨ c ∈ url.protocol.toList := by
  rw [PlainUrl.toList_href] at mem
  rcases List.mem_append.1 mem with protocol | rest
  · exact .inr (.inr protocol)
  · rcases List.mem_cons.1 rest with slash | rest
    · exact .inr (.inl slash)
    · rcases List.mem_cons.1 rest with slash | rest
      · exact .inr (.inl slash)
      · rcases List.mem_append.1 rest with host | path
        · exact .inl (shaped.host c host)
        · rcases shaped.segments c path with plain | slash
          · exact .inl plain
          · exact .inr (.inl slash)

theorem PlainUrl.solid_href (shaped : url.Shaped) :
    ∀ c ∈ (plainUrls.href url).toList, isWhitespace c = false := by
  intro c mem
  rcases PlainUrl.letters_href shaped mem with plain | slash | protocol
  · exact (isPlain_small plain).2
  · rw [slash]
    decide
  · rcases shaped.protocol with https | http
    · rw [https] at protocol
      exact forall_mem_of_all (p := fun c => isWhitespace c = false) (by decide) c protocol
    · rw [http] at protocol
      exact forall_mem_of_all (p := fun c => isWhitespace c = false) (by decide) c protocol

end Valid

theorem ValidUrl.update_eq (f : PlainUrl → PlainUrl) (url : ValidUrl) :
    (ValidUrl.update f url).url = if (f url.url).isValid = true then f url.url else url.url := by
  unfold ValidUrl.update
  split <;> rfl

theorem ValidUrl.parse_href (url : ValidUrl) :
    ((PlainUrl.parse (plainUrls.href url.url)).bind fun parsed =>
      if valid : parsed.isValid = true then some ⟨parsed, valid⟩ else none) = some url := by
  rw [PlainUrl.parse_href (PlainUrl.shaped_iff.1 url.valid), Option.bind_some, dif_pos url.valid]

theorem ValidUrl.update_self (url : ValidUrl) {f : PlainUrl → PlainUrl} (same : f url.url = url.url) :
    ValidUrl.update f url = url := by
  apply ValidUrl.ext
  rw [ValidUrl.update_eq, same, ite_self]

/-- Without its last slash a path that is not empty is still one. -/
theorem PlainUrl.Shaped.cutPath {url : PlainUrl} (shaped : url.Shaped) {path : String}
    (letters : url.path = path.toList ++ ['/']) (nonempty : path ≠ "") :
    PlainUrl.Shaped { url with path := path.toList } := by
  constructor
  case protocol => exact shaped.protocol
  case host_ne_nil => exact shaped.host_ne_nil
  case host => exact shaped.host
  case path =>
    obtain ⟨rest, shape⟩ := shaped.path
    rw [letters] at shape
    cases first : path.toList with
    | nil => exact absurd (String.toList_eq_nil_iff.1 first) nonempty
    | cons c more =>
        rw [first] at shape
        exact ⟨more, congrArg (· :: more) (List.cons.inj shape).1⟩
  case segments =>
    intro c mem
    exact shaped.segments c (by rw [letters]; exact List.mem_append_left _ mem)

theorem validUrls_lawful : validUrls.Lawful where
  parse_href url _ := ValidUrl.parse_href url
  trim_href url _ := by
    change trim (plainUrls.href url.url) = plainUrls.href url.url
    rw [trim, trimList_of_solid (PlainUrl.solid_href (PlainUrl.shaped_iff.1 url.valid)),
      String.ofList_toList]
  href_ne_empty url := by
    change plainUrls.href url.url ≠ ""
    intro empty
    have letters := congrArg String.toList empty
    rw [PlainUrl.toList_href] at letters
    simp at letters
  port_ne_default url := by
    constructor <;> intro default <;> exact absurd default.2 (by decide : ¬ ("" : String) = _)
  lower_hostname url _ := by
    have shaped := PlainUrl.shaped_iff.1 url.valid
    change String.ofList ((trim (String.ofList url.url.host)).toList.map Char.toLower) = _
    have solid : ∀ c ∈ url.url.host, isWhitespace c = false :=
      fun c mem => (isPlain_small (shaped.host c mem)).2
    have small : url.url.host.map Char.toLower = url.url.host.map id :=
      List.map_congr_left fun c mem => (isPlain_small (shaped.host c mem)).1
    rw [trim, String.toList_ofList, String.toList_ofList, trimList_of_solid solid, small,
      List.map_id]
    rfl
  setHostname_hostname url _ := by
    change ValidUrl.update (fun other => { other with host := (String.ofList url.url.host).toList })
      url = url
    apply ValidUrl.update_self url
    exact congrArg (fun host => { url.url with host := host }) String.toList_ofList
  setHostname_bare url address _ bracketed := by
    have shaped := PlainUrl.shaped_iff.1 url.valid
    have letters : url.url.host = ("[" ++ address ++ "]").toList := by
      rw [← bracketed]
      exact String.toList_ofList.symm
    have plain := shaped.host '[' (by rw [letters, String.append_assoc, String.toList_append]; simp)
    cases plain
  setHash_setHash _ := rfl
  protocol_setHash _ := rfl
  hostname_setHash _ := rfl
  pathname_setHash _ _ := rfl
  setHash_setPathname _ _ := rfl
  protocol_setPathname url path := by
    have kept := ValidUrl.update_eq (fun url => { url with path := path.toList }) url
    change (ValidUrl.update (fun url => { url with path := path.toList }) url).url.protocol = _
    rw [kept]
    split <;> rfl
  hostname_setPathname url path := by
    have kept := ValidUrl.update_eq (fun url => { url with path := path.toList }) url
    change String.ofList (ValidUrl.update (fun url => { url with path := path.toList }) url).url.host =
      _
    rw [kept]
    split <;> rfl
  pathname_setPathname url path _ whole nonempty := by
    have shaped := PlainUrl.shaped_iff.1 url.valid
    have letters : url.url.path = path.toList ++ ['/'] := by
      have same := congrArg String.toList whole
      rw [String.toList_append] at same
      exact String.toList_ofList.symm.trans same
    change String.ofList (ValidUrl.update (fun url => { url with path := path.toList }) url).url.path =
      path
    have kept := ValidUrl.update_eq (fun url => { url with path := path.toList }) url
    rw [if_pos (PlainUrl.shaped_iff.2 (shaped.cutPath letters nonempty))] at kept
    rw [kept, String.ofList_toList]

end RisingIntelligence.Js
