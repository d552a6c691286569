import RisingIntelligence.Pipeline.BriefEvidence
import RisingIntelligence.Shared.IpAddress

/-!
# The fetch guard

`createUrlSafetyFacade` of `packages/shared/src/runtime/url.ts`.  Its tests of host names are those
of `packages/pipeline/src/briefing-handoff.ts`, text tests on the host that a URL has after parsing.

* `Host` is such a host: an address in the text of the URL serializer, or a domain name.
* `Classified` says of one host what the tests are for, in numbers; `classified_iff` says for which
  hosts the text tests find that.
-/

namespace RisingIntelligence

def isAllowedFetchUrl (api : Js.UrlApi) (allowPrivateHosts : Bool) (value : String) : Bool :=
  match parseHttpUrl api value with
  | none => false
  | some parsed => !(!allowPrivateHosts && isDisallowedHostname api (api.hostname parsed))

/-! ## Hosts -/

/-- What may stand in the domain of a URL: no upper case, and no forbidden domain code point. -/
def isDomainChar (c : Char) : Bool :=
  decide (0x20 < c.toNat ∧ c.toNat < 0x7F) && !c.isUpper &&
    !(['#', '%', '/', ':', '<', '>', '?', '@', '[', '\\', ']', '^', '|'].contains c)

structure DomainName where
  text : String
  valid : text.toList.all isDomainChar = true

inductive Host : Type
  | ipv4 (address : BitVec 32)
  | ipv6 (address : BitVec 128)
  | domain (name : DomainName)

namespace Host

/-- The text without brackets. -/
def bare : Host → String
  | .ipv4 address => Js.serializeIpv4 address
  | .ipv6 address => Js.serializeIpv6 address
  | .domain name => name.text

/-- The host serializer. -/
def serialize : Host → String
  | .ipv6 address => "[" ++ Js.serializeIpv6 address ++ "]"
  | host => host.bare

/-- What `isIP` documents to return for the text. -/
def version : Host → Nat
  | .ipv4 _ => 4
  | .ipv6 _ => 6
  | .domain _ => 0

end Host

/-! ## The named blocks -/

/-- `10.0.0.0/8`, `127.0.0.0/8`, `169.254.0.0/16`, `172.16.0.0/12`, `192.168.0.0/16` and the
unspecified address. -/
def InPrivateRange (address : BitVec 32) : Prop :=
  address.toNat / 2 ^ 24 = 10 ∨ address.toNat / 2 ^ 24 = 127 ∨
    address.toNat / 2 ^ 16 = 0xA9FE ∨ address.toNat / 2 ^ 20 = 0xAC1 ∨
    address.toNat / 2 ^ 16 = 0xC0A8 ∨ address.toNat = 0

/-- `::/8`, `fc00::/7` and `fe80::/10`. -/
def InNamedBlock (address : BitVec 128) : Prop :=
  address.toNat / 2 ^ 120 = 0 ∨ address.toNat / 2 ^ 121 = 0xFC / 2 ∨
    address.toNat / 2 ^ 118 = 0xFE80 / 2 ^ 6

/-- `localhost` and the names under it, with or without a dot at the end. -/
def IsLocal (name : String) : Prop :=
  name = "localhost" ∨ Js.endsWith name ".localhost" = true ∨ name = "localhost." ∨
    Js.endsWith name ".localhost." = true

/-- What the guard is to say of a host. -/
def Classified (allowed : Bool) : Host → Prop
  | .ipv4 address => allowed = false ↔ InPrivateRange address
  | .ipv6 address => InNamedBlock address → allowed = false
  | .domain name => IsLocal name.text → allowed = false

/-- The hosts that the text tests classify: an address in `::/8` must begin with its longest run of
zeros, or start like an address in `fc00::/7`, and a local name must not end with a dot. -/
def Classifiable : Host → Prop
  | .ipv4 _ => True
  | .ipv6 address => address.toNat / 2 ^ 120 = 0 →
      Js.compressedPieceIndex (Js.pieces address) = some 0 ∨
        address.toNat / 2 ^ 112 = 0xFC ∨ address.toNat / 2 ^ 112 = 0xFD
  | .domain name => name.text ≠ "localhost." ∧ Js.endsWith name.text ".localhost." = false

/-! ## IPv6 -/

section Ipv6

variable {address : BitVec 128}

/-- A hexadecimal digit is no other character of a host. -/
theorem digitChar_ne {digit : Nat} (small : digit < 16) :
    Nat.digitChar digit ≠ ':' ∧ Nat.digitChar digit ≠ '.' ∧ Nat.digitChar digit ≠ 'l' := by
  revert digit
  decide

theorem colon_notMem_toDigits (n : Nat) : ':' ∉ Nat.toDigits 16 n := by
  intro mem
  obtain ⟨digit, small, same⟩ := Js.mem_toDigits (by decide) mem
  exact (digitChar_ne small).1 same.symm

theorem isPrivateOrLoopbackIpv6_of_leading
    (leading : Js.compressedPieceIndex (Js.pieces address) = some 0) :
    isPrivateOrLoopbackIpv6 (Js.serializeIpv6 address) = true := by
  obtain ⟨rest, text⟩ := Js.serializeIpv6_eq address
  rw [if_pos leading] at text
  have starts : Js.startsWith (Js.serializeIpv6 address) "::" = true := by
    unfold Js.startsWith
    rw [text]
    rfl
  simp [isPrivateOrLoopbackIpv6, starts]

/-- Without a leading run the tests read the first piece. -/
theorem isPrivateOrLoopbackIpv6_iff
    (other : Js.compressedPieceIndex (Js.pieces address) ≠ some 0) :
    ∃ rest, isPrivateOrLoopbackIpv6 (Js.serializeIpv6 address) = true ↔
      ['f', 'c'] <+: Nat.toDigits 16 (address.toNat / 2 ^ 112) ++ ':' :: rest ∨
        ['f', 'd'] <+: Nat.toDigits 16 (address.toNat / 2 ^ 112) ++ ':' :: rest ∨
        isLinkLocalHextet (String.ofList (Nat.toDigits 16 (address.toNat / 2 ^ 112))) = true := by
  obtain ⟨rest, text⟩ := Js.serializeIpv6_eq address
  rw [if_neg other] at text
  refine ⟨rest, ?_⟩
  have head : (Js.split ':' (Js.serializeIpv6 address)).headD "" =
      String.ofList (Nat.toDigits 16 (address.toNat / 2 ^ 112)) := by
    unfold Js.split
    rw [text, List.splitOn_append_cons_self_of_not_mem (colon_notMem_toDigits _)]
    rfl
  have colons : Js.startsWith (Js.serializeIpv6 address) "::" = false := by
    unfold Js.startsWith
    rw [text, ← Bool.not_eq_true, List.isPrefixOf_iff_prefix]
    intro starts
    obtain ⟨digit, digits, split⟩ :=
      List.exists_cons_of_ne_nil (@Nat.toDigits_ne_nil (address.toNat / 2 ^ 112) 16)
    rw [split] at starts
    have first : ':' = digit := (List.cons_prefix_cons.1 starts).1
    exact colon_notMem_toDigits (address.toNat / 2 ^ 112) (by rw [split, first]; simp)
  unfold isPrivateOrLoopbackIpv6
  rw [head, colons]
  simp only [Js.startsWith, text, Bool.false_or, Bool.or_eq_true, List.isPrefixOf_iff_prefix,
    or_assoc]
  rfl

/-- Four digits spell the block of the address. -/
theorem isPrivateOrLoopbackIpv6_of_block
    (block : address.toNat / 2 ^ 121 = 0xFC / 2 ∨ address.toNat / 2 ^ 118 = 0xFE80 / 2 ^ 6) :
    isPrivateOrLoopbackIpv6 (Js.serializeIpv6 address) = true := by
  by_cases leading : Js.compressedPieceIndex (Js.pieces address) = some 0
  · exact isPrivateOrLoopbackIpv6_of_leading leading
  obtain ⟨rest, tests⟩ := isPrivateOrLoopbackIpv6_iff leading
  have bound := address.isLt
  rw [tests, Js.toDigits_sixteen (by omega) (by omega)]
  have piece : address.toNat / 2 ^ 112 / 2 ^ 9 = 126 ∨ address.toNat / 2 ^ 112 / 2 ^ 6 = 1018 := by
    omega
  generalize address.toNat / 2 ^ 112 = piece₀ at piece
  have f : Nat.digitChar (piece₀ / 4096) = 'f' := by
    rw [show piece₀ / 4096 = 15 by omega]
    rfl
  rw [f]
  rcases piece with unique | link
  · have second : piece₀ / 256 % 16 = 12 ∨ piece₀ / 256 % 16 = 13 := by omega
    rcases second with c | d
    · left
      rw [c]
      exact List.prefix_append ['f', 'c'] _
    · right
      left
      rw [d]
      exact List.prefix_append ['f', 'd'] _
  · right
    right
    have second : piece₀ / 256 % 16 = 14 := by omega
    have third : 8 ≤ piece₀ / 16 % 16 ∧ piece₀ / 16 % 16 < 12 := by omega
    have last : piece₀ % 16 < 16 := by omega
    rw [second]
    generalize piece₀ / 16 % 16 = x at third
    generalize piece₀ % 16 = y at last
    have all : ∀ x < 12, 8 ≤ x → ∀ y < 16, isLinkLocalHextet
        (String.ofList ['f', Nat.digitChar 14, Nat.digitChar x, Nat.digitChar y]) = true := by
      decide +kernel
    exact all x third.2 third.1 y last

theorem isPrivateOrLoopbackIpv6_iff_of_small (small : address.toNat / 2 ^ 120 = 0) :
    isPrivateOrLoopbackIpv6 (Js.serializeIpv6 address) = true ↔ Classifiable (.ipv6 address) := by
  unfold Classifiable
  by_cases leading : Js.compressedPieceIndex (Js.pieces address) = some 0
  · exact iff_of_true (isPrivateOrLoopbackIpv6_of_leading leading) fun _ => .inl leading
  obtain ⟨rest, tests⟩ := isPrivateOrLoopbackIpv6_iff leading
  rw [tests]
  have piece : address.toNat / 2 ^ 112 < 256 := by omega
  simp only [small, leading, true_implies, false_or]
  generalize address.toNat / 2 ^ 112 = piece₀ at piece
  by_cases one : piece₀ < 16
  · rw [Nat.toDigits_of_lt_base one]
    have single : ∀ piece < 16, isLinkLocalHextet (String.ofList [Nat.digitChar piece]) = false := by
      decide
    rw [single piece₀ one]
    simp
    omega
  · rw [Nat.toDigits_of_base_le (by decide) (by omega), Nat.toDigits_of_lt_base (by omega)]
    have double : ∀ x < 16, ∀ y < 16, isLinkLocalHextet
        (String.ofList [Nat.digitChar x, Nat.digitChar y]) = false := by
      decide +kernel
    rw [List.singleton_append, double _ (by omega) _ (by omega)]
    simp [eq_comm]
    omega

end Ipv6

/-! ## IPv4 -/

theorem isPrivateOrLoopbackIpv4_iff {address : BitVec 32} :
    (Js.serializeIpv4 address = "0.0.0.0" ∨
      isPrivateOrLoopbackIpv4 (Js.serializeIpv4 address) = true) ↔ InPrivateRange address := by
  have bound := address.isLt
  have octets := Js.mapM_parseInt10_serializeIpv4 address
  have unspecified : Js.serializeIpv4 address = "0.0.0.0" ↔ address.toNat = 0 := by
    constructor
    · intro same
      rw [same] at octets
      have zeros : (Js.split '.' "0.0.0.0").mapM Js.parseInt10 = some [0, 0, 0, 0] := by decide
      rw [zeros] at octets
      simp [Js.octets] at octets
      omega
    · intro zero
      have same : address = 0 := BitVec.eq_of_toNat_eq zero
      rw [same]
      decide
  rw [unspecified]
  unfold isPrivateOrLoopbackIpv4 InPrivateRange
  rw [octets]
  simp only [Js.octets, List.map_cons, List.map_nil]
  simp
  omega

/-! ## Host names -/

section Hosts

variable {api : Js.UrlApi} {parsed : api.Url} {host : Host}

/-- The text that the tests read is the one without brackets. -/
theorem normalizeHostname_serialize
    (lower : api.toLowerCase (Js.trim host.serialize) = host.serialize) :
    normalizeHostname api host.serialize = host.bare := by
  unfold normalizeHostname
  rw [lower]
  have bracket : ∀ text : String, '[' ∉ text.toList → Js.startsWith text "[" = false := by
    intro text absent
    unfold Js.startsWith
    rw [← Bool.not_eq_true, List.isPrefixOf_iff_prefix]
    intro starts
    exact absent (starts.subset (by decide))
  cases host with
  | ipv4 address =>
      have absent : '[' ∉ (Host.ipv4 address).serialize.toList := by
        intro mem
        rcases Js.mem_serializeIpv4 mem with dot | digit
        · exact absurd dot (by decide)
        · exact absurd digit (by decide)
      simp [bracket _ absent]
      rfl
  | ipv6 address =>
      have text : (Host.ipv6 address).serialize.toList =
          '[' :: ((Js.serializeIpv6 address).toList ++ [']']) := by
        simp [Host.serialize]
      have opens : Js.startsWith (Host.ipv6 address).serialize "[" = true := by
        unfold Js.startsWith
        rw [text]
        rfl
      have closes : Js.endsWith (Host.ipv6 address).serialize "]" = true := by
        unfold Js.endsWith
        rw [text, List.isSuffixOf_iff_suffix]
        exact ⟨'[' :: (Js.serializeIpv6 address).toList, rfl⟩
      have inside : Js.dropEnds (Host.ipv6 address).serialize = Js.serializeIpv6 address := by
        unfold Js.dropEnds
        rw [text]
        simp
      simp [opens, closes, inside]
      rfl
  | domain name =>
      have absent : '[' ∉ name.text.toList := by
        intro mem
        exact absurd (List.all_eq_true.1 name.valid _ mem) (by decide)
      have same : (Host.domain name).serialize = name.text := rfl
      simp [same, bracket _ absent]
      rfl

/-- No letter of `localhost` stands in an address. -/
theorem not_local {text : String} (letter : 'l' ∉ text.toList) :
    (text == "localhost") = false ∧ Js.endsWith text ".localhost" = false := by
  constructor
  · rw [beq_eq_false_iff_ne]
    intro same
    exact letter (by rw [same]; decide)
  · unfold Js.endsWith
    rw [← Bool.not_eq_true, List.isSuffixOf_iff_suffix]
    intro ends
    exact letter (ends.subset (by decide))

/-- A text that ends with a dot is no other name of the tests. -/
theorem not_local_of_dot {text : String} (dot : text.toList.getLast? = some '.') :
    (text == "localhost") = false ∧ Js.endsWith text ".localhost" = false ∧
      (text == "0.0.0.0") = false := by
  refine ⟨?_, ?_, ?_⟩
  · rw [beq_eq_false_iff_ne]
    intro same
    rw [same] at dot
    exact absurd dot (by decide)
  · unfold Js.endsWith
    rw [← Bool.not_eq_true, List.isSuffixOf_iff_suffix]
    intro ends
    obtain ⟨front, same⟩ := ends
    have last : ".localhost".toList.getLast? = some 't' := by decide
    rw [← same, List.getLast?_append, last, Option.some_or] at dot
    exact absurd dot (by decide)
  · rw [beq_eq_false_iff_ne]
    intro same
    rw [same] at dot
    exact absurd dot (by decide)

theorem getLast?_of_dotted {text : String}
    (dotted : text = "localhost." ∨ Js.endsWith text ".localhost." = true) :
    text.toList.getLast? = some '.' := by
  rcases dotted with same | ends
  · rw [same]
    decide
  · unfold Js.endsWith at ends
    obtain ⟨front, same⟩ := List.isSuffixOf_iff_suffix.1 ends
    have last : ".localhost.".toList.getLast? = some '.' := by decide
    rw [← same, List.getLast?_append, last, Option.some_or]

/-- The test that the version of an address selects. -/
def Host.isPrivateAddress : Host → Bool
  | .ipv4 address => isPrivateOrLoopbackIpv4 (Js.serializeIpv4 address)
  | .ipv6 address => isPrivateOrLoopbackIpv6 (Js.serializeIpv6 address)
  | .domain _ => false

theorem isDisallowedHostname_serialize
    (lower : api.toLowerCase (Js.trim host.serialize) = host.serialize)
    (version : api.isIP host.bare = host.version) :
    isDisallowedHostname api host.serialize =
      (host.bare == "localhost" || Js.endsWith host.bare ".localhost" ||
        host.bare == "0.0.0.0" || host.isPrivateAddress) := by
  unfold isDisallowedHostname
  rw [normalizeHostname_serialize lower]
  dsimp only
  rw [version]
  cases named : host.bare == "localhost" || Js.endsWith host.bare ".localhost" ||
    host.bare == "0.0.0.0" with
  | true => rfl
  | false =>
      rw [Bool.false_or, if_neg Bool.false_ne_true]
      cases host with
      | ipv4 address => exact if_pos rfl
      | ipv6 address =>
          have other : ¬(6 : Nat) = 4 := by decide
          exact (if_neg other).trans (if_pos rfl)
      | domain name =>
          have four : ¬(0 : Nat) = 4 := by decide
          have six : ¬(0 : Nat) = 6 := by decide
          exact (if_neg four).trans (if_neg six)

theorem disallowed_ipv4_iff {address : BitVec 32} (found : host = .ipv4 address)
    (lower : api.toLowerCase (Js.trim host.serialize) = host.serialize)
    (version : api.isIP host.bare = host.version) :
    isDisallowedHostname api host.serialize = true ↔ InPrivateRange address := by
  rw [isDisallowedHostname_serialize lower version, found]
  have letter : 'l' ∉ (Js.serializeIpv4 address).toList := by
    intro mem
    rcases Js.mem_serializeIpv4 mem with dot | digit
    · exact absurd dot (by decide)
    · exact absurd digit (by decide)
  have names := not_local letter
  unfold Host.bare Host.isPrivateAddress
  dsimp only
  rw [names.1, names.2, Bool.false_or, Bool.false_or, Bool.or_eq_true, beq_iff_eq]
  exact isPrivateOrLoopbackIpv4_iff

theorem disallowed_ipv6_iff {address : BitVec 128} (found : host = .ipv6 address)
    (lower : api.toLowerCase (Js.trim host.serialize) = host.serialize)
    (version : api.isIP host.bare = host.version) :
    isDisallowedHostname api host.serialize = true ↔
      isPrivateOrLoopbackIpv6 (Js.serializeIpv6 address) = true := by
  rw [isDisallowedHostname_serialize lower version, found]
  have absent : ∀ c, c = 'l' ∨ c = '.' → c ∉ (Js.serializeIpv6 address).toList := by
    intro c which mem
    rcases Js.mem_serializeIpv6 mem with colon | ⟨digit, small, same⟩
    · rw [colon] at which
      exact absurd which (by decide)
    · rw [same] at which
      exact which.elim (digitChar_ne small).2.2 (digitChar_ne small).2.1
  have names := not_local (absent 'l' (.inl rfl))
  have unspecified : (Js.serializeIpv6 address == "0.0.0.0") = false := by
    rw [beq_eq_false_iff_ne]
    intro same
    exact absent '.' (.inr rfl) (by rw [same]; decide)
  unfold Host.bare Host.isPrivateAddress
  dsimp only
  rw [names.1, names.2, unspecified, Bool.false_or, Bool.false_or, Bool.false_or]

theorem disallowed_domain_iff {name : DomainName} (found : host = .domain name)
    (lower : api.toLowerCase (Js.trim host.serialize) = host.serialize)
    (version : api.isIP host.bare = host.version) :
    isDisallowedHostname api host.serialize = true ↔
      name.text = "localhost" ∨ Js.endsWith name.text ".localhost" = true ∨
        name.text = "0.0.0.0" := by
  rw [isDisallowedHostname_serialize lower version, found]
  unfold Host.bare Host.isPrivateAddress
  dsimp only
  rw [Bool.or_false, Bool.or_eq_true, Bool.or_eq_true, beq_iff_eq, beq_iff_eq, or_assoc]

/-- The guard classifies the host of a web URL exactly if the text tests cover it. -/
theorem classified_iff {value : String} (parses : api.parse value = some parsed)
    (web : api.isWeb parsed) (named : api.hostname parsed = host.serialize)
    (lower : api.toLowerCase (Js.trim host.serialize) = host.serialize)
    (version : api.isIP host.bare = host.version) :
    Classified (isAllowedFetchUrl api false value) host ↔ Classifiable host := by
  have verdict : isAllowedFetchUrl api false value = false ↔
      isDisallowedHostname api host.serialize = true := by
    have http : parseHttpUrl api value = some parsed := by
      unfold parseHttpUrl
      rw [parses]
      rcases web with http | https
      · simp [http]
      · simp [https]
    unfold isAllowedFetchUrl
    rw [http]
    dsimp only
    rw [named]
    simp
  cases found : host with
  | ipv4 address =>
      unfold Classified Classifiable
      rw [verdict, disallowed_ipv4_iff found lower version]
      exact iff_of_true Iff.rfl trivial
  | ipv6 address =>
      unfold Classified
      rw [verdict, disallowed_ipv6_iff found lower version]
      by_cases small : address.toNat / 2 ^ 120 = 0
      · rw [isPrivateOrLoopbackIpv6_iff_of_small small]
        unfold InNamedBlock
        simp only [small, true_or, true_implies]
      · unfold InNamedBlock Classifiable
        apply iff_of_true
        · intro block
          exact isPrivateOrLoopbackIpv6_of_block (block.resolve_left small)
        · exact fun zero => absurd zero small
  | domain name =>
      unfold Classified Classifiable IsLocal
      rw [verdict, disallowed_domain_iff found lower version]
      have dotted : name.text = "localhost." ∨ Js.endsWith name.text ".localhost." = true →
          ¬ (name.text = "localhost" ∨ Js.endsWith name.text ".localhost" = true ∨
            name.text = "0.0.0.0") := by
        intro dot
        have names := not_local_of_dot (getLast?_of_dotted dot)
        rw [beq_eq_false_iff_ne, beq_eq_false_iff_ne] at names
        simp [names.1, names.2.1, names.2.2]
      constructor
      · intro classified
        have free : ∀ dot, False := fun dot => dotted dot (classified (.inr (.inr dot)))
        exact ⟨fun same => free (.inl same), Bool.eq_false_iff.2 fun ends => free (.inr ends)⟩
      · intro classifiable isLocal
        rcases isLocal with plain | under | dot | dots
        · exact .inl plain
        · exact .inr (.inl under)
        · exact absurd dot classifiable.1
        · exact absurd dots (Bool.eq_false_iff.1 classifiable.2)

end Hosts

/-- An address that embeds an IPv4 address in `::/96` or `::ffff:0:0/96` is classified. -/
theorem classifiable_of_embedded {address : BitVec 128} (small : address.toNat < 2 ^ 48) :
    Classifiable (.ipv6 address) :=
  fun _ => .inl (Js.compressedPieceIndex_of_small small)

/-! ### Hosts that pass -/

/-- URLs that are a host between `http://` and a slash. -/
def hostUrls : Js.UrlApi where
  Url := String
  parse value :=
    if Js.startsWith value "http://" && Js.endsWith value "/" then
      some (String.ofList (value.toList.drop 7).dropLast) else none
  protocol _ := "http:"
  hostname url := url
  port _ := ""
  pathname _ := "/"
  setHash _ url := url
  setHostname value _ := value
  setPort _ url := url
  setPathname _ url := url
  href url := "http://" ++ url ++ "/"
  isIP text := if text.toList.contains ':' then 6 else 0
  toLowerCase value := String.ofList (value.toList.map Char.toLower)

/-- `64:ff9b::a00:1`, which is `10.0.0.1` behind a NAT64 gateway. -/
def embeddedHost : Host := .ipv6 0x64ff9b00000000000000000a000001

theorem classified_iff_embedded :
    Classified (isAllowedFetchUrl hostUrls false "http://[64:ff9b::a00:1]/") embeddedHost ↔
      Classifiable embeddedHost :=
  @classified_iff hostUrls "[64:ff9b::a00:1]" embeddedHost "http://[64:ff9b::a00:1]/" rfl (.inl rfl)
    (by decide) (by decide) (by decide)

/-- An address in `::/8` with a private one inside, and `localhost` with a dot, are fetched. -/
theorem private_hosts_allowed :
    isAllowedFetchUrl hostUrls false "http://[64:ff9b::a00:1]/" = true ∧
      embeddedHost.serialize = "[64:ff9b::a00:1]" ∧
      (0x64ff9b00000000000000000a000001 : BitVec 128).toNat / 2 ^ 120 = 0 ∧
      isAllowedFetchUrl hostUrls false "http://localhost./" = true := by
  decide

end RisingIntelligence
