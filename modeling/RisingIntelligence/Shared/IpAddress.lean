import RisingIntelligence.Shared.JsString
import Mathlib.Data.List.Basic

/-!
# Addresses as text

How the host of a URL writes an address, after the URL standard: an IPv4 address as four decimal
numbers, an IPv6 address as eight hexadecimal pieces of which the first longest run of zeros, if it
is longer than one piece, is left out.

* `compressedPieceIndex` is where that run begins.
* `serializeIpv6_eq` is the text up to its first colon; it decides what the text starts with.
-/

namespace RisingIntelligence.Js

/-! ## Digits -/

theorem mem_toDigits {radix n : Nat} {c : Char} (large : 1 < radix)
    (mem : c ∈ Nat.toDigits radix n) : ∃ digit < radix, c = Nat.digitChar digit := by
  induction n using Nat.strongRecOn with
  | ind n ih =>
      rw [Nat.toDigits_eq_if large] at mem
      split at mem
      · rename_i small
        exact ⟨n, small, List.mem_singleton.1 mem⟩
      · rename_i longer
        have positive : 0 < n := by omega
        rcases List.mem_append.1 mem with front | last
        · exact ih (n / radix) (Nat.div_lt_self positive large) front
        · exact ⟨n % radix, Nat.mod_lt n (by omega), List.mem_singleton.1 last⟩

/-- Four hexadecimal digits. -/
theorem toDigits_sixteen {n : Nat} (four : 0x1000 ≤ n) (small : n < 0x10000) :
    Nat.toDigits 16 n = [Nat.digitChar (n / 4096), Nat.digitChar (n / 256 % 16),
      Nat.digitChar (n / 16 % 16), Nat.digitChar (n % 16)] := by
  rw [Nat.toDigits_of_base_le (by decide) (by omega),
    Nat.toDigits_of_base_le (by decide) (by omega),
    Nat.toDigits_of_base_le (by decide) (by omega), Nat.toDigits_of_lt_base (by omega)]
  simp [Nat.div_div_eq_div_mul]

/-! ## IPv4 -/

/-- The four octets. -/
def octets (address : BitVec 32) : List Nat :=
  [address.toNat / 2 ^ 24, address.toNat / 2 ^ 16 % 256, address.toNat / 2 ^ 8 % 256,
    address.toNat % 256]

def joinDots : List (List Char) → List Char
  | [] => []
  | [last] => last
  | first :: rest => first ++ '.' :: joinDots rest

/-- The IPv4 serializer. -/
def serializeIpv4 (address : BitVec 32) : String :=
  String.ofList (joinDots ((octets address).map (Nat.toDigits 10)))

theorem dot_notMem_toDigits (n : Nat) : '.' ∉ Nat.toDigits 10 n := by
  intro mem
  have digit := Nat.isDigit_of_mem_toDigits (by decide) (by decide) mem
  exact absurd digit (by decide)

theorem splitOn_joinDots {numbers : List Nat} (some : numbers ≠ []) :
    (joinDots (numbers.map (Nat.toDigits 10))).splitOn '.' = numbers.map (Nat.toDigits 10) := by
  induction numbers with
  | nil => exact absurd rfl some
  | cons first rest ih =>
      cases rest with
      | nil => exact List.splitOn_eq_singleton (dot_notMem_toDigits first)
      | cons second rest =>
          change (Nat.toDigits 10 first ++ '.' ::
            joinDots ((second :: rest).map (Nat.toDigits 10))).splitOn '.' = _
          rw [List.splitOn_append_cons_self_of_not_mem (dot_notMem_toDigits first),
            ih (List.cons_ne_nil _ _)]
          rfl

theorem mem_joinDots {parts : List (List Char)} {c : Char} (mem : c ∈ joinDots parts) :
    c = '.' ∨ ∃ part ∈ parts, c ∈ part := by
  fun_induction joinDots parts with
  | case1 => exact absurd mem List.not_mem_nil
  | case2 last => exact .inr ⟨last, List.mem_singleton_self last, mem⟩
  | case3 first rest _ ih =>
      rcases List.mem_append.1 mem with here | later
      · exact .inr ⟨first, List.mem_cons_self, here⟩
      · rcases List.mem_cons.1 later with dot | later
        · exact .inl dot
        · rcases ih later with dot | ⟨part, found, there⟩
          · exact .inl dot
          · exact .inr ⟨part, List.mem_cons_of_mem first found, there⟩

/-- The text reads back as the octets. -/
theorem mapM_parseInt10_serializeIpv4 (address : BitVec 32) :
    (split '.' (serializeIpv4 address)).mapM parseInt10 =
      some ((octets address).map Int.ofNat) := by
  have parts := @splitOn_joinDots (octets address) (List.cons_ne_nil _ _)
  have reads : ∀ n : Nat, parseInt10 (String.ofList (Nat.toDigits 10 n)) = some (Int.ofNat n) := by
    intro n
    have text : String.ofList (Nat.toDigits 10 n) = toString (n : Int) := by
      apply String.toList_inj.1
      rw [String.toList_ofList]
      exact Nat.toList_repr.symm
    rw [text]
    exact parseInt10_toString n
  unfold split serializeIpv4
  rw [String.toList_ofList, parts, List.map_map]
  simp [octets, reads]

theorem mem_serializeIpv4 {address : BitVec 32} {c : Char}
    (mem : c ∈ (serializeIpv4 address).toList) : c = '.' ∨ c.isDigit = true := by
  unfold serializeIpv4 at mem
  rw [String.toList_ofList] at mem
  rcases mem_joinDots mem with dot | ⟨part, found, here⟩
  · exact .inl dot
  · obtain ⟨n, -, rfl⟩ := List.mem_map.1 found
    exact .inr (Nat.isDigit_of_mem_toDigits (by decide) (by decide) here)

/-! ## IPv6 -/

/-- The eight pieces. -/
def pieces (address : BitVec 128) : List Nat :=
  [7, 6, 5, 4, 3, 2, 1, 0].map fun place => address.toNat / 2 ^ (16 * place) % 2 ^ 16

/-- The search for the longest run of zeros, with the run that is being read. -/
structure RunSearch where
  longestIndex : Option Nat
  longestSize : Nat
  foundIndex : Option Nat
  foundSize : Nat

def RunSearch.close (search : RunSearch) : RunSearch :=
  if search.foundSize > search.longestSize then ⟨search.foundIndex, search.foundSize, none, 0⟩
  else ⟨search.longestIndex, search.longestSize, none, 0⟩

def searchRuns : Nat → RunSearch → List Nat → RunSearch
  | _, search, [] => search.close
  | index, search, piece :: rest =>
      if piece = 0 then
        searchRuns (index + 1) { search with
          foundIndex := some (search.foundIndex.getD index)
          foundSize := search.foundSize + 1 } rest
      else searchRuns (index + 1) search.close rest

/-- The IPv6 address compressed piece index. -/
def compressedPieceIndex (pieces : List Nat) : Option Nat :=
  (searchRuns 0 ⟨none, 1, none, 0⟩ pieces).longestIndex

def serializePieces (compress : Option Nat) : Bool → Nat → List Nat → List Char
  | _, _, [] => []
  | ignore0, index, piece :: rest =>
      if ignore0 && piece == 0 then serializePieces compress true (index + 1) rest
      else if compress = some index then
        (if index = 0 then [':', ':'] else [':']) ++ serializePieces compress true (index + 1) rest
      else
        Nat.toDigits 16 piece ++ (if index = 7 then [] else [':']) ++
          serializePieces compress false (index + 1) rest

/-- The IPv6 serializer. -/
def serializeIpv6 (address : BitVec 128) : String :=
  String.ofList (serializePieces (compressedPieceIndex (pieces address)) false 0 (pieces address))

example : serializeIpv6 0x64ff9b00000000000000000a000001 = "64:ff9b::a00:1" := by decide

/-- The first piece; a smaller address than `2 ^ 120` has one below `256`. -/
theorem first_piece (address : BitVec 128) :
    address.toNat / 2 ^ (16 * 7) % 2 ^ 16 = address.toNat / 2 ^ 112 := by
  have bound := address.isLt
  omega

theorem serializeIpv6_eq (address : BitVec 128) :
    ∃ rest, (serializeIpv6 address).toList =
      (if compressedPieceIndex (pieces address) = some 0 then [':'] else
        Nat.toDigits 16 (address.toNat / 2 ^ 112)) ++ ':' :: rest := by
  have split : ∃ rest, pieces address = address.toNat / 2 ^ 112 :: rest :=
    ⟨_, congrArg (· :: _) (first_piece address)⟩
  obtain ⟨rest, split⟩ := split
  unfold serializeIpv6
  rw [String.toList_ofList]
  generalize compressedPieceIndex (pieces address) = compress
  rw [split]
  unfold serializePieces
  by_cases leading : compress = some 0
  · exact ⟨serializePieces compress true 1 rest, by simp [leading]⟩
  · exact ⟨serializePieces compress false 1 rest, by simp [leading]⟩

theorem mem_serializePieces {compress : Option Nat} {ignore0 : Bool} {index : Nat}
    {pieces : List Nat} {c : Char} (mem : c ∈ serializePieces compress ignore0 index pieces) :
    c = ':' ∨ ∃ digit < 16, c = Nat.digitChar digit := by
  induction pieces generalizing ignore0 index with
  | nil => exact absurd mem List.not_mem_nil
  | cons piece rest ih =>
      unfold serializePieces at mem
      split at mem
      · exact ih mem
      · split at mem
        · rcases List.mem_append.1 mem with colons | later
          · left
            split at colons <;> simpa using colons
          · exact ih later
        · rcases List.mem_append.1 mem with front | later
          · rcases List.mem_append.1 front with digits | colon
            · exact .inr (mem_toDigits (by decide) digits)
            · left
              split at colon
              · exact absurd colon List.not_mem_nil
              · exact List.mem_singleton.1 colon
          · exact ih later

theorem mem_serializeIpv6 {address : BitVec 128} {c : Char}
    (mem : c ∈ (serializeIpv6 address).toList) :
    c = ':' ∨ ∃ digit < 16, c = Nat.digitChar digit := by
  unfold serializeIpv6 at mem
  rw [String.toList_ofList] at mem
  exact mem_serializePieces mem

/-- Five zeros are the longest run. -/
theorem compressedPieceIndex_of_zeros (a b c : Nat) :
    compressedPieceIndex [0, 0, 0, 0, 0, a, b, c] = some 0 := by
  unfold compressedPieceIndex
  by_cases ha : a = 0 <;> by_cases hb : b = 0 <;> by_cases hc : c = 0 <;>
    simp [searchRuns, RunSearch.close, ha, hb, hc]

/-- An address that embeds an IPv4 address in `::/96` or `::ffff:0:0/96` begins with its longest
run. -/
theorem compressedPieceIndex_of_small {address : BitVec 128} (small : address.toNat < 2 ^ 48) :
    compressedPieceIndex (pieces address) = some 0 := by
  have zeros : ∀ place, 3 ≤ place → address.toNat / 2 ^ (16 * place) % 2 ^ 16 = 0 := by
    intro place high
    have power : 2 ^ 48 ≤ 2 ^ (16 * place) := Nat.pow_le_pow_right (by decide) (by omega)
    rw [Nat.div_eq_of_lt (by omega)]
    rfl
  unfold pieces
  simp only [List.map_cons, List.map_nil, zeros 7 (by decide), zeros 6 (by decide),
    zeros 5 (by decide), zeros 4 (by decide), zeros 3 (by decide)]
  exact compressedPieceIndex_of_zeros _ _ _

end RisingIntelligence.Js
