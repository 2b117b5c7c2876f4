import MockKeeper.Http.Uri
import MockKeeper.Proofs.HeaderMaps
import Mathlib.Data.List.Nodup

/-! What becomes of all headers of a map when they cross the proxy or are recorded. A header map
is its names in order with the values of each name; a copy follows the order of its source, and
leaves out whole names. -/

namespace MockKeeper

theorem HeaderName.ofBytes?_lower (spelling : Bytes) :
    ofBytes? (spelling.map Uri.lowerByte) = ofBytes? spelling := by
  have token : ∀ byte, isTokenByte (Uri.lowerByte byte) = isTokenByte byte := by
    have each : ∀ number : Fin 256, isTokenByte (Uri.lowerByte (UInt8.ofFin number)) =
        isTokenByte (UInt8.ofFin number) := by
      decide +kernel
    exact fun byte => each byte.toFin
  have small : ∀ byte, (Char.ofNat (Uri.lowerByte byte).toNat).toLower = (Char.ofNat byte.toNat).toLower := by
    have each : ∀ number : Fin 256, (Char.ofNat (Uri.lowerByte (UInt8.ofFin number)).toNat).toLower =
        (Char.ofNat (UInt8.ofFin number).toNat).toLower := by
      decide +kernel
    exact fun byte => each byte.toFin
  unfold ofBytes?
  simp only [List.isEmpty_map, List.length_map, List.all_map, List.map_map, Function.comp_def, token, small]

namespace HeaderMap

def given (map : HeaderMap) : List HeaderName := map.names.filter fun name => map.values name ≠ []

def without (map : HeaderMap) (dropped : List HeaderName) : HeaderMap where
  entries := map.entries.filter fun entry => entry.1 ∉ dropped
  distinct := map.distinct.sublist (List.filter_sublist.map Prod.fst)

theorem names_nodup (map : HeaderMap) : map.names.Nodup := map.distinct

private theorem entries_of_lookup {entries : List (HeaderName × List HeaderValue)}
    (distinct : (entries.map Prod.fst).Nodup) :
    entries = (entries.map Prod.fst).map fun name => (name, (entries.lookup name).getD []) := by
  induction entries with
  | nil => rfl
  | cons entry rest ih =>
    obtain ⟨first, values⟩ := entry
    rw [List.map_cons, List.nodup_cons] at distinct
    rw [List.map_cons, List.map_cons, List.lookup_cons_self, Option.getD_some]
    congr 1
    refine (ih distinct.2).trans (List.map_congr_left fun name member => ?_)
    have other : name ≠ first := fun same => distinct.1 (same ▸ member)
    rw [List.lookup_cons, beq_false_of_ne other]

theorem entries_eq (map : HeaderMap) : map.entries = map.names.map fun name => (name, map.values name) :=
  entries_of_lookup map.distinct

theorem toList_eq (map : HeaderMap) :
    map.toList = map.names.flatMap fun name => (map.values name).map (name, ·) := by
  rw [toList, entries_eq, List.flatMap_map]

/-- Maps with the same names in the same order and the same values are the same. -/
theorem eq_of_values {left right : HeaderMap} (names : left.names = right.names)
    (values : ∀ name, left.values name = right.values name) : left = right := by
  have same : left.entries = right.entries := by
    rw [entries_eq left, entries_eq right, names]
    simp only [values]
  cases left
  cases right
  cases same
  rfl

private theorem names_appendEntry (name : HeaderName) (value : HeaderValue)
    (entries : List (HeaderName × List HeaderValue)) :
    (appendEntry name value entries).map Prod.fst =
      if name ∈ entries.map Prod.fst then entries.map Prod.fst else entries.map Prod.fst ++ [name] := by
  induction entries with
  | nil => rfl
  | cons entry rest ih =>
    obtain ⟨first, values⟩ := entry
    unfold appendEntry
    by_cases same : first = name
    · simp [same]
    · rw [if_neg same, List.map_cons, ih]
      by_cases known : name ∈ rest.map Prod.fst <;> simp [known, Ne.symm same]

theorem names_append (map : HeaderMap) (name : HeaderName) (value : HeaderValue) :
    (map.append name value).names = if name ∈ map.names then map.names else map.names ++ [name] :=
  names_appendEntry name value map.entries

theorem appendAll_append (map : HeaderMap) (first last : List (HeaderName × HeaderValue)) :
    map.appendAll (first ++ last) = (map.appendAll first).appendAll last := by
  simp only [appendAll, List.foldl_append]

theorem names_appendAll_same (map : HeaderMap) (name : HeaderName) (values : List HeaderValue) :
    (map.appendAll (values.map (name, ·))).names =
      if name ∈ map.names ∨ values = [] then map.names else map.names ++ [name] := by
  induction values generalizing map with
  | nil => simp [appendAll]
  | cons value rest ih =>
    change ((map.append name value).appendAll (rest.map (name, ·))).names = _
    rw [ih, names_append]
    by_cases known : name ∈ map.names <;> simp [known]

theorem names_appendAll_grouped (map : HeaderMap) {names : List HeaderName} (distinct : names.Nodup)
    (values : HeaderName → List HeaderValue) :
    (map.appendAll (names.flatMap fun name => (values name).map (name, ·))).names =
      map.names ++ names.filter fun name => name ∉ map.names ∧ values name ≠ [] := by
  induction names generalizing map with
  | nil => simp [appendAll]
  | cons name rest ih =>
    rw [List.nodup_cons] at distinct
    rw [List.flatMap_cons, appendAll_append, ih _ distinct.2, names_appendAll_same, List.filter_cons]
    by_cases known : name ∈ map.names ∨ values name = []
    · have skipped : ¬ (name ∉ map.names ∧ values name ≠ []) := by tauto
      rw [if_pos known, if_neg (by simpa using skipped)]
    · have taken : name ∉ map.names ∧ values name ≠ [] := by tauto
      rw [if_neg known, if_pos (by simpa using taken), List.append_assoc, List.singleton_append]
      congr 2
      apply List.filter_congr
      intro other member
      have different : other ≠ name := fun same => distinct.1 (same ▸ member)
      simp [different]

theorem names_without (map : HeaderMap) (dropped : List HeaderName) :
    (map.without dropped).names = map.names.filter (· ∉ dropped) := by
  unfold without names
  rw [List.filter_map]
  rfl

theorem values_without (map : HeaderMap) (dropped : List HeaderName) (name : HeaderName) :
    (map.without dropped).values name = if name ∈ dropped then [] else map.values name := by
  obtain ⟨entries, distinct⟩ := map
  unfold without values
  dsimp only
  clear distinct
  induction entries with
  | nil => simp
  | cons entry rest ih =>
    obtain ⟨first, values⟩ := entry
    by_cases gone : first ∈ dropped
    · rw [List.filter_cons_of_neg (by simpa using gone), ih, List.lookup_cons]
      by_cases same : name = first
      · simp [same, gone]
      · rw [beq_false_of_ne same]
    · rw [List.filter_cons_of_pos (by simpa using gone), List.lookup_cons, List.lookup_cons]
      by_cases same : name = first
      · simp [same, gone]
      · rw [beq_false_of_ne same]
        exact ih

theorem given_appendAll {map : HeaderMap} (given : map.given = map.names)
    (pairs : List (HeaderName × HeaderValue)) : (map.appendAll pairs).given = (map.appendAll pairs).names := by
  induction pairs generalizing map with
  | nil => exact given
  | cons pair rest ih =>
    apply ih
    rw [HeaderMap.given, List.filter_eq_self] at given ⊢
    intro name member
    rw [names_append] at member
    rw [values_append]
    by_cases same : name = pair.1
    · simp [same]
    · have old : name ∈ map.names := by
        split at member <;> simp_all
      simpa [same] using given name old

theorem given_without (map : HeaderMap) (dropped : List HeaderName) :
    (map.without dropped).given = map.given.filter (· ∉ dropped) := by
  rw [given, given, names_without, List.filter_filter, List.filter_filter]
  apply List.filter_congr
  intro name _
  by_cases gone : name ∈ dropped <;> simp [values_without, gone]

section Copying
variable (holds : HeaderName → Bool)

theorem names_copied (source destination : HeaderMap) :
    (destination.appendAll (source.toList.filter fun pair => holds pair.1)).names =
      destination.names ++ source.given.filter fun name => name ∉ destination.names ∧ holds name := by
  have grouped : source.toList.filter (fun pair => holds pair.1) =
      source.names.flatMap fun name => (if holds name then source.values name else []).map (name, ·) := by
    rw [toList_eq, List.filter_flatMap]
    congr 1
    funext name
    by_cases kept : holds name = true <;> simp [List.filter_map, Function.comp_def, kept]
  rw [grouped, names_appendAll_grouped destination source.names_nodup fun name =>
    if holds name then source.values name else [], given, List.filter_filter]
  congr 1
  apply List.filter_congr
  intro name _
  by_cases kept : holds name = true <;> simp [kept]

def copied (source : HeaderMap) : HeaderMap := empty.appendAll (source.toList.filter fun pair => holds pair.1)

variable {holds} {source : HeaderMap}

theorem copied_names : (copied holds source).names = source.given.filter holds := by
  rw [copied, names_copied]
  simp [empty, names]

theorem copied_values (name : HeaderName) :
    (copied holds source).values name = if holds name then source.values name else [] := by
  rw [copied, values_appendAll, values_empty, List.nil_append, valuesIn_filter holds, valuesIn_toList]

theorem copied_given : (copied holds source).given = source.given.filter holds := by
  rw [copied, given_appendAll rfl, ← copied, copied_names]

theorem copied_copied : copied holds (copied holds source) = copied holds source := by
  apply eq_of_values
  · rw [copied_names, copied_given, copied_names, List.filter_filter]
    simp only [Bool.and_self]
  · intro name
    rw [copied_values, copied_values]
    by_cases kept : holds name = true <;> simp [kept]

variable {fewer : HeaderName → Bool} {dropped : List HeaderName}

theorem copied_without (both : ∀ name, fewer name = (holds name && name ∉ dropped)) :
    copied fewer source = (copied holds source).without dropped := by
  apply eq_of_values
  · rw [names_without, copied_names, copied_names, List.filter_filter]
    apply List.filter_congr
    intro name _
    rw [both, Bool.and_comm]
  · intro name
    rw [values_without, copied_values, copied_values, both]
    by_cases gone : name ∈ dropped <;> simp [gone]

theorem copied_of_without (both : ∀ name, fewer name = (holds name && name ∉ dropped)) :
    copied fewer source = copied holds (source.without dropped) := by
  apply eq_of_values
  · rw [copied_names, copied_names, given_without, List.filter_filter]
    apply List.filter_congr
    intro name _
    exact both name
  · intro name
    rw [copied_values, copied_values, values_without, both]
    by_cases gone : name ∈ dropped <;> simp [gone]

end Copying

end HeaderMap

namespace Proxy

def Withheld (direction : Direction) (name : HeaderName) : Prop :=
  name ∈ hopByHopNames ∨ direction = .clientToUpstream ∧ name = hostName

instance (direction : Direction) (name : HeaderName) : Decidable (Withheld direction name) :=
  inferInstanceAs (Decidable (_ ∨ _))

theorem forwards_iff {direction : Direction} {name : HeaderName} :
    forwards direction name = true ↔ ¬ Withheld direction name := by
  simp only [forwards, isHopByHop, Withheld, Bool.and_eq_true, Bool.not_eq_true', List.contains_eq_mem,
    decide_eq_false_iff_not, Bool.and_eq_false_iff, beq_eq_false_iff_ne, not_or, not_and_or]

theorem forwards_upstream (name : HeaderName) :
    forwards .clientToUpstream name = (forwards .upstreamToClient name && name ∉ [hostName]) := by
  have back : (Direction.upstreamToClient == .clientToUpstream) = false := rfl
  by_cases host : name = hostName <;> simp [forwards, back, host]

theorem records_eq (name : HeaderName) :
    records name = (forwards .upstreamToClient name && name ∉ unrecordableNames) := by
  have back : (Direction.upstreamToClient == .clientToUpstream) = false := rfl
  simp [records, forwards, isUnrecordable, back]

/-- A header that may cross is added with all its values, behind those that are there, and one
that may not changes nothing. Names stay in the order in which they first came; every name of a
map that was put together has a value, and capital letters make no other name. A copy by itself
can be made again; towards the upstream it is the client's without the host; a recording is what
the client gets without the caching headers, whichever of the two are dropped first. -/
theorem headers_cross_whole (direction : Direction) (source destination : HeaderMap) :
    (∀ name, (filterInto direction source destination).values name =
        destination.values name ++ if Withheld direction name then [] else source.values name) ∧
      ((filterInto direction source destination).names = destination.names ++
        source.given.filter fun name => name ∉ destination.names ∧ ¬ Withheld direction name) ∧
      (∀ pairs, (HeaderMap.empty.appendAll pairs).given = (HeaderMap.empty.appendAll pairs).names) ∧
      (∀ spelling : Bytes, HeaderName.ofBytes? (spelling.map Uri.lowerByte) = HeaderName.ofBytes? spelling) ∧
      filterInto direction (filterInto direction source .empty) .empty = filterInto direction source .empty ∧
      filterInto .clientToUpstream source .empty =
        (filterInto .upstreamToClient source .empty).without [hostName] ∧
      recordable source = (filterInto .upstreamToClient source .empty).without unrecordableNames ∧
      recordable source = filterInto .upstreamToClient (source.without unrecordableNames) .empty := by
  refine ⟨?_, ?_, ?_, HeaderName.ofBytes?_lower, ?_, ?_, ?_, ?_⟩
  · intro name
    rw [values_filterInto]
    by_cases crosses : forwards direction name = true
    · rw [if_pos crosses, if_neg (forwards_iff.mp crosses)]
    · rw [if_neg crosses, if_pos (not_not.mp fun allowed => crosses (forwards_iff.mpr allowed))]
  · rw [filterInto, HeaderMap.names_copied]
    simp only [forwards_iff]
  · exact fun pairs => HeaderMap.given_appendAll rfl pairs
  · exact HeaderMap.copied_copied
  · exact HeaderMap.copied_without forwards_upstream
  · exact HeaderMap.copied_without records_eq
  · exact HeaderMap.copied_of_without records_eq

/-- Headers of one connection, of the host, for caches, and of the message itself. -/
def mixedHeaders : HeaderMap := HeaderMap.empty.appendAll
  ((["accept-encoding", "connection", "keep-alive", "proxy-authenticate", "proxy-authorization", "te",
      "trailers", "transfer-encoding", "upgrade", "host", "accept-ranges", "age", "cache-control",
      "content-length", "date", "etag", "expires", "last-modified", "server", "vary", "content-type",
      "x-request-id"] : List String).map fun name => (⟨name⟩, ⟨ascii "1"⟩))

/-- Each name of the first two kinds is withheld, and each of the third is not recorded. -/
theorem mixed_headers_cross :
    (filterInto .clientToUpstream mixedHeaders .empty).names.map HeaderName.text =
      ["accept-ranges", "age", "cache-control", "content-length", "date", "etag", "expires", "last-modified",
        "server", "vary", "content-type", "x-request-id"] ∧
    (filterInto .upstreamToClient mixedHeaders .empty).names.map HeaderName.text =
      ["host", "accept-ranges", "age", "cache-control", "content-length", "date", "etag", "expires",
        "last-modified", "server", "vary", "content-type", "x-request-id"] ∧
    (recordable mixedHeaders).names.map HeaderName.text = ["host", "content-type", "x-request-id"] := by
  obtain ⟨-, sent, -⟩ := headers_cross_whole .clientToUpstream mixedHeaders .empty
  obtain ⟨-, returned, -⟩ := headers_cross_whole .upstreamToClient mixedHeaders .empty
  obtain ⟨-, -, -, -, -, -, -, recorded⟩ := headers_cross_whole .upstreamToClient mixedHeaders .empty
  obtain ⟨-, kept, -⟩ := headers_cross_whole .upstreamToClient (mixedHeaders.without unrecordableNames) .empty
  refine ⟨?_, ?_, ?_⟩
  · rw [sent]
    decide +kernel
  · rw [returned]
    decide +kernel
  · rw [recorded, kept]
    decide +kernel

end Proxy

end MockKeeper
