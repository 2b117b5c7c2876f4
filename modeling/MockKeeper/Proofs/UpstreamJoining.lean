import MockKeeper.Proofs.UriReading
import MockKeeper.Proxy.Join

/-! Joining a request to the base URL of the upstream. A join is the base in its parts with the
request's own path and query behind, so the reading of the joined text never moves the seam. -/

namespace MockKeeper.Proxy
open Uri
open PathAndQuery (isPathByte written queryText withoutFragment cut)

/-- What may stand behind the separator of a base: an authority, and a path that starts with a slash
where there is one. -/
structure Address (authority path : Bytes) : Prop where
  host : IsAuthority authority
  given : authority ≠ []
  rooted : ∀ byte ∈ path.head?, byte = 0x2F
  plain : ∀ byte ∈ path, isPathByte byte = true

/-- A base to which requests can be joined, in its parts. -/
structure Joinable (base scheme authority path : Bytes) : Prop extends Address authority path where
  text : base = scheme ++ ascii "://" ++ (authority ++ path)
  web : IsWebScheme scheme

/-- The path and query of a request with the slashes at its front taken away. -/
def suffix (uri : Uri) : PathAndQuery := ⟨dropLeadingSlashes uri.pathAndQuery.path, uri.pathAndQuery.query⟩

section Slashes

theorem dropTrailingSlashes_prefix (bytes : Bytes) :
    ∃ slashes, bytes = dropTrailingSlashes bytes ++ slashes ∧ ∀ byte ∈ slashes, byte = 0x2F := by
  refine ⟨(bytes.reverse.takeWhile (· == 0x2F)).reverse, ?_, ?_⟩
  · rw [dropTrailingSlashes, ← List.reverse_append, List.takeWhile_append_dropWhile, List.reverse_reverse]
  · intro byte member
    simpa using List.mem_takeWhile_imp (List.mem_reverse.mp member)

theorem dropTrailingSlashes_last (bytes : Bytes) : ∀ byte ∈ (dropTrailingSlashes bytes).getLast?, byte ≠ 0x2F := by
  intro byte last
  have stops := List.head?_dropWhile_not (· == 0x2F) bytes.reverse
  rw [dropTrailingSlashes, List.getLast?_reverse] at last
  rw [last] at stops
  simpa using stops

theorem dropTrailingSlashes_append {kept slashes : Bytes} (last : ∀ byte ∈ kept.getLast?, byte ≠ 0x2F)
    (slashed : ∀ byte ∈ slashes, byte = 0x2F) : dropTrailingSlashes (kept ++ slashes) = kept := by
  have back : ∀ byte ∈ slashes.reverse, (byte == 0x2F) = true := by simpa using slashed
  rw [dropTrailingSlashes, List.reverse_append, List.dropWhile_append_of_pos back]
  cases reversed : kept.reverse with
  | nil => simpa using reversed.symm
  | cons byte before =>
    have other : (byte == 0x2F) = false := by
      have ended : kept.getLast? = some byte := by rw [← List.head?_reverse, reversed]; rfl
      exact beq_eq_false_iff_ne.mpr (last byte ended)
    rw [List.dropWhile_cons_of_neg (by simp [other]), ← reversed, List.reverse_reverse]

theorem dropLeadingSlashes_head (bytes : Bytes) : ∀ byte ∈ (dropLeadingSlashes bytes).head?, byte ≠ 0x2F := by
  intro byte first
  have stops := List.head?_dropWhile_not (· == 0x2F) bytes
  rw [dropLeadingSlashes] at first
  rw [first] at stops
  simpa using stops

theorem dropLeadingSlashes_requestTarget {bytes : Bytes} {uri : Uri} (read : Uri.ofBytes bytes = .ok uri) :
    dropLeadingSlashes (requestTarget uri) = (suffix uri).written := by
  have asked : requestTarget uri = uri.pathAndQuery.text := by
    unfold requestTarget pathAndQuery?
    split
    next => rfl
    next bare =>
      rw [target_of_no_path read (Bool.not_eq_true _ ▸ bare)]
      rfl
  have marked : uri.pathAndQuery.queryText.dropWhile (· == 0x2F) = uri.pathAndQuery.queryText := by
    unfold queryText
    split <;> rfl
  have kept : dropLeadingSlashes uri.pathAndQuery.written = (suffix uri).written := by
    rw [dropLeadingSlashes, written, List.dropWhile_append, marked]
    split
    next gone =>
      rw [written, suffix, dropLeadingSlashes, List.isEmpty_iff.mp gone]
      rfl
    next => rfl
  rw [asked, PathAndQuery.text_eq]
  split
  next empty =>
    rw [List.isEmpty_iff.mp empty] at kept
    rw [← kept]
    rfl
  next => exact kept

theorem suffix_sound {bytes : Bytes} {uri : Uri} (read : Uri.ofBytes bytes = .ok uri) : (suffix uri).Sound := by
  have sound := target_sound read
  refine ⟨fun byte member => sound.path byte ((List.dropWhile_suffix _).subset member), sound.query, ?_⟩
  have whole : uri.pathAndQuery.written =
      uri.pathAndQuery.path.takeWhile (· == 0x2F) ++ (suffix uri).written := by
    simp only [written, suffix, dropLeadingSlashes]
    rw [← List.append_assoc, List.takeWhile_append_dropWhile]
    rfl
  have utf8 := sound.utf8
  rw [whole] at utf8
  refine utf8.behind fun byte member => ?_
  have slash : byte = 0x2F := by simpa using List.mem_takeWhile_imp member
  rw [slash]
  decide

end Slashes

theorem first_mark {mark : UInt8} {front front' back back' : Bytes} (free : mark ∉ front) (free' : mark ∉ front')
    (same : front ++ mark :: back = front' ++ mark :: back') : front = front' ∧ back = back' := by
  rcases List.append_eq_append_iff.mp same with ⟨more, rfl, behind⟩ | ⟨more, rfl, behind⟩
  · cases more with
    | nil => exact ⟨(List.append_nil _).symm, (List.cons.inj behind).2⟩
    | cons byte more =>
      obtain ⟨rfl, -⟩ := List.cons.inj behind
      exact absurd (List.mem_append_right _ List.mem_cons_self) free'
  · cases more with
    | nil => exact ⟨List.append_nil _, (List.cons.inj behind).2.symm⟩
    | cons byte more =>
      obtain ⟨rfl, -⟩ := List.cons.inj behind
      exact absurd (List.mem_append_right _ List.mem_cons_self) free

theorem separator_in_base {base rest scheme after : Bytes} (last : ∀ byte ∈ base.getLast?, byte ≠ 0x2F)
    (first : ∀ byte ∈ rest.head?, byte ≠ 0x2F) (web : IsWebScheme scheme)
    (text : base ++ 0x2F :: rest = scheme ++ ascii "://" ++ after) :
    ∃ more, base = scheme ++ ascii "://" ++ more ∧ after = more ++ 0x2F :: rest := by
  have colon : 0x2F ∉ scheme ++ [0x3A] := by simpa using web.no_slash
  have spelled : base ++ 0x2F :: rest = (scheme ++ [0x3A]) ++ 0x2F :: 0x2F :: after := by
    rw [text, ascii_separator]
    simp
  -- A base without a slash would end at the colon, and leave the second slash to the request.
  by_cases slashed : 0x2F ∈ base
  · obtain ⟨front, back, rfl, before⟩ := List.eq_append_cons_of_mem slashed
    rw [List.append_assoc, List.cons_append] at spelled
    obtain ⟨rfl, behind⟩ := first_mark before colon spelled
    cases back with
    | nil => exact absurd rfl (last 0x2F (by simp))
    | cons byte more =>
      obtain ⟨rfl, rfl⟩ := List.cons.inj behind
      refine ⟨more, ?_, rfl⟩
      rw [ascii_separator]
      simp
  · obtain ⟨-, rfl⟩ := first_mark slashed colon spelled
    exact absurd rfl (first 0x2F rfl)

theorem behind_separator {scheme scheme' after after' : Bytes} (web : IsWebScheme scheme) (web' : IsWebScheme scheme')
    (same : scheme ++ ascii "://" ++ after = scheme' ++ ascii "://" ++ after') : after = after' := by
  rw [ascii_separator, List.append_assoc, List.append_assoc] at same
  obtain ⟨-, behind⟩ := first_mark (web.not_mem (by decide)) (web'.not_mem (by decide)) same
  exact (List.cons.inj (List.cons.inj behind).2).2

theorem web_of_refusal {uri : Uri} (used : refusal? uri = none) :
    ∃ scheme, uri.scheme = some scheme ∧ (scheme = ascii "http" ∨ scheme = ascii "https") ∧ uri.authority ≠ [] := by
  unfold refusal? at used
  split at used
  next => cases used
  next scheme named =>
    split at used
    next => cases used
    next known =>
      split at used
      next => cases used
      next given =>
        refine ⟨scheme, named, ?_, by simpa using given⟩
        by_cases http : scheme = ascii "http"
        · exact .inl http
        · exact .inr (by simpa [http] using known)

theorem authority_in_base {more rest authority behind : Bytes} (within : ∀ byte ∈ authority, endsAuthority byte = false)
    (text : more ++ 0x2F :: rest = authority ++ behind) :
    ∃ path, more = authority ++ path ∧ behind = path ++ 0x2F :: rest := by
  rcases List.append_eq_append_iff.mp text with ⟨left, rfl, slashed⟩ | ⟨path, rfl, rfl⟩
  · cases left with
    | nil => exact ⟨[], by simp, slashed.symm⟩
    | cons byte left =>
      obtain ⟨rfl, -⟩ := List.cons.inj slashed
      have inside := within 0x2F (by simp)
      exact absurd inside (by decide)
  · exact ⟨path, rfl, rfl⟩

/-- A joined text that is read and used shows the base's scheme and authority. What follows them in
the base is read with the request. -/
theorem parts_of_read {base : Bytes} {uri joined : Uri} {bytes : Bytes} (asked : Uri.ofBytes bytes = .ok uri)
    (read : Uri.ofBytes (joinedText base uri) = .ok joined) (used : refusal? joined = none) :
    ∃ scheme authority path, dropTrailingSlashes base = scheme ++ ascii "://" ++ (authority ++ path) ∧
      IsWebScheme scheme ∧ IsAuthority authority ∧ authority ≠ [] ∧
      EndsAuthority (path ++ 0x2F :: (suffix uri).written) ∧
      ∃ target, PathAndQuery.ofBytes (path ++ 0x2F :: (suffix uri).written) = .ok target ∧
        joined = ⟨some (scheme.map lowerByte), authority, target⟩ := by
  obtain ⟨known, named, web, given⟩ := web_of_refusal used
  cases (form_of_ofBytes read).2 with
  | path => cases named
  | authority => cases named
  | @absolute _ after authority rest target opened host _ behind =>
    cases named
    obtain ⟨scheme, text, lower⟩ := web_of_splitScheme opened web
    have isWeb : IsWebScheme scheme := by rwa [IsWebScheme, lower]
    have first : ∀ byte ∈ (suffix uri).written.head?, byte ≠ 0x2F := by
      rw [← dropLeadingSlashes_requestTarget asked]
      exact dropLeadingSlashes_head _
    rw [joinedText, dropLeadingSlashes_requestTarget asked] at text
    obtain ⟨more, trimmed, rfl⟩ := separator_in_base (dropTrailingSlashes_last base) first isWeb text
    obtain ⟨whole, within, ends, isAuthority⟩ := splitAuthority_parts host
    obtain ⟨path, rfl, rfl⟩ := authority_in_base within whole
    exact ⟨scheme, authority, path, trimmed, isWeb, isAuthority, given, ends, target, behind, by rw [lower]⟩

theorem ofBytes_behind {path : Bytes} {request target : PathAndQuery} (sound : request.Sound)
    (whole : ∀ byte ∈ path, byte ≠ 0x3F ∧ byte ≠ 0x23)
    (read : PathAndQuery.ofBytes (path ++ 0x2F :: request.written) = .ok target) :
    target = ⟨path ++ 0x2F :: request.path, request.query⟩ ∧ ∀ byte ∈ path, isPathByte byte = true := by
  obtain ⟨legal, kept⟩ := PathAndQuery.ofBytes_eq_ok_iff.mp read
  have plain : 0x23 ∉ path ++ 0x2F :: request.written := by
    intro member
    rcases List.mem_append.mp member with inPath | behind
    · exact (whole _ inPath).2 rfl
    · exact sound.no_fragment ((List.mem_cons.mp behind).resolve_left (by decide))
  have unmarked : 0x3F ∉ path ++ 0x2F :: request.path := by
    intro member
    rcases List.mem_append.mp member with inPath | behind
    · exact (whole _ inPath).1 rfl
    · exact sound.path_plain ((List.mem_cons.mp behind).resolve_left (by decide))
  have same : target.written = (⟨path ++ 0x2F :: request.path, request.query⟩ : PathAndQuery).written := by
    rw [kept, PathAndQuery.withoutFragment_eq_self plain, written, written, List.append_assoc]
    rfl
  let glued : PathAndQuery := ⟨path ++ 0x2F :: request.path, request.query⟩
  have cutGlued : cut glued.written = glued := PathAndQuery.cut_written unmarked
  have cutTarget := PathAndQuery.cut_written legal.path_plain
  rw [same, cutGlued] at cutTarget
  subst cutTarget
  exact ⟨rfl, fun byte member => legal.path byte (List.mem_append_left _ member)⟩

theorem joinable_of_read {base : Bytes} {uri joined : Uri} {bytes : Bytes} (asked : Uri.ofBytes bytes = .ok uri)
    (whole : ∀ byte ∈ base, byte ≠ 0x3F ∧ byte ≠ 0x23)
    (read : Uri.ofBytes (joinedText base uri) = .ok joined) (used : refusal? joined = none) :
    ∃ scheme authority path, Joinable base scheme authority path ∧
      joined = ⟨some (scheme.map lowerByte), authority,
        ⟨dropTrailingSlashes path ++ 0x2F :: (suffix uri).path, (suffix uri).query⟩⟩ := by
  obtain ⟨scheme, authority, path, trimmed, web, host, given, ends, target, behind, rfl⟩ :=
    parts_of_read asked read used
  obtain ⟨slashes, cut, slashed⟩ := dropTrailingSlashes_prefix base
  rw [trimmed] at cut
  have inBase : ∀ byte ∈ path, byte ≠ 0x3F ∧ byte ≠ 0x23 := by
    intro byte member
    apply whole
    rw [cut]
    simp [member]
  obtain ⟨rfl, plain⟩ := ofBytes_behind (suffix_sound asked) inBase behind
  have last : ∀ byte ∈ path.getLast?, byte ≠ 0x2F := by
    intro byte ending
    apply dropTrailingSlashes_last base
    rw [trimmed]
    simp only [List.getLast?_append, Option.mem_def.mp ending]
    rfl
  refine ⟨scheme, authority, path ++ slashes, ?_, by rw [dropTrailingSlashes_append last slashed]⟩
  refine { host, given, web, rooted := ?_, plain := ?_, text := by rw [cut]; simp }
  · cases path with
    | nil => exact fun byte first => slashed byte (List.mem_of_mem_head? first)
    | cons byte path =>
      rintro _ ⟨⟩
      have mark := ends byte rfl
      simpa [endsAuthority, inBase byte List.mem_cons_self] using mark
  · intro byte member
    rcases List.mem_append.mp member with inPath | inSlashes
    · exact plain byte inPath
    · rw [slashed byte inSlashes]
      decide

private theorem valid_slash : Utf8.Valid [0x2F] := by
  apply Utf8.valid_of_ascii
  intro byte member
  rw [List.mem_singleton.mp member]
  decide

namespace Joinable
variable {base scheme authority path : Bytes} (joinable : Joinable base scheme authority path)
include joinable

theorem trimmed : dropTrailingSlashes base = scheme ++ ascii "://" ++ (authority ++ dropTrailingSlashes path) := by
  obtain ⟨slashes, cut, slashed⟩ := dropTrailingSlashes_prefix path
  have whole : base = (scheme ++ ascii "://" ++ (authority ++ dropTrailingSlashes path)) ++ slashes := by
    rw [joinable.text, List.append_assoc _ _ slashes, List.append_assoc authority, ← cut]
  rw [whole]
  refine dropTrailingSlashes_append ?_ slashed
  intro byte ending
  rw [List.getLast?_append, List.getLast?_append] at ending
  cases final : (dropTrailingSlashes path).getLast? with
  | some other =>
    rw [final] at ending
    cases ending
    exact dropTrailingSlashes_last path byte final
  | none =>
    cases host : authority.getLast? with
    | none => exact absurd (List.getLast?_eq_none_iff.mp host) joinable.given
    | some other =>
      rw [final, host] at ending
      cases ending
      rintro rfl
      have inside := joinable.host.within _ (List.mem_of_getLast? host)
      exact absurd inside (by decide)

theorem path_valid (valid : Utf8.Valid base) : Utf8.Valid (dropTrailingSlashes path) := by
  obtain ⟨slashes, cut, slashed⟩ := dropTrailingSlashes_prefix path
  have whole : Utf8.Valid path := by
    rw [joinable.text] at valid
    cases path with
    | nil => exact Utf8.valid_nil
    | cons byte path =>
      cases joinable.rooted byte rfl
      rw [← List.append_assoc] at valid
      exact valid_slash.append (valid.around (by decide)).2
  rw [cut] at whole
  refine whole.before fun byte member => ?_
  rw [slashed byte member]
  decide

theorem target_read {request : PathAndQuery} (sound : request.Sound) (valid : Utf8.Valid base) :
    PathAndQuery.ofBytes (dropTrailingSlashes path ++ 0x2F :: request.written) =
      .ok ⟨dropTrailingSlashes path ++ 0x2F :: request.path, request.query⟩ := by
  obtain ⟨slashes, cut, slashed⟩ := dropTrailingSlashes_prefix path
  have spelled : (⟨dropTrailingSlashes path ++ 0x2F :: request.path, request.query⟩ : PathAndQuery).written =
      dropTrailingSlashes path ++ 0x2F :: request.written := by
    rw [written, written, ← List.cons_append, ← List.append_assoc]
    rfl
  have legal : (⟨dropTrailingSlashes path ++ 0x2F :: request.path, request.query⟩ : PathAndQuery).Sound := by
    refine ⟨fun byte member => ?_, sound.query, ?_⟩
    · rcases List.mem_append.mp member with kept | behind
      · apply joinable.plain
        rw [cut]
        exact List.mem_append_left _ kept
      · rcases List.mem_cons.mp behind with rfl | inRequest
        · decide
        · exact sound.path byte inRequest
    · rw [spelled]
      exact (joinable.path_valid valid).append (valid_slash.append sound.utf8)
  refine PathAndQuery.ofBytes_eq_ok_iff.mpr ⟨legal, ?_⟩
  rw [← spelled, PathAndQuery.withoutFragment_eq_self legal.no_fragment]

theorem read {uri : Uri} {bytes : Bytes} (asked : Uri.ofBytes bytes = .ok uri) (valid : Utf8.Valid base)
    (fits : (joinedText base uri).length ≤ maxLength) :
    Uri.ofBytes (joinedText base uri) = .ok ⟨some (scheme.map lowerByte), authority,
      ⟨dropTrailingSlashes path ++ 0x2F :: (suffix uri).path, (suffix uri).query⟩⟩ := by
  have whole : joinedText base uri = scheme ++ ascii "://" ++
      (authority ++ (dropTrailingSlashes path ++ 0x2F :: (suffix uri).written)) := by
    rw [joinedText, joinable.trimmed, dropLeadingSlashes_requestTarget asked]
    simp
  have ends : EndsAuthority (dropTrailingSlashes path ++ 0x2F :: (suffix uri).written) := by
    obtain ⟨slashes, cut, slashed⟩ := dropTrailingSlashes_prefix path
    intro byte first
    cases kept : dropTrailingSlashes path with
    | nil =>
      rw [kept] at first
      cases first
      decide
    | cons other rest =>
      rw [kept] at first cut
      cases first
      rw [joinable.rooted byte (by rw [cut]; rfl)]
      decide
  rw [whole] at fits ⊢
  rw [ofBytes_web joinable.web joinable.host joinable.given ends fits, joinable.target_read (suffix_sound asked) valid]
  rfl

theorem used {target : PathAndQuery} : refusal? ⟨some (scheme.map lowerByte), authority, target⟩ = none := by
  have empty : authority.isEmpty = false := by simpa using joinable.given
  rcases joinable.web with http | https
  · simp only [refusal?, http, empty]
    rfl
  · simp only [refusal?, https, empty]
    rfl

end Joinable

theorem joinUri_eq_ok_iff {base : String} {uri joined : Uri} :
    joinUri base uri = .ok joined ↔
      Uri.ofBytes (joinedText (Utf8.encode base) uri) = .ok joined ∧ refusal? joined = none := by
  unfold joinUri
  dsimp only
  split
  next failed => simp [failed]
  next read =>
    rw [read]
    split
    next refused =>
      constructor
      · exact nofun
      · rintro ⟨⟨⟩, used⟩
        cases refused.symm.trans used
    next used =>
      constructor
      · rintro ⟨⟩
        exact ⟨rfl, used⟩
      · rintro ⟨⟨⟩, -⟩
        rfl

theorem dropLeadingSlashes_path {bytes : Bytes} {uri : Uri} (asked : Uri.ofBytes bytes = .ok uri) :
    dropLeadingSlashes uri.path = (suffix uri).path := by
  unfold Uri.path suffix
  split
  next bare =>
    rw [target_of_no_path asked (by simpa using bare)]
    rfl
  next =>
    split
    next empty =>
      rw [List.isEmpty_iff.mp empty]
      rfl
    next => rfl

theorem plain_encode {base : String} (plain : '?' ∉ base.toList ∧ '#' ∉ base.toList) :
    ∀ byte ∈ Utf8.encode base, byte ≠ 0x3F ∧ byte ≠ 0x23 := by
  intro byte member
  constructor
  · rintro rfl
    exact plain.1 (Utf8.mem_of_mem_encode member (by decide))
  · rintro rfl
    exact plain.2 (Utf8.mem_of_mem_encode member (by decide))

/-- A join is the base with the request behind it. It depends on neither the slashes at the end of
the base nor those at the front of the request, and whether there is one depends on the base alone. -/
theorem joinUri_base_then_request {base : String} {bytes : Bytes} {uri : Uri}
    (plain : '?' ∉ base.toList ∧ '#' ∉ base.toList) (asked : Uri.ofBytes bytes = .ok uri) :
    (∀ joined, joinUri base uri = .ok joined →
      ∃ scheme authority path, Joinable (Utf8.encode base) scheme authority path ∧
        joined.scheme = some (scheme.map lowerByte) ∧ joined.authority = authority ∧
        joined.pathAndQuery.text = dropTrailingSlashes path ++ 0x2F :: dropLeadingSlashes (requestTarget uri) ∧
        joined.query = uri.query) ∧
    (∀ base' bytes' uri' joined, Uri.ofBytes bytes' = .ok uri' →
      dropTrailingSlashes (Utf8.encode base') = dropTrailingSlashes (Utf8.encode base) →
      dropLeadingSlashes uri'.path = dropLeadingSlashes uri.path → uri'.query = uri.query →
      (joinUri base' uri' = .ok joined ↔ joinUri base uri = .ok joined)) ∧
    ((joinedText (Utf8.encode base) uri).length ≤ maxLength →
      ((∃ joined, joinUri base uri = .ok joined) ↔
        ∃ scheme authority path, Joinable (Utf8.encode base) scheme authority path)) := by
  have whole := plain_encode plain
  refine ⟨?_, ?_, ?_⟩
  · intro joined done
    obtain ⟨read, used⟩ := joinUri_eq_ok_iff.mp done
    obtain ⟨scheme, authority, path, joinable, rfl⟩ := joinable_of_read asked whole read used
    refine ⟨scheme, authority, path, joinable, rfl, rfl, ?_, rfl⟩
    rw [dropLeadingSlashes_requestTarget asked, PathAndQuery.text_eq, if_neg (by simp [written]), written, written,
      List.append_assoc]
    rfl
  · intro base' bytes' uri' joined asked' trimmed front query
    have request : suffix uri' = suffix uri := by
      rw [dropLeadingSlashes_path asked', dropLeadingSlashes_path asked] at front
      exact congrArg₂ PathAndQuery.mk front query
    rw [joinUri_eq_ok_iff, joinUri_eq_ok_iff, joinedText, joinedText, trimmed,
      dropLeadingSlashes_requestTarget asked', dropLeadingSlashes_requestTarget asked, request]
  · intro fits
    constructor
    · rintro ⟨joined, done⟩
      obtain ⟨read, used⟩ := joinUri_eq_ok_iff.mp done
      obtain ⟨scheme, authority, path, joinable, -⟩ := joinable_of_read asked whole read used
      exact ⟨scheme, authority, path, joinable⟩
    · rintro ⟨scheme, authority, path, joinable⟩
      exact ⟨_, joinUri_eq_ok_iff.mpr ⟨joinable.read asked (Utf8.valid_encode base) fits, joinable.used⟩⟩

theorem pets_joined :
    ∃ scheme authority path, Joinable (Utf8.encode "http://h:80/api//") scheme authority path ∧
      dropTrailingSlashes path ++ ascii "/pets?limit=1" = ascii "/api/pets?limit=1" := by
  have asked : Uri.ofBytes (ascii "//pets?limit=1") = .ok ⟨none, [], ascii "//pets", some (ascii "limit=1")⟩ := by
    decide +kernel
  have joined : joinUri "http://h:80/api//" ⟨none, [], ascii "//pets", some (ascii "limit=1")⟩ =
      .ok ⟨some (ascii "http"), ascii "h:80", ascii "/api/pets", some (ascii "limit=1")⟩ := by
    decide +kernel
  obtain ⟨scheme, authority, path, joinable, -, -, text, -⟩ :=
    (joinUri_base_then_request (by decide) asked).1 _ joined
  exact ⟨scheme, authority, path, joinable, text.symm⟩

end MockKeeper.Proxy
