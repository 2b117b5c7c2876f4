import MockKeeper.Config.Upstream
import MockKeeper.Proofs.UpstreamJoining

/-! What accepting an upstream says about the requests that are sent to it. The check looks at the
scheme and for something behind it; whether requests get through is decided by what that something is. -/

namespace MockKeeper

theorem splitScheme?_eq_some {text scheme after : List Char} (split : splitScheme? text = some (scheme, after)) :
    text = scheme ++ "://".toList ++ after := by
  fun_induction splitScheme? text generalizing scheme with
  | case1 rest =>
    cases split
    rfl
  | case2 c rest other ih =>
    obtain ⟨⟨before, behind⟩, found, same⟩ := Option.map_eq_some_iff.mp split
    cases same
    rw [ih found]
    rfl
  | case3 => cases split

theorem ProxySettings.validate_eq_ok {settings : ProxySettings} (accepted : settings.validate = .ok ()) :
    ∃ scheme after, (scheme = "http" ∨ scheme = "https") ∧ settings.upstream = scheme ++ "://" ++ after ∧
      after ≠ "" := by
  unfold validate at accepted
  split at accepted
  next => cases accepted
  next => cases accepted
  next scheme first rest split =>
    split at accepted
    next known =>
      refine ⟨String.ofList scheme, String.ofList (first :: rest), ?_, ?_, by simp⟩
      · exact known.imp (by rintro rfl; rfl) (by rintro rfl; rfl)
      · apply String.toList_inj.mp
        simpa using splitScheme?_eq_some split
    next => cases accepted

namespace Proxy
open Uri

/-- An upstream is usable: a request for a path, if the joined text is not too long, is joined to it
and carried by what it is joined to. -/
def Usable (upstream : String) : Prop :=
  ∀ bytes uri, Uri.ofBytes bytes = .ok uri → bytes.head? = some 0x2F →
    (joinedText (Utf8.encode upstream) uri).length ≤ maxLength →
    ∃ joined, joinUri upstream uri = .ok joined ∧ dropLeadingSlashes uri.path <:+ joined.path ∧
      joined.query = uri.query

theorem Joinable.usable {upstream : String} {scheme authority path : Bytes}
    (joinable : Joinable (Utf8.encode upstream) scheme authority path) : Usable upstream := by
  intro bytes uri asked _ fits
  refine ⟨_, joinUri_eq_ok_iff.mpr ⟨joinable.read asked (Utf8.valid_encode upstream) fits, joinable.used⟩, ?_, rfl⟩
  rw [dropLeadingSlashes_path asked]
  exact ⟨dropTrailingSlashes path ++ [0x2F], by simp [Uri.path, hasPath]⟩

/-- A path that is read past a question mark or a fragment does not show what stands behind it. -/
theorem path_of_marked {path request : Bytes} {target : PathAndQuery}
    (marked : ∃ byte ∈ path, byte = 0x3F ∨ byte = 0x23)
    (read : PathAndQuery.ofBytes (path ++ request) = .ok target) :
    target.path = (PathAndQuery.withoutFragment path).takeWhile (· != 0x3F) := by
  obtain ⟨sound, kept⟩ := PathAndQuery.ofBytes_eq_ok_iff.mp read
  rw [← (PathAndQuery.split_written sound.path_plain).1, kept, PathAndQuery.withoutFragment,
    PathAndQuery.withoutFragment, List.takeWhile_takeWhile, List.takeWhile_takeWhile, List.takeWhile_append,
    if_neg]
  intro whole
  obtain ⟨byte, member, mark⟩ := marked
  have passes := List.takeWhile_eq_self_iff.mp ((List.takeWhile_prefix _).eq_of_length whole) byte member
  rcases mark with rfl | rfl <;> revert passes <;> decide

theorem path_fixed {base scheme authority path bytes : Bytes} {uri joined : Uri}
    (trimmed : dropTrailingSlashes base = scheme ++ ascii "://" ++ (authority ++ path)) (web : IsWebScheme scheme)
    (host : IsAuthority authority) (given : authority ≠ []) (ends : EndsAuthority path)
    (marked : ∃ byte ∈ path, byte = 0x3F ∨ byte = 0x23) (asked : Uri.ofBytes bytes = .ok uri)
    (read : Uri.ofBytes (joinedText base uri) = .ok joined) :
    joined.path = (⟨some scheme, authority,
      ⟨(PathAndQuery.withoutFragment path).takeWhile (· != 0x3F), none⟩⟩ : Uri).path := by
  have text : joinedText base uri =
      scheme ++ ascii "://" ++ (authority ++ (path ++ 0x2F :: (suffix uri).written)) := by
    rw [joinedText, trimmed, dropLeadingSlashes_requestTarget asked]
    simp
  have fits := (form_of_ofBytes read).1
  have behind : EndsAuthority (path ++ 0x2F :: (suffix uri).written) := by
    cases path with
    | nil => exact absurd marked (by simp)
    | cons => exact ends
  rw [text] at read fits
  rw [ofBytes_web web host given behind fits] at read
  cases target : PathAndQuery.ofBytes (path ++ 0x2F :: (suffix uri).written) with
  | error => simp [target, Except.map] at read
  | ok target' =>
    rw [target] at read
    cases read
    simp [Uri.path, hasPath, path_of_marked marked target]

theorem mark_behind_authority {base scheme authority path : Bytes}
    (trimmed : dropTrailingSlashes base = scheme ++ ascii "://" ++ (authority ++ path)) (web : IsWebScheme scheme)
    (host : IsAuthority authority) (marked : ∃ byte ∈ base, byte = 0x3F ∨ byte = 0x23) :
    ∃ byte ∈ path, byte = 0x3F ∨ byte = 0x23 := by
  obtain ⟨byte, member, mark⟩ := marked
  refine ⟨byte, ?_, mark⟩
  obtain ⟨slashes, cut, slashed⟩ := dropTrailingSlashes_prefix base
  rw [cut, trimmed] at member
  have notSlash : byte ∉ slashes := fun inside => by
    rcases mark with rfl | rfl <;> exact absurd (slashed _ inside) (by decide)
  have notScheme : byte ∉ scheme := web.not_mem (by rcases mark with rfl | rfl <;> decide)
  have notSeparator : byte ∉ ascii "://" := by rcases mark with rfl | rfl <;> decide
  have notAuthority : byte ∉ authority := fun inside => by
    rcases mark with rfl | rfl <;> exact absurd (host.within _ inside) (by decide)
  simpa [notSlash, notScheme, notSeparator, notAuthority] using member

/-- Requests for two paths cannot both be carried by a base with a question mark or a fragment. -/
theorem not_usable_of_marked {upstream : String} (marked : ∃ byte ∈ Utf8.encode upstream, byte = 0x3F ∨ byte = 0x23)
    (fits : (dropTrailingSlashes (Utf8.encode upstream)).length + 2 ≤ maxLength) : ¬Usable upstream := by
  intro usable
  -- One request is not enough: the base may happen to end its path as that request does.
  have askedA : Uri.ofBytes [0x2F, 0x61] = .ok ⟨none, [], [0x2F, 0x61], none⟩ := by decide
  have askedB : Uri.ofBytes [0x2F, 0x62] = .ok ⟨none, [], [0x2F, 0x62], none⟩ := by decide
  obtain ⟨joinedA, doneA, endsA, -⟩ := usable _ _ askedA rfl (by rw [joinedText, List.length_append]; exact fits)
  obtain ⟨joinedB, doneB, endsB, -⟩ := usable _ _ askedB rfl (by rw [joinedText, List.length_append]; exact fits)
  obtain ⟨readA, usedA⟩ := joinUri_eq_ok_iff.mp doneA
  obtain ⟨scheme, authority, path, trimmed, web, host, given, ends, -⟩ := parts_of_read askedA readA usedA
  have within := mark_behind_authority trimmed web host marked
  have behind : EndsAuthority path := by
    cases path with
    | nil =>
      intro byte first
      cases first
    | cons => exact ends
  rw [path_fixed trimmed web host given behind within askedA readA] at endsA
  rw [path_fixed trimmed web host given behind within askedB (joinUri_eq_ok_iff.mp doneB).1] at endsB
  exact absurd (List.suffix_of_suffix_length_le endsA endsB (by decide)) (by decide)

theorem joinable_of_usable {upstream : String} (usable : Usable upstream)
    (fits : (dropTrailingSlashes (Utf8.encode upstream)).length + 2 ≤ maxLength) :
    ∃ scheme authority path, Joinable (Utf8.encode upstream) scheme authority path := by
  have whole : ∀ byte ∈ Utf8.encode upstream, byte ≠ 0x3F ∧ byte ≠ 0x23 := by
    intro byte member
    refine not_or.mp fun mark => ?_
    exact not_usable_of_marked ⟨byte, member, mark⟩ fits usable
  have asked : Uri.ofBytes [0x2F, 0x61] = .ok ⟨none, [], [0x2F, 0x61], none⟩ := by decide
  obtain ⟨joined, done, -⟩ := usable _ _ asked rfl (by rw [joinedText, List.length_append]; exact fits)
  obtain ⟨read, used⟩ := joinUri_eq_ok_iff.mp done
  obtain ⟨scheme, authority, path, joinable, -⟩ := joinable_of_read asked whole read used
  exact ⟨scheme, authority, path, joinable⟩

/-- An accepted upstream is `http` or `https` with something behind it. It is usable where that is an
authority and a path, and nowhere else, but the check does not look at it. -/
theorem validated_upstream_usable {settings : ProxySettings} (accepted : settings.validate = .ok ()) :
    ∃ scheme after, (scheme = "http" ∨ scheme = "https") ∧ settings.upstream = scheme ++ "://" ++ after ∧
      after ≠ "" ∧
      ((∃ authority path, Utf8.encode after = authority ++ path ∧ Address authority path) →
        Usable settings.upstream) ∧
      ((dropTrailingSlashes (Utf8.encode settings.upstream)).length + 2 ≤ maxLength → Usable settings.upstream →
        ∃ authority path, Utf8.encode after = authority ++ path ∧ Address authority path) := by
  obtain ⟨scheme, after, known, upstream, given⟩ := ProxySettings.validate_eq_ok accepted
  have web : IsWebScheme (Utf8.encode scheme) := by rcases known with rfl | rfl <;> decide +kernel
  have separator : Utf8.encode "://" = ascii "://" := by decide +kernel
  have text : Utf8.encode settings.upstream = Utf8.encode scheme ++ ascii "://" ++ Utf8.encode after := by
    rw [upstream, Utf8.encode_append, Utf8.encode_append, separator]
  refine ⟨scheme, after, known, upstream, given, ?_, ?_⟩
  · rintro ⟨authority, path, spelled, address⟩
    rw [spelled] at text
    exact Joinable.usable { address with text, web }
  · intro fits usable
    obtain ⟨scheme', authority, path, joinable⟩ := joinable_of_usable usable fits
    exact ⟨authority, path, behind_separator web joinable.web (text.symm.trans joinable.text), joinable.toAddress⟩

theorem host_and_port_usable :
    (⟨"http://h:80/", 8081, {}⟩ : ProxySettings).validate = .ok () ∧ Usable "http://h:80/" := by
  have accepted : (⟨"http://h:80/", 8081, {}⟩ : ProxySettings).validate = .ok () := by decide +kernel
  obtain ⟨scheme, after, known, upstream, -, usable, -⟩ := validated_upstream_usable accepted
  refine ⟨accepted, usable ⟨ascii "h:80", ascii "/", ?_, ⟨?_, ?_, ?_, ?_⟩⟩⟩
  · have same := congrArg String.toList upstream
    rcases known with rfl | rfl
    · have behind : after = "h:80/" := String.toList_inj.mp (by simpa using same.symm)
      rw [behind]
      decide +kernel
    · simp at same
  · decide
  · decide
  · rintro byte ⟨⟩
    rfl
  · exact List.all_eq_true.mp (by decide)

/-- The query of an upstream swallows the path of every request, and the upstream is accepted. -/
theorem upstream_with_query_accepted :
    ¬∀ settings : ProxySettings, settings.validate = .ok () → Usable settings.upstream := by
  intro usable
  have accepted : (⟨"http://h?x", 8081, {}⟩ : ProxySettings).validate = .ok () := by decide +kernel
  refine not_usable_of_marked ⟨0x3F, ?_, .inl rfl⟩ ?_ (usable _ accepted) <;> decide +kernel

end Proxy

end MockKeeper
