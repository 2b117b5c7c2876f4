import MockKeeper.Http.Uri
import MockKeeper.Proofs.Utf8Texts
import Mathlib.Data.List.TakeWhile

/-! How a URI is read, told as the forms it can have. A path and query that were read are the
bytes in front of the fragment, and those bytes read by themselves give the same again. -/

namespace MockKeeper

theorem bind_ok {ε α β : Type} {first : Except ε α} {next : α → Except ε β} {result : β}
    (done : (first >>= next) = .ok result) : ∃ value, first = .ok value ∧ next value = .ok result := by
  cases first with
  | error => cases done
  | ok value => exact ⟨value, rfl, done⟩

namespace PathAndQuery

def queryText (target : PathAndQuery) : Bytes :=
  match target.query with
  | some query => 0x3F :: query
  | .none => []

def written (target : PathAndQuery) : Bytes := target.path ++ target.queryText

/-- Bytes that may stand where they stand, and are UTF-8 together. -/
structure Sound (target : PathAndQuery) : Prop where
  path : ∀ byte ∈ target.path, isPathByte byte = true
  query : ∀ query ∈ target.query, ∀ byte ∈ query, isQueryByte byte = true
  utf8 : Utf8.Valid target.written

theorem text_eq (target : PathAndQuery) :
    target.text = if target.written.isEmpty then [0x2F] else target.written := rfl

theorem Sound.path_plain {target : PathAndQuery} (sound : target.Sound) : 0x3F ∉ target.path :=
  fun member => absurd (sound.path _ member) (by decide)

theorem Sound.no_fragment {target : PathAndQuery} (sound : target.Sound) : 0x23 ∉ target.written := by
  intro member
  rcases List.mem_append.mp member with inPath | inQuery
  · exact absurd (sound.path _ inPath) (by decide)
  · unfold queryText at inQuery
    split at inQuery
    next query known =>
      rcases List.mem_cons.mp inQuery with mark | later
      · exact absurd mark (by decide)
      · exact absurd (sound.query query known _ later) (by decide)
    next => cases inQuery

theorem withoutFragment_eq_self {bytes : Bytes} (plain : 0x23 ∉ bytes) : withoutFragment bytes = bytes := by
  rw [withoutFragment, List.takeWhile_eq_self_iff]
  intro byte member
  simpa using fun same : byte = 0x23 => plain (same ▸ member)

theorem split_written {target : PathAndQuery} (plain : 0x3F ∉ target.path) :
    target.written.takeWhile (· != 0x3F) = target.path ∧
      target.written.dropWhile (· != 0x3F) = target.queryText := by
  have before : ∀ byte ∈ target.path, (byte != 0x3F) = true := by
    intro byte member
    simpa using fun same : byte = 0x3F => plain (same ▸ member)
  rw [written, List.takeWhile_append_of_pos before, List.dropWhile_append_of_pos before]
  unfold queryText
  split <;> simp

private theorem utf8_check {bytes : Bytes} :
    ((bytes.any (0x80 ≤ ·)) && (Utf8.decode? bytes).isNone) = false ↔ Utf8.Valid bytes := by
  rw [Bool.and_eq_false_iff]
  constructor
  · rintro (ascii | decoded)
    · apply Utf8.valid_of_ascii
      intro byte member
      have small := List.any_eq_false.mp ascii byte member
      simpa using small
    · rw [← Utf8.decode?_isSome, ← Option.not_isNone, decoded]
      rfl
  · intro valid
    right
    rw [← Option.not_isSome, Utf8.decode?_isSome.mpr valid]
    rfl

/-- The path and query that bytes in front of a fragment would make. -/
def cut (kept : Bytes) : PathAndQuery :=
  ⟨kept.takeWhile (· != 0x3F), (kept.dropWhile (· != 0x3F)).head?.map fun _ => (kept.dropWhile (· != 0x3F)).drop 1⟩

theorem written_cut (kept : Bytes) : (cut kept).written = kept := by
  have parts := List.takeWhile_append_dropWhile (p := (· != 0x3F)) (l := kept)
  unfold written cut queryText
  cases rest : kept.dropWhile (· != 0x3F) with
  | nil => simpa [rest] using parts
  | cons mark query =>
    have marked : mark = 0x3F := by
      have stops := List.head?_dropWhile_not (· != 0x3F) kept
      simpa [rest] using stops
    simpa [rest, marked] using parts

theorem cut_written {target : PathAndQuery} (plain : 0x3F ∉ target.path) : cut target.written = target := by
  obtain ⟨before, behind⟩ := split_written plain
  unfold cut
  rw [before, behind]
  obtain ⟨path, query⟩ := target
  cases query <;> rfl

private theorem query_check {target : PathAndQuery} :
    (target.queryText.drop 1).all isQueryByte = true ↔
      ∀ query ∈ target.query, ∀ byte ∈ query, isQueryByte byte = true := by
  obtain ⟨path, query⟩ := target
  cases query <;> simp [queryText]

/-- What is read is sound, and stands in front of the fragment as it is. -/
theorem ofBytes_eq_ok_iff {bytes : Bytes} {target : PathAndQuery} :
    ofBytes bytes = .ok target ↔ target.Sound ∧ target.written = withoutFragment bytes := by
  generalize keeps : withoutFragment bytes = kept
  have read : ofBytes bytes =
      if !(kept.takeWhile (· != 0x3F)).all isPathByte || !((kept.dropWhile (· != 0x3F)).drop 1).all isQueryByte
      then .error .invalidCharacter
      else if (kept.any (0x80 ≤ ·)) && (Utf8.decode? kept).isNone then .error .invalidCharacter
      else .ok (cut kept) := by
    rw [← keeps]
    rfl
  rw [read]
  constructor
  · intro done
    split at done
    next => cases done
    next legal =>
      split at done
      next => cases done
      next decoded =>
        cases done
        have plain : 0x3F ∉ (cut kept).path := by
          intro member
          have other := List.mem_takeWhile_imp member
          simp at other
        have behind := (split_written plain).2
        rw [written_cut] at behind
        rw [Bool.or_eq_true, not_or, Bool.not_eq_true', Bool.not_eq_false, Bool.not_eq_true', Bool.not_eq_false,
          behind, query_check] at legal
        refine ⟨⟨List.all_eq_true.mp legal.1, legal.2, ?_⟩, written_cut kept⟩
        rw [written_cut]
        exact utf8_check.mp (Bool.eq_false_iff.mpr decoded)
  · rintro ⟨sound, rfl⟩
    obtain ⟨before, behind⟩ := split_written sound.path_plain
    have legal : (!target.path.all isPathByte || !(target.queryText.drop 1).all isQueryByte) = false := by
      rw [Bool.or_eq_false_iff, Bool.not_eq_false', Bool.not_eq_false']
      exact ⟨List.all_eq_true.mpr sound.path, query_check.mpr sound.query⟩
    rw [before, behind, legal, utf8_check.mpr sound.utf8, cut_written sound.path_plain]
    rfl

theorem sound_none : PathAndQuery.none.Sound := ⟨by simp [none], by simp [none], Utf8.valid_nil⟩

end PathAndQuery

namespace Uri

def IsAuthority (bytes : Bytes) : Prop := splitAuthority bytes = .ok (bytes, [])

instance (bytes : Bytes) : Decidable (IsAuthority bytes) := by
  unfold IsAuthority
  infer_instance

def IsWebScheme (scheme : Bytes) : Prop :=
  scheme.map lowerByte = ascii "http" ∨ scheme.map lowerByte = ascii "https"

instance (scheme : Bytes) : Decidable (IsWebScheme scheme) := inferInstanceAs (Decidable (_ ∨ _))

inductive Form (bytes : Bytes) : Uri → Prop
  | path {target : PathAndQuery} (read : PathAndQuery.ofBytes bytes = .ok target) : Form bytes ⟨none, [], target⟩
  | authority {authority : Bytes} (host : splitAuthority bytes = .ok (authority, [])) :
      Form bytes ⟨none, authority, .none⟩
  | absolute {scheme after authority rest : Bytes} {target : PathAndQuery}
      (named : splitScheme bytes = .ok (some (scheme, after)))
      (host : splitAuthority after = .ok (authority, rest)) (given : authority ≠ [])
      (read : PathAndQuery.ofBytes rest = .ok target) : Form bytes ⟨some scheme, authority, target⟩

private theorem form_of_authority {bytes : Bytes} {uri : Uri} {error : UriError}
    (read : (splitAuthority bytes >>= fun (authority, rest) =>
      if rest.isEmpty then .ok ⟨none, authority, .none⟩ else .error error) = .ok uri) : Form bytes uri := by
  obtain ⟨⟨authority, rest⟩, host, read⟩ := bind_ok read
  dsimp only at read
  split at read
  next ended =>
    cases read
    rw [List.isEmpty_iff.mp ended] at host
    exact .authority host
  next => cases read

private theorem form_of_full {bytes : Bytes} {uri : Uri} (read : ofFull bytes = .ok uri) : Form bytes uri := by
  obtain ⟨scheme, named, read⟩ := bind_ok read
  split at read
  next => exact form_of_authority read
  next scheme after =>
    obtain ⟨⟨authority, rest⟩, host, read⟩ := bind_ok read
    dsimp only at read
    split at read
    next => cases read
    next given =>
      obtain ⟨target, known, read⟩ := bind_ok read
      cases read
      exact .absolute named host (by simpa using given) known

theorem form_of_ofBytes {bytes : Bytes} {uri : Uri} (read : ofBytes bytes = .ok uri) :
    bytes.length ≤ maxLength ∧ Form bytes uri := by
  unfold ofBytes at read
  split at read
  next => cases read
  next fits =>
    refine ⟨Nat.le_of_not_lt fits, ?_⟩
    split at read
    next => cases read
    next =>
      cases read
      exact .path rfl
    next byte _ =>
      split at read
      next slash =>
        cases read
        rw [beq_iff_eq.mp slash]
        exact .path rfl
      next => exact form_of_authority read
    next =>
      split at read
      next =>
        obtain ⟨target, known, read⟩ := bind_ok read
        cases read
        exact .path known
      next => exact form_of_full read

theorem target_sound {bytes : Bytes} {uri : Uri} (read : ofBytes bytes = .ok uri) : uri.pathAndQuery.Sound := by
  cases (form_of_ofBytes read).2 with
  | path known => exact (PathAndQuery.ofBytes_eq_ok_iff.mp known).1
  | authority => exact PathAndQuery.sound_none
  | absolute named host given known => exact (PathAndQuery.ofBytes_eq_ok_iff.mp known).1

theorem target_of_no_path {bytes : Bytes} {uri : Uri} (read : ofBytes bytes = .ok uri)
    (bare : uri.hasPath = false) : uri.pathAndQuery = .none := by
  cases (form_of_ofBytes read).2 with
  | path => simp [hasPath] at bare
  | authority => rfl
  | absolute => simp [hasPath] at bare

theorem path_before_query {bytes : Bytes} {uri : Uri} (read : ofBytes bytes = .ok uri) : 0x3F ∉ uri.path := by
  have plain := (target_sound read).path_plain
  unfold path
  split
  next => simp
  next =>
    split
    next => decide
    next => exact plain

/-- Where an authority ends: at the end of the bytes, or at a byte that ends it. -/
def EndsAuthority (rest : Bytes) : Prop := ∀ byte ∈ rest.head?, endsAuthority byte = true

theorem splitAuthority_append {authority rest : Bytes} (within : ∀ byte ∈ authority, endsAuthority byte = false)
    (ends : EndsAuthority rest) :
    splitAuthority (authority ++ rest) = .ok (authority, rest) ↔ IsAuthority authority := by
  have inside : ∀ byte ∈ authority, (!endsAuthority byte) = true := by simpa using within
  have front : (authority ++ rest).takeWhile (fun byte => !endsAuthority byte) = authority := by
    rw [List.takeWhile_append_of_pos inside]
    cases rest with
    | nil => simp
    | cons byte rest => simp [ends byte rfl]
  have back : (authority ++ rest).dropWhile (fun byte => !endsAuthority byte) = rest := by
    rw [List.dropWhile_append_of_pos inside]
    cases rest with
    | nil => rfl
    | cons byte rest => simp [ends byte rfl]
  have whole := List.takeWhile_eq_self_iff.mpr inside
  have none := List.dropWhile_eq_nil_iff.mpr inside
  unfold IsAuthority splitAuthority
  rw [front, back, whole, none]
  simp only [bind, Except.bind]
  cases List.foldlM AuthorityScan.step { } authority with
  | error => simp
  | ok scan =>
    dsimp only
    cases scan.finish <;> simp

theorem splitAuthority_parts {bytes authority rest : Bytes} (split : splitAuthority bytes = .ok (authority, rest)) :
    bytes = authority ++ rest ∧ (∀ byte ∈ authority, endsAuthority byte = false) ∧ EndsAuthority rest ∧
      IsAuthority authority := by
  obtain ⟨scan, scanned, finished⟩ := bind_ok split
  obtain ⟨-, -, same⟩ := bind_ok finished
  cases same
  have within : ∀ byte ∈ bytes.takeWhile fun byte => !endsAuthority byte, endsAuthority byte = false := by
    intro byte member
    simpa using List.mem_takeWhile_imp member
  have ends : EndsAuthority (bytes.dropWhile fun byte => !endsAuthority byte) := by
    intro byte first
    have stops := List.head?_dropWhile_not (fun byte => !endsAuthority byte) bytes
    rw [first] at stops
    simpa using stops
  have whole := List.takeWhile_append_dropWhile (p := fun byte => !endsAuthority byte) (l := bytes)
  refine ⟨whole.symm, within, ends, (splitAuthority_append within ends).mp ?_⟩
  rw [whole]
  exact split

private theorem lowerByte_mark {byte mark : UInt8} (lower : lowerByte byte = mark)
    (plain : mark = 0x3A ∨ mark = 0x2F) : byte = mark := by
  have each : ∀ number : Fin 256, lowerByte (UInt8.ofFin number) = 0x3A ∨ lowerByte (UInt8.ofFin number) = 0x2F →
      UInt8.ofFin number = lowerByte (UInt8.ofFin number) := by
    decide +kernel
  rw [← lower] at plain
  exact (each byte.toFin plain).trans lower

theorem ascii_separator : ascii "://" = [0x3A, 0x2F, 0x2F] := by decide

theorem splitScheme_web {scheme : Bytes} (web : IsWebScheme scheme) (after : Bytes) :
    splitScheme (scheme ++ ascii "://" ++ after) = .ok (some (scheme.map lowerByte, after)) := by
  have separator : (ascii "://").map lowerByte = ascii "://" := by decide
  have opening : ((scheme ++ ascii "://" ++ after).take 8).map lowerByte =
      (scheme.map lowerByte ++ ascii "://" ++ after.map lowerByte).take 8 := by
    rw [List.map_take, List.map_append, List.map_append, separator]
  unfold splitScheme
  rw [opening]
  have past : (scheme ++ ascii "://" ++ after).drop ((scheme.map lowerByte).length + 3) = after := by
    simp [ascii_separator, ← List.drop_drop]
  rcases web with http | https
  · rw [http] at past ⊢
    have http_first : ((ascii "http" ++ ascii "://" ++ after.map lowerByte).take 8).take 7 = ascii "http://" := by
      rw [List.take_take]
      rfl
    simp only [http_first, beq_self_eq_true, if_true]
    exact congrArg (fun rest => Except.ok (some (ascii "http", rest))) past
  · rw [https] at past ⊢
    have https_first : (ascii "https" ++ ascii "://" ++ after.map lowerByte).take 8 = ascii "https://" := rfl
    have other : ((ascii "https://").take 7 == ascii "http://") = false := by decide
    simp only [https_first, other, beq_self_eq_true, if_true]
    exact congrArg (fun rest => Except.ok (some (ascii "https", rest))) past

private theorem marks_of_lower {bytes : Bytes} (lower : bytes.map lowerByte = ascii "://") : bytes = ascii "://" := by
  rw [ascii_separator] at lower ⊢
  obtain ⟨colon, rest, rfl, first, lower⟩ := List.map_eq_cons_iff.mp lower
  obtain ⟨slash, rest, rfl, second, lower⟩ := List.map_eq_cons_iff.mp lower
  obtain ⟨slash', rest, rfl, third, lower⟩ := List.map_eq_cons_iff.mp lower
  rw [List.map_eq_nil_iff.mp lower, lowerByte_mark first (.inl rfl), lowerByte_mark second (.inr rfl),
    lowerByte_mark third (.inr rfl)]

theorem web_of_splitScheme {bytes scheme after : Bytes} (split : splitScheme bytes = .ok (some (scheme, after)))
    (web : scheme = ascii "http" ∨ scheme = ascii "https") :
    ∃ spelling, bytes = spelling ++ ascii "://" ++ after ∧ spelling.map lowerByte = scheme := by
  have opened {number : Nat} {name : Bytes} (opens : (bytes.take number).map lowerByte = name ++ ascii "://") :
      ∃ spelling, bytes = spelling ++ ascii "://" ++ bytes.drop number ∧ spelling.map lowerByte = name := by
    obtain ⟨spelling, marks, front, same, lower⟩ := List.map_eq_append_iff.mp opens
    refine ⟨spelling, ?_, same⟩
    rw [← marks_of_lower lower, ← front, List.take_append_drop]
  unfold splitScheme at split
  dsimp only at split
  split at split
  next http =>
    cases split
    apply opened
    rw [List.map_take, List.take_take] at http
    rw [List.map_take]
    exact (beq_iff_eq.mp http).trans (by decide)
  next =>
    split at split
    next https =>
      cases split
      exact opened ((beq_iff_eq.mp https).trans (by decide))
    next =>
      split at split
      next marked =>
        split at split
        next => cases split
        next =>
          cases split
          refine ⟨bytes.takeWhile isSchemeByte, ?_, ?_⟩
          · have separator := beq_iff_eq.mp (Bool.and_eq_true_iff.mp marked).2
            rw [← separator, List.append_assoc, List.take_append_drop]
            exact (List.prefix_iff_eq_append.mp (List.takeWhile_prefix _)).symm
          · rcases web with http | https
            · rw [http]
              decide
            · rw [https]
              decide
      next => cases split

theorem IsAuthority.within {authority : Bytes} (host : IsAuthority authority) :
    ∀ byte ∈ authority, endsAuthority byte = false :=
  (splitAuthority_parts host).2.1

theorem IsWebScheme.not_mem {scheme : Bytes} {mark : UInt8} (web : IsWebScheme scheme)
    (other : lowerByte mark ∉ ascii "https") : mark ∉ scheme := by
  intro member
  have lower := List.mem_map_of_mem (f := lowerByte) member
  rcases web with http | https
  · have letters : (ascii "http").all (· ∈ ascii "https") = true := by decide
    rw [http] at lower
    exact other (by simpa using List.all_eq_true.mp letters _ lower)
  · rw [https] at lower
    exact other lower

theorem IsWebScheme.no_slash {scheme : Bytes} (web : IsWebScheme scheme) : 0x2F ∉ scheme := web.not_mem (by decide)

/-- Behind a scheme of the web and an authority, a URI is read as its path and query are. -/
theorem ofBytes_web {scheme authority rest : Bytes} (web : IsWebScheme scheme) (host : IsAuthority authority)
    (given : authority ≠ []) (ends : EndsAuthority rest)
    (fits : (scheme ++ ascii "://" ++ (authority ++ rest)).length ≤ maxLength) :
    ofBytes (scheme ++ ascii "://" ++ (authority ++ rest)) =
      (PathAndQuery.ofBytes rest).map fun target => ⟨some (scheme.map lowerByte), authority, target⟩ := by
  have full : ofFull (scheme ++ ascii "://" ++ (authority ++ rest)) =
      (PathAndQuery.ofBytes rest).map fun target => ⟨some (scheme.map lowerByte), authority, target⟩ := by
    have empty : authority.isEmpty = false := by simpa using given
    unfold ofFull
    rw [splitScheme_web web]
    simp only [bind, Except.bind, (splitAuthority_append host.within ends).mpr host, empty]
    cases PathAndQuery.ofBytes rest <;> rfl
  cases scheme with
  | nil => exact absurd web (by decide)
  | cons first more =>
    have start : (first == 0x2F) = false := beq_eq_false_iff_ne.mpr fun same => web.no_slash (same ▸ List.mem_cons_self)
    unfold ofBytes
    rw [if_neg (Nat.not_lt.mpr fits)]
    rw [List.cons_append, List.cons_append] at full ⊢
    cases others : more ++ ascii "://" ++ (authority ++ rest) with
    | nil => simp [ascii_separator] at others
    | cons second others =>
      rw [others] at full
      simp only [start]
      exact full

end Uri

end MockKeeper
