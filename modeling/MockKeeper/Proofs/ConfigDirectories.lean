import MockKeeper.Config.Directory
import MockKeeper.Proofs.LossyNames
import MockKeeper.Proofs.Utf8Texts
import Mathlib.Logic.Relation

/-! What the check of a config directory says. The path is followed through links, and its
entries are taken as they are; nothing else of the tree matters, so that an answer that was good
stays good while entries come in anywhere. -/

namespace MockKeeper

/-- A name that ends as those of configuration files do, in small letters or in capitals. -/
def HasConfigName (name : Name) : Prop :=
  ∃ ending ∈ configFileEndings, Utf8.encode ending <:+ name.map Uri.lowerByte

def HoldsConfigFile (entries : List (Name × Entry)) : Prop :=
  ∃ name content, (name, Entry.file content) ∈ entries ∧ HasConfigName name

private theorem ending_plain {ending : String} (member : ending ∈ configFileEndings) :
    (Utf8.encode ending).map Utf8.character = ending.toList ∧
      ∀ byte ∈ Utf8.encode ending, 0 < byte ∧ byte < 0x80 := by
  have each : ∀ ending ∈ configFileEndings,
      (ending.toList.flatMap String.utf8EncodeChar).map Utf8.character = ending.toList ∧
      ∀ byte ∈ ending.toList.flatMap String.utf8EncodeChar, 0 < byte ∧ byte < 0x80 := by
    decide +kernel
  rw [Utf8.encode_eq]
  exact each ending member

/-- The name is looked at as it is shown, but what cannot be shown is in no ending. -/
theorem isConfigFileName_lossy (name : Name) :
    isConfigFileName (Utf8.lossy name) = true ↔ HasConfigName name := by
  unfold isConfigFileName HasConfigName Utf8.lossy
  simp only [List.any_eq_true, List.isSuffixOf_iff_suffix, String.toList_ofList]
  refine exists_congr fun ending => and_congr_right fun member => ?_
  obtain ⟨same, plain⟩ := ending_plain member
  rw [← same]
  exact Utf8.suffix_lossyFrom plain name

theorem any_isConfigFile (entries : List (Name × Entry)) :
    (entries.any fun (name, entry) => isConfigFile name entry) = true ↔ HoldsConfigFile entries := by
  simp only [List.any_eq_true, isConfigFile, Bool.and_eq_true, isConfigFileName_lossy]
  constructor
  · rintro ⟨⟨name, entry⟩, member, isFile, named⟩
    cases entry with
    | file content => exact ⟨name, content, member, named⟩
    | directory | link | special => cases isFile
  · rintro ⟨name, content, member, named⟩
    exact ⟨(name, .file content), member, rfl, named⟩

def Entry.face (entry : Name × Entry) : Name × Bool := (entry.1, entry.2.isFile)

theorem HoldsConfigFile.of_faces {entries others : List (Name × Entry)} (holds : HoldsConfigFile entries)
    (seen : ∀ entry ∈ entries, Entry.face entry ∈ others.map Entry.face) : HoldsConfigFile others := by
  obtain ⟨name, content, member, named⟩ := holds
  obtain ⟨⟨other, entry⟩, inside, same⟩ := List.mem_map.mp (seen _ member)
  obtain ⟨rfl, isFile⟩ := Prod.mk.inj same
  cases entry with
  | file content => exact ⟨other, content, inside, named⟩
  | directory | link | special => cases isFile

namespace FileTree

variable {tree : FileTree} {path : Bytes} {entries : List (Name × Entry)} (listing : Listing)

theorem checkListed_missing {error : FileError} (missing : tree.entry path = .error error) :
    tree.checkListed listing path = .error (.notFound (Utf8.lossy path)) := by
  simp only [checkListed, missing]

theorem checkListed_other {entry : Entry} (found : tree.entry path = .ok entry) (other : entry.isDirectory = false) :
    tree.checkListed listing path = .error (.notADirectory (Utf8.lossy path)) := by
  cases entry with
  | directory => cases other
  | file | link | special => simp only [checkListed, found]

theorem checkListed_unreadable {error : OsError} (found : tree.entry path = .ok (.directory entries))
    (listed : listing entries = .error error) :
    tree.checkListed listing path = .error (.unreadable (Utf8.lossy path) error.message) := by
  simp only [checkListed, found, listed]

def Lists (tree : FileTree) (listing : Listing) (path : Bytes) (seen : List (Name × Entry)) : Prop :=
  ∃ entries, tree.entry path = .ok (.directory entries) ∧ listing entries = .ok seen

theorem lists_all : tree.Lists .ok path entries ↔ tree.entry path = .ok (.directory entries) :=
  ⟨fun ⟨_, found, listed⟩ => Except.ok.inj listed ▸ found, fun found => ⟨entries, found, rfl⟩⟩

variable {listing} {seen : List (Name × Entry)}

theorem checkListed_holding (lists : tree.Lists listing path seen) (holds : HoldsConfigFile seen) :
    tree.checkListed listing path = .ok () := by
  obtain ⟨entries, found, listed⟩ := lists
  simp only [checkListed, found, listed]
  exact if_pos ((any_isConfigFile seen).mpr holds)

theorem checkListed_lacking (lists : tree.Lists listing path seen) (lacks : ¬ HoldsConfigFile seen) :
    tree.checkListed listing path = .error (.noConfigFiles (Utf8.lossy path)) := by
  obtain ⟨entries, found, listed⟩ := lists
  simp only [checkListed, found, listed]
  exact if_neg fun any => lacks ((any_isConfigFile seen).mp any)

/-- Why the check gives an answer. -/
inductive Answers (tree : FileTree) (listing : Listing) (path : Bytes) : Except ConfigError Unit → Prop
  | missing {error : FileError} (missing : tree.entry path = .error error) :
      Answers tree listing path (.error (.notFound (Utf8.lossy path)))
  | other {entry : Entry} (found : tree.entry path = .ok entry) (other : entry.isDirectory = false) :
      Answers tree listing path (.error (.notADirectory (Utf8.lossy path)))
  | unreadable {entries : List (Name × Entry)} {error : OsError} (found : tree.entry path = .ok (.directory entries))
      (listed : listing entries = .error error) :
      Answers tree listing path (.error (.unreadable (Utf8.lossy path) error.message))
  | holding {seen : List (Name × Entry)} (lists : tree.Lists listing path seen) (holds : HoldsConfigFile seen) :
      Answers tree listing path (.ok ())
  | lacking {seen : List (Name × Entry)} (lists : tree.Lists listing path seen) (lacks : ¬ HoldsConfigFile seen) :
      Answers tree listing path (.error (.noConfigFiles (Utf8.lossy path)))

theorem checkListed_answers (tree : FileTree) (listing : Listing) (path : Bytes) :
    tree.Answers listing path (tree.checkListed listing path) := by
  cases found : tree.entry path with
  | error error =>
    rw [checkListed_missing listing found]
    exact .missing found
  | ok entry =>
    cases entry with
    | file | link | special =>
      rw [checkListed_other listing found rfl]
      exact .other found rfl
    | directory entries =>
      cases listed : listing entries with
      | error error =>
        rw [checkListed_unreadable listing found listed]
        exact .unreadable found listed
      | ok seen =>
        by_cases holds : HoldsConfigFile seen
        · rw [checkListed_holding ⟨entries, found, listed⟩ holds]
          exact .holding ⟨entries, found, listed⟩ holds
        · rw [checkListed_lacking ⟨entries, found, listed⟩ holds]
          exact .lacking ⟨entries, found, listed⟩ holds

theorem checkListed_eq_ok :
    tree.checkListed listing path = .ok () ↔ ∃ seen, tree.Lists listing path seen ∧ HoldsConfigFile seen := by
  refine ⟨fun passed => ?_, fun ⟨_, lists, holds⟩ => checkListed_holding lists holds⟩
  have answers := checkListed_answers tree listing path
  rw [passed] at answers
  cases answers with
  | holding lists holds => exact ⟨_, lists, holds⟩

theorem checkListed_eq_notFound :
    tree.checkListed listing path = .error (.notFound (Utf8.lossy path)) ↔ ∃ error, tree.entry path = .error error := by
  refine ⟨fun failed => ?_, fun ⟨_, missing⟩ => checkListed_missing listing missing⟩
  have answers := checkListed_answers tree listing path
  rw [failed] at answers
  cases answers with
  | missing missing => exact ⟨_, missing⟩

theorem checkListed_eq_notADirectory :
    tree.checkListed listing path = .error (.notADirectory (Utf8.lossy path)) ↔
      ∃ entry, tree.entry path = .ok entry ∧ entry.isDirectory = false := by
  refine ⟨fun failed => ?_, fun ⟨_, found, other⟩ => checkListed_other listing found other⟩
  have answers := checkListed_answers tree listing path
  rw [failed] at answers
  cases answers with
  | other found other => exact ⟨_, found, other⟩

theorem checkListed_eq_noConfigFiles :
    tree.checkListed listing path = .error (.noConfigFiles (Utf8.lossy path)) ↔
      ∃ seen, tree.Lists listing path seen ∧ ¬ HoldsConfigFile seen := by
  refine ⟨fun failed => ?_, fun ⟨_, lists, lacks⟩ => checkListed_lacking lists lacks⟩
  have answers := checkListed_answers tree listing path
  rw [failed] at answers
  cases answers with
  | lacking lists lacks => exact ⟨_, lists, lacks⟩

theorem checkListed_same {other : FileTree} {otherListing : Listing} {otherSeen : List (Name × Entry)}
    (lists : tree.Lists listing path seen) (listsThere : other.Lists otherListing path otherSeen)
    (same : (seen.map Entry.face).Perm (otherSeen.map Entry.face)) :
    other.checkListed otherListing path = tree.checkListed listing path := by
  by_cases holds : HoldsConfigFile seen
  · have holdsThere := holds.of_faces fun entry member => same.subset (List.mem_map_of_mem member)
    rw [checkListed_holding lists holds, checkListed_holding listsThere holdsThere]
  · have lacksThere : ¬ HoldsConfigFile otherSeen := fun holdsThere =>
      holds (holdsThere.of_faces fun entry member => same.symm.subset (List.mem_map_of_mem member))
    rw [checkListed_lacking lists holds, checkListed_lacking listsThere lacksThere]

end FileTree

/-- One entry more in a directory of a tree, or in one further down. -/
inductive Entry.Grows : Entry → Entry → Prop
  | added {before after : List (Name × Entry)} {name : Name} {entry : Entry}
      (new : ∀ other ∈ before ++ after, other.1 ≠ name) :
      Grows (.directory (before ++ after)) (.directory (before ++ (name, entry) :: after))
  | within {before after : List (Name × Entry)} {name : Name} {entry grown : Entry} (grows : Grows entry grown) :
      Grows (.directory (before ++ (name, entry) :: after)) (.directory (before ++ (name, grown) :: after))

namespace Entry

def Kept (entry later : Entry) : Prop := later = entry ∨ entry.Grows later

theorem Kept.same_face {entry later : Entry} (kept : Kept entry later) (name : Name) :
    face (name, later) = face (name, entry) := by
  rcases kept with rfl | grows
  · rfl
  · cases grows <;> rfl

theorem Kept.directory {entries : List (Name × Entry)} {later : Entry} (kept : Kept (.directory entries) later) :
    ∃ others, later = .directory others ∧ ∀ entry ∈ entries, face entry ∈ others.map face := by
  rcases kept with rfl | grows
  · exact ⟨entries, rfl, fun entry member => List.mem_map_of_mem member⟩
  · cases grows with
    | @added before after name entry new =>
      refine ⟨_, rfl, fun other member => List.mem_map_of_mem ?_⟩
      rcases List.mem_append.mp member with first | last
      · exact List.mem_append_left _ first
      · exact List.mem_append_right _ (List.mem_cons_of_mem _ last)
    | @within before after name entry grown grows =>
      refine ⟨_, rfl, fun other member => ?_⟩
      have same : face (name, grown) = face (name, entry) := Kept.same_face (.inr grows) name
      rw [List.map_append, List.map_cons, same, ← List.map_cons, ← List.map_append]
      exact List.mem_map_of_mem member

theorem Grows.lookup {entries others : List (Name × Entry)} (grows : Grows (.directory entries) (.directory others))
    {name : Name} {entry : Entry} (found : entries.lookup name = some entry) :
    ∃ later, others.lookup name = some later ∧ Kept entry later := by
  cases grows with
  | @added before after fresh _ new =>
    have other : name ≠ fresh := by
      obtain ⟨first, last, split, -⟩ := List.lookup_eq_some_iff.mp found
      exact new (name, entry) (split ▸ List.mem_append_right _ List.mem_cons_self)
    refine ⟨entry, ?_, .inl rfl⟩
    rw [List.lookup_append] at found ⊢
    rwa [List.lookup_cons, beq_false_of_ne other]
  | @within before after inner old grown grows =>
    rw [List.lookup_append, List.lookup_cons] at found ⊢
    cases earlier : before.lookup name with
    | some first =>
      rw [earlier] at found
      exact ⟨entry, found, .inl rfl⟩
    | none =>
      rw [earlier] at found
      by_cases same : name = inner
      · subst same
        simp only [beq_self_eq_true] at found ⊢
        cases found
        exact ⟨grown, rfl, .inr grows⟩
      · simp only [beq_false_of_ne same] at found ⊢
        exact ⟨entry, found, .inl rfl⟩

theorem Kept.lookup {entries others : List (Name × Entry)} (kept : Kept (.directory entries) (.directory others))
    {name : Name} {entry : Entry} (found : entries.lookup name = some entry) :
    ∃ later, others.lookup name = some later ∧ Kept entry later := by
  rcases kept with same | grows
  · cases same
    exact ⟨entry, found, .inl rfl⟩
  · exact grows.lookup found

theorem Kept.find? {root grown entry : Entry} (kept : Kept root grown) {place : List Name}
    (found : root.find? place = some entry) : ∃ later, grown.find? place = some later ∧ Kept entry later := by
  rcases kept with rfl | grows
  · exact ⟨entry, found, .inl rfl⟩
  induction place generalizing root grown with
  | nil =>
    cases root <;> cases found <;> exact ⟨grown, by cases grown <;> rfl, .inr grows⟩
  | cons name rest ih =>
    obtain ⟨entries, rfl⟩ : ∃ entries, root = .directory entries := by cases grows <;> exact ⟨_, rfl⟩
    obtain ⟨others, rfl⟩ : ∃ others, grown = .directory others := by cases grows <;> exact ⟨_, rfl⟩
    simp only [Entry.find?] at found ⊢
    cases looked : entries.lookup name with
    | none =>
      rw [looked] at found
      cases found
    | some inner =>
      rw [looked] at found
      obtain ⟨later, stays, kept⟩ := grows.lookup looked
      rw [stays]
      rcases kept with rfl | grows
      · exact ⟨entry, found, .inl rfl⟩
      · exact ih found grows

end Entry

namespace FileTree

/-- A walk that arrived arrives at the same place again: no entry on its way is taken away. -/
theorem walk_kept {root grown : Entry} (kept : Entry.Kept root grown) {followLast : Bool} {links : Nat}
    {place todo reached : List Name} (walked : walk root followLast links place todo = .ok (reached, true)) :
    walk grown followLast links place todo = .ok (reached, true) := by
  have there : ∀ {place entries}, root.find? place = some (.directory entries) →
      ∃ others, grown.find? place = some (.directory others) ∧
        Entry.Kept (.directory entries) (.directory others) := by
    intro place entries found
    obtain ⟨later, stays, keptThere⟩ := kept.find? found
    obtain ⟨others, rfl, -⟩ := keptThere.directory
    exact ⟨others, stays, keptThere⟩
  fun_induction walk root followLast links place todo with
  | case1 => rwa [walk]
  | case2 links place rest entries found ih =>
    obtain ⟨others, stays, -⟩ := there found
    rw [walk, stays]
    exact ih walked
  | case3 links place rest entries found notSelf ih =>
    obtain ⟨others, stays, -⟩ := there found
    rw [walk, stays]
    exact ih walked
  | case7 links place name rest entries found notSelf notParent short target linked ends =>
    obtain ⟨others, stays, keptThere⟩ := there found
    obtain ⟨later, inside, keptLink⟩ := keptThere.lookup linked
    obtain rfl : later = .link target := keptLink.resolve_right nofun
    rw [walk, stays]
    simp only [if_neg notSelf, if_neg notParent, if_neg short, inside, if_pos ends]
    exact walked
  | case9 place name rest entries found notSelf notParent short target linked goesOn links ih =>
    obtain ⟨others, stays, keptThere⟩ := there found
    obtain ⟨later, inside, keptLink⟩ := keptThere.lookup linked
    obtain rfl : later = .link target := keptLink.resolve_right nofun
    rw [walk, stays]
    simp only [if_neg notSelf, if_neg notParent, if_neg short, inside, if_neg goesOn]
    exact ih walked
  | case10 links place name rest entries found notSelf notParent short entry noLink inside ih =>
    obtain ⟨others, stays, keptThere⟩ := there found
    obtain ⟨later, insideLater, keptEntry⟩ := keptThere.lookup inside
    rw [walk, stays]
    simp only [if_neg notSelf, if_neg notParent, if_neg short, insideLater]
    cases later with
    | link target =>
      rcases keptEntry with same | grows
      · exact absurd same.symm (noLink target)
      · cases grows
    | file | directory | special => exact ih walked
  | case4 | case5 | case6 | case8 | case11 | case12 => cases walked

theorem place_kept {tree : FileTree} {grown : Entry} (kept : Entry.Kept tree.root grown) {path : Bytes}
    {followLast : Bool} {reached : List Name} (placed : tree.place path followLast = .ok (reached, true)) :
    FileTree.place { tree with root := grown } path followLast = .ok (reached, true) := by
  unfold place at placed ⊢
  by_cases zero : path.contains 0 = true
  · rw [if_pos zero] at placed
    cases placed
  by_cases empty : path.isEmpty = true
  · rw [if_neg zero, if_pos empty] at placed
    cases placed
  by_cases long : pathLimit ≤ path.length
  · rw [if_neg zero, if_neg empty, if_pos long] at placed
    cases placed
  rw [if_neg zero, if_neg empty, if_neg long] at placed ⊢
  split at placed
  next found walked =>
    cases placed
    rw [walk_kept kept walked]
  next => cases placed

theorem entry_kept {tree : FileTree} {grown : Entry} (kept : Entry.Kept tree.root grown) {path : Bytes}
    {entries : List (Name × Entry)} (found : tree.entry path = .ok (.directory entries)) :
    ∃ others, FileTree.entry { tree with root := grown } path = .ok (.directory others) ∧
      ∀ entry ∈ entries, Entry.face entry ∈ others.map Entry.face := by
  unfold entry locate at found ⊢
  split at found
  next reached located =>
    split at located
    next placed =>
      cases located
      split at found
      next there =>
        cases found
        obtain ⟨later, stays, keptThere⟩ := kept.find? there
        obtain ⟨others, rfl, held⟩ := keptThere.directory
        simp only [place_kept kept placed, stays]
        exact ⟨others, rfl, held⟩
      next => cases found
    next => cases located
    next => cases located
  next => cases found

theorem check_kept {tree : FileTree} {grown : Entry} (kept : Entry.Kept tree.root grown) {path : Bytes}
    (passed : tree.checkConfigDirectory path = .ok ()) :
    FileTree.checkConfigDirectory { tree with root := grown } path = .ok () := by
  obtain ⟨entries, lists, holds⟩ := checkListed_eq_ok.mp passed
  obtain ⟨others, stays, held⟩ := entry_kept kept (lists_all.mp lists)
  exact checkListed_holding (lists_all.mpr stays) (holds.of_faces held)

/-- The check of a config directory is exact. It passes where the path leads, through links, to
a directory that holds a file with one of the endings, and otherwise says what is wrong: that the
path leads nowhere, that it leads to no directory, or that nothing in the directory is such a file.
A directory that cannot be listed is an error of its own, and what cannot be read in one that can
is not missed. The answer goes by the names and kinds of what is listed, in any order, and by
nothing else in the tree; and a check that passes does so still after entries were put anywhere. -/
theorem config_directory_check_exact (tree : FileTree) (path : Bytes) :
    (tree.checkConfigDirectory path = .ok () ↔
      ∃ entries, tree.entry path = .ok (.directory entries) ∧ HoldsConfigFile entries) ∧
    (tree.checkConfigDirectory path = .error (.notFound (Utf8.lossy path)) ↔
      ∃ error, tree.entry path = .error error) ∧
    (tree.checkConfigDirectory path = .error (.notADirectory (Utf8.lossy path)) ↔
      ∃ entry, tree.entry path = .ok entry ∧ entry.isDirectory = false) ∧
    (tree.checkConfigDirectory path = .error (.noConfigFiles (Utf8.lossy path)) ↔
      ∃ entries, tree.entry path = .ok (.directory entries) ∧ ¬ HoldsConfigFile entries) ∧
    (∀ (listing : Listing) entries error, tree.entry path = .ok (.directory entries) →
      listing entries = .error error →
      tree.checkListed listing path = .error (.unreadable (Utf8.lossy path) error.message)) ∧
    (∀ listing : Listing,
      (tree.checkListed listing path = .ok () ↔ ∃ seen, tree.Lists listing path seen ∧ HoldsConfigFile seen) ∧
      (tree.checkListed listing path = .error (.noConfigFiles (Utf8.lossy path)) ↔
        ∃ seen, tree.Lists listing path seen ∧ ¬ HoldsConfigFile seen)) ∧
    (∀ (other : FileTree) (listing otherListing : Listing) seen otherSeen, tree.Lists listing path seen →
      other.Lists otherListing path otherSeen → (seen.map Entry.face).Perm (otherSeen.map Entry.face) →
      other.checkListed otherListing path = tree.checkListed listing path) ∧
    ∀ grown, Relation.ReflTransGen Entry.Grows tree.root grown → tree.checkConfigDirectory path = .ok () →
      FileTree.checkConfigDirectory { tree with root := grown } path = .ok () := by
  simp only [← lists_all]
  refine ⟨checkListed_eq_ok, checkListed_eq_notFound, checkListed_eq_notADirectory, checkListed_eq_noConfigFiles,
    ?_, ?_, ?_, ?_⟩
  · intro listing entries error found listed
    exact checkListed_unreadable listing (lists_all.mp found) listed
  · exact fun listing => ⟨checkListed_eq_ok, checkListed_eq_noConfigFiles⟩
  · intro other listing otherListing seen otherSeen lists listsThere same
    exact checkListed_same lists listsThere same
  · intro grown grows passed
    induction grows with
    | refl => exact passed
    | @tail middle _ _ grows ih => exact @check_kept { tree with root := middle } _ (.inr grows) path ih

theorem entry_name {tree : FileTree} {entries : List (Name × Entry)} {name : Name} {entry : Entry}
    (root : tree.root = .directory entries) (here : tree.here = [])
    (plain : Path.names name = [name] ∧ ¬ Path.isAbsolute name ∧ ¬ name.contains 0 ∧ ¬ name.isEmpty)
    (short : name.length ≤ nameLimit) (other : name ≠ Path.self ∧ name ≠ Path.parent)
    (found : entries.lookup name = some entry) (ends : ∀ target, entry ≠ .link target) : tree.entry name = .ok entry := by
  obtain ⟨alone, relative, sound, given⟩ := plain
  have fits : ¬ pathLimit ≤ name.length := Nat.not_le.mpr (Nat.lt_of_le_of_lt short (by decide))
  have walked : walk tree.root true linkLimit [] [name] = .ok ([name], true) := by
    rw [walk, root, Entry.find?]
    simp only [if_neg other.1, if_neg other.2, if_neg (Nat.not_lt.mpr short), found]
    cases entry with
    | link target => exact absurd rfl (ends target)
    | _ => simp only [List.nil_append, walk]
  have leads : tree.locate name true = .ok [name] := by
    simp only [locate, place, if_neg sound, if_neg given, if_neg fits, if_neg relative, alone, here, walked]
  simp only [FileTree.entry, leads, root, Entry.find?, found]

/-- A directory for each ending, in capitals or not, and one in which such names are of a directory,
a link and a pipe. -/
def mocks : FileTree where
  root := .directory [
    (ascii "yaml", .directory [(ascii "pets-config.yaml", .file [])]),
    (ascii "yml", .directory [(ascii "-config.yml", .file [])]),
    (ascii "json", .directory [(ascii "README", .file []), (ascii "Pets-CONFIG.JSON", .file [])]),
    (ascii "none", .directory [(ascii "a-config.yaml", .directory []), (ascii "b-config.yml", .link (ascii "c")),
      (ascii "c-config.json", .special (.ok [])), (ascii "config.yaml", .file []),
      (ascii "d-config.yaml.bak", .file [])]),
    (ascii "pipe", .special (.ok []))]

theorem mocks_checked :
    (∀ name ∈ ["yaml", "yml", "json"], mocks.checkConfigDirectory (ascii name) = .ok ()) ∧
    mocks.checkConfigDirectory (ascii "none") = .error (.noConfigFiles (Utf8.lossy (ascii "none"))) ∧
    mocks.checkConfigDirectory (ascii "pipe") = .error (.notADirectory (Utf8.lossy (ascii "pipe"))) := by
  refine ⟨?_, ?_, ?_⟩
  · intro name member
    have passes (listing : List (Name × Entry)) (found : mocks.entry (ascii name) = .ok (.directory listing))
        (holds : (listing.any fun (name, entry) => isConfigFile name entry) = true) :
        mocks.checkConfigDirectory (ascii name) = .ok () :=
      (config_directory_check_exact mocks (ascii name)).1.mpr ⟨listing, found, (any_isConfigFile listing).mp holds⟩
    rcases List.mem_cons.mp member with rfl | member
    · exact passes _ (entry_name rfl rfl (by decide) (by decide) (by decide) rfl nofun) (by decide +kernel)
    rcases List.mem_cons.mp member with rfl | member
    · exact passes _ (entry_name rfl rfl (by decide) (by decide) (by decide) rfl nofun) (by decide +kernel)
    rcases List.mem_singleton.mp member with rfl
    exact passes _ (entry_name rfl rfl (by decide) (by decide) (by decide) rfl nofun) (by decide +kernel)
  · obtain ⟨-, -, -, lacking, -⟩ := config_directory_check_exact mocks (ascii "none")
    refine lacking.mpr ⟨_, entry_name rfl rfl (by decide) (by decide) (by decide) rfl nofun, fun holds => ?_⟩
    have none := (any_isConfigFile _).mpr holds
    exact absurd none (by decide +kernel)
  · obtain ⟨-, -, other, -⟩ := config_directory_check_exact mocks (ascii "pipe")
    exact other.mpr ⟨.special (.ok []), entry_name rfl rfl (by decide) (by decide) (by decide) rfl nofun, rfl⟩

end FileTree

end MockKeeper
