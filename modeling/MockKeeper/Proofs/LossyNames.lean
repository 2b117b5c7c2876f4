import MockKeeper.Http.Uri
import MockKeeper.Text.Utf8
import Mathlib.Data.List.Infix

/-! Text read from bytes of any kind. What cannot be read is replaced, but an ASCII byte is always
read as its character, and no other byte is read as one, so that an ASCII ending of the text is an
ending of the bytes. -/

namespace MockKeeper.Utf8

/-- A character that is none of ASCII, or the one that stands for a number that is no character's. -/
def Foreign (char : Char) : Prop := char.toNat = 0 ∨ 128 ≤ char.toNat

theorem foreign_ofNat {number : Nat} (big : 128 ≤ number) : Foreign (Char.ofNat number) := by
  by_cases valid : number.isValidChar
  · have same : Char.ofNat number = Char.ofNatAux number valid := dif_pos valid
    rw [same]
    exact .inr big
  · have zero : Char.ofNat number = ⟨0, by decide⟩ := dif_neg valid
    rw [zero]
    exact .inl rfl

theorem foreign_replacement : Foreign replacement := .inr (by decide)

/-- Whatever bytes complete the character, its number will be too big for ASCII. -/
structure Partial.Wide (part : Partial) : Prop where
  low : 128 ≤ part.low.toNat
  last : part.missing = 1 → 2 ≤ part.bits
  more : part.missing ≠ 1 → 130 ≤ part.bits * 64 + part.low.toNat

theorem Partial.wide_last {bits : Nat} {low high : UInt8} (least : 128 ≤ low.toNat) (enough : 2 ≤ bits) :
    Partial.Wide ⟨1, bits, low, high⟩ :=
  ⟨least, fun _ => enough, fun other => absurd rfl other⟩

theorem Partial.wide_more {missing bits : Nat} {low high : UInt8} (several : missing ≠ 1)
    (least : 128 ≤ low.toNat) (enough : 130 ≤ bits * 64 + low.toNat) : Partial.Wide ⟨missing, bits, low, high⟩ :=
  ⟨least, fun one => absurd one several, fun _ => enough⟩

theorem Partial.Wide.continued {part : Partial} {byte : UInt8} (wide : part.Wide) (inRange : part.low ≤ byte)
    (several : part.missing ≠ 1) :
    Partial.Wide ⟨part.missing - 1, part.bits * 64 + (byte.toNat - 0x80), 0x80, 0xBF⟩ := by
  have enough := wide.more several
  have least : part.low.toNat ≤ byte.toNat := inRange
  have low := wide.low
  by_cases next : part.missing - 1 = 1
  · rw [next]
    exact wide_last (by decide) (by omega)
  · exact wide_more next (by decide) (by show 130 ≤ _ * 64 + 128; omega)

theorem Partial.Wide.completed {part : Partial} (wide : part.Wide) (one : part.missing = 1) (byte : UInt8) :
    Foreign (Char.ofNat (part.bits * 64 + (byte.toNat - 0x80))) := by
  have enough := wide.last one
  exact foreign_ofNat (by omega)

theorem lead_ascii {byte : UInt8} (ascii : byte < 0x80) : lead byte = ([Char.ofNat byte.toNat], none) :=
  if_pos ascii

theorem lead_wide {byte : UInt8} (wide : ¬ byte < 0x80) :
    lead byte = ([replacement], none) ∨ ∃ part, part.Wide ∧ lead byte = ([], some part) := by
  unfold lead
  simp only [if_neg wide]
  split
  next range =>
    have least : 0xC2 ≤ byte.toNat := range.1
    exact .inr ⟨_, Partial.wide_last (by decide) (by omega), rfl⟩
  split
  next => exact .inr ⟨_, Partial.wide_more (by decide) (by decide) (by decide), rfl⟩
  split
  next => exact .inr ⟨_, Partial.wide_more (by decide) (by decide) (by decide), rfl⟩
  split
  next range =>
    have least : 0xE1 ≤ byte.toNat := range.1
    exact .inr ⟨_, Partial.wide_more (by decide) (by decide) (by show 130 ≤ _ * 64 + 128; omega), rfl⟩
  split
  next => exact .inr ⟨_, Partial.wide_more (by decide) (by decide) (by decide), rfl⟩
  split
  next range =>
    have least : 0xF1 ≤ byte.toNat := range.1
    exact .inr ⟨_, Partial.wide_more (by decide) (by decide) (by show 130 ≤ _ * 64 + 128; omega), rfl⟩
  split
  next => exact .inr ⟨_, Partial.wide_more (by decide) (by decide) (by decide), rfl⟩
  next => exact .inl rfl

def Sane (state : Option Partial) : Prop := ∀ part ∈ state, part.Wide

theorem sane_none : Sane none := nofun

theorem sane_some {part : Partial} (wide : part.Wide) : Sane (some part) := by
  rintro other ⟨⟩
  exact wide

variable {state : Option Partial} {byte : UInt8}

theorem lossyFrom_ascii (sane : Sane state) (ascii : byte < 0x80) (rest : Bytes) :
    lossyFrom state (byte :: rest) = lossyFrom state [] ++ Char.ofNat byte.toNat :: lossyFrom none rest := by
  cases state with
  | none => simp only [lossyFrom, lead_ascii ascii, List.nil_append, List.singleton_append]
  | some part =>
    have outside : ¬ (part.low ≤ byte ∧ byte ≤ part.high) := by
      rintro ⟨inRange, -⟩
      have low := (sane part rfl).low
      have least : part.low.toNat ≤ byte.toNat := inRange
      have most : byte.toNat < 128 := ascii
      omega
    simp only [lossyFrom, if_neg outside, lead_ascii ascii, List.cons_append, List.nil_append]

theorem lossyFrom_wide (sane : Sane state) (wide : ¬ byte < 0x80) :
    ∃ chars next, Sane next ∧ (∀ rest, lossyFrom state (byte :: rest) = chars ++ lossyFrom next rest) ∧
      (next = none → ∃ front last, chars = front ++ [last] ∧ Foreign last) := by
  have begun : ∀ front : List Char, ∃ chars next, Sane next ∧
      (∀ rest, front ++ (lead byte).1 ++ lossyFrom (lead byte).2 rest = chars ++ lossyFrom next rest) ∧
      (next = none → ∃ front last, chars = front ++ [last] ∧ Foreign last) := by
    intro front
    rcases lead_wide wide with replaced | ⟨part, partWide, begins⟩
    · rw [replaced]
      exact ⟨_, none, sane_none, fun _ => rfl, fun _ => ⟨front, _, rfl, foreign_replacement⟩⟩
    · rw [begins]
      exact ⟨_, some part, sane_some partWide, fun _ => rfl, nofun⟩
  cases state with
  | none => simpa only [lossyFrom, List.nil_append] using begun []
  | some part =>
    have partWide := sane part rfl
    by_cases inRange : part.low ≤ byte ∧ byte ≤ part.high
    · by_cases one : part.missing = 1
      · refine ⟨_, none, sane_none, fun rest => ?_, fun _ => ⟨[], _, rfl, partWide.completed one byte⟩⟩
        simp only [lossyFrom, if_pos inRange, if_pos one, List.nil_append, List.singleton_append]
      · refine ⟨[], _, sane_some (partWide.continued inRange.1 one), fun rest => ?_, nofun⟩
        simp only [lossyFrom, if_pos inRange, if_neg one, List.nil_append]
    · simpa only [lossyFrom, if_neg inRange, List.singleton_append] using begun [replacement]

theorem lossyFrom_append_ascii (sane : Sane state) (ascii : byte < 0x80) (first rest : Bytes) :
    lossyFrom state (first ++ byte :: rest) =
      lossyFrom state first ++ Char.ofNat byte.toNat :: lossyFrom none rest := by
  induction first generalizing state with
  | nil => exact lossyFrom_ascii sane ascii rest
  | cons head first ih =>
    by_cases headAscii : head < 0x80
    · rw [List.cons_append, lossyFrom_ascii sane headAscii, lossyFrom_ascii sane headAscii, ih sane_none]
      simp only [List.append_assoc, List.cons_append]
    · obtain ⟨chars, next, saneNext, reads, -⟩ := lossyFrom_wide sane headAscii
      rw [List.cons_append, reads, reads, ih saneNext, List.append_assoc]

theorem lossyFrom_append_wide (sane : Sane state) (wide : ¬ byte < 0x80) (first : Bytes) :
    ∃ front last, lossyFrom state (first ++ [byte]) = front ++ [last] ∧ Foreign last := by
  induction first generalizing state with
  | nil =>
    obtain ⟨chars, next, -, reads, ends⟩ := lossyFrom_wide sane wide
    rw [List.nil_append, reads]
    cases next with
    | none =>
      obtain ⟨front, last, rfl, foreign⟩ := ends rfl
      exact ⟨front, last, List.append_nil _, foreign⟩
    | some part => exact ⟨chars, replacement, rfl, foreign_replacement⟩
  | cons head first ih =>
    by_cases headAscii : head < 0x80
    · obtain ⟨front, last, ends, foreign⟩ := ih sane_none
      rw [List.cons_append, lossyFrom_ascii sane headAscii, ends]
      exact ⟨lossyFrom state [] ++ Char.ofNat head.toNat :: front, last,
        by simp only [List.append_assoc, List.cons_append], foreign⟩
    · obtain ⟨chars, next, saneNext, reads, -⟩ := lossyFrom_wide sane headAscii
      obtain ⟨front, last, ends, foreign⟩ := ih saneNext
      rw [List.cons_append, reads, ends]
      exact ⟨chars ++ front, last, (List.append_assoc _ _ _).symm, foreign⟩

open Uri (lowerByte)

def character (byte : UInt8) : Char := Char.ofNat byte.toNat

theorem toLower_character (ascii : byte < 0x80) : (character byte).toLower = character (lowerByte byte) := by
  have each : ∀ number : Fin 256, UInt8.ofFin number < 0x80 →
      (character (UInt8.ofFin number)).toLower = character (lowerByte (UInt8.ofFin number)) := by
    decide +kernel
  exact each byte.toFin ascii

theorem lowerByte_ascii : lowerByte byte < 0x80 ↔ byte < 0x80 := by
  have each : ∀ number : Fin 256, lowerByte (UInt8.ofFin number) < 0x80 ↔ UInt8.ofFin number < 0x80 := by
    decide +kernel
  exact each byte.toFin

theorem toNat_character (ascii : byte < 0x80) : (character byte).toNat = byte.toNat := by
  have each : ∀ number : Fin 256, UInt8.ofFin number < 0x80 →
      (character (UInt8.ofFin number)).toNat = (UInt8.ofFin number).toNat := by
    decide +kernel
  exact each byte.toFin ascii

theorem Foreign.toLower {char : Char} (foreign : Foreign char) : char.toLower = char := by
  unfold Char.toLower
  split
  next capital =>
    have least : 65 ≤ char.toNat := capital.1
    have most : char.toNat ≤ 90 := capital.2
    rcases foreign with zero | big <;> omega
  next => rfl

theorem suffix_concat {α : Type} {ending list : List α} {final last : α} :
    ending ++ [final] <:+ list ++ [last] ↔ ending <:+ list ∧ final = last := by
  rw [List.suffix_append_inj_of_length_eq (by simp), List.cons.injEq, and_iff_left rfl]

/-- A text read from bytes ends in a small ASCII text exactly where the bytes do. -/
theorem suffix_lossyFrom {ending : Bytes} (plain : ∀ byte ∈ ending, 0 < byte ∧ byte < 0x80) (bytes : Bytes) :
    ending.map character <:+ (lossyFrom none bytes).map Char.toLower ↔ ending <:+ bytes.map lowerByte := by
  induction ending using List.reverseRecOn generalizing bytes with
  | nil => simp only [List.map_nil, List.nil_suffix]
  | append_singleton ending final ih =>
    have plainFinal := plain final (List.mem_append_right _ (List.mem_singleton_self final))
    have plainEnding : ∀ byte ∈ ending, 0 < byte ∧ byte < 0x80 :=
      fun byte member => plain byte (List.mem_append_left _ member)
    rcases List.eq_nil_or_concat' bytes with rfl | ⟨first, byte, rfl⟩
    · simp [lossyFrom]
    · by_cases ascii : byte < 0x80
      · have reads : lossyFrom none (first ++ [byte]) = lossyFrom none first ++ [character byte] :=
          lossyFrom_append_ascii sane_none ascii first []
        have same : character final = character (lowerByte byte) ↔ final = lowerByte byte := by
          refine ⟨fun equal => ?_, congrArg _⟩
          have numbers := congrArg Char.toNat equal
          rw [toNat_character plainFinal.2, toNat_character (lowerByte_ascii.mpr ascii)] at numbers
          exact UInt8.toNat_inj.mp numbers
        rw [reads]
        simp only [List.map_append, List.map_cons, List.map_nil, toLower_character ascii]
        rw [suffix_concat, suffix_concat, ih plainEnding, same]
      · obtain ⟨front, last, reads, foreign⟩ := lossyFrom_append_wide sane_none ascii first
        rw [reads]
        simp only [List.map_append, List.map_cons, List.map_nil, foreign.toLower]
        rw [suffix_concat, suffix_concat]
        refine iff_of_false (fun ⟨_, equal⟩ => ?_) fun ⟨_, equal⟩ => ?_
        · have numbers := congrArg Char.toNat equal
          rw [toNat_character plainFinal.2] at numbers
          have least : 0 < final.toNat := plainFinal.1
          have most : final.toNat < 128 := plainFinal.2
          rcases foreign with zero | big <;> omega
        · exact ascii (lowerByte_ascii.mp (equal ▸ plainFinal.2))

end MockKeeper.Utf8
