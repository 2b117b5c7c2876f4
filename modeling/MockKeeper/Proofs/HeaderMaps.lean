import MockKeeper.Proofs.Lookup
import MockKeeper.Proxy.Policy

/-! Header maps are told apart by the values of each name. What crosses the proxy is every value
of a name, in order, or none. -/

namespace MockKeeper

namespace HeaderMap

theorem lookup_appendEntry (name other : HeaderName) (value : HeaderValue)
    (entries : List (HeaderName × List HeaderValue)) :
    (appendEntry name value entries).lookup other =
      if other = name then some ((entries.lookup name).getD [] ++ [value]) else entries.lookup other := by
  induction entries with
  | nil =>
    by_cases same : other = name
    · simp [appendEntry, same]
    · simp [appendEntry, List.lookup_cons, beq_false_of_ne same, same]
  | cons entry rest ih =>
    obtain ⟨first, values⟩ := entry
    unfold appendEntry
    by_cases here : first = name
    · subst here
      by_cases same : other = first
      · simp [same]
      · simp [List.lookup_cons, beq_false_of_ne same, same]
    · rw [if_neg here, List.lookup_cons, List.lookup_cons, List.lookup_cons, ih]
      by_cases found : other = first
      · subst found
        simp [here]
      · simp [beq_false_of_ne found, beq_false_of_ne (Ne.symm here)]

theorem values_empty (name : HeaderName) : empty.values name = [] := rfl

theorem values_append (map : HeaderMap) (name other : HeaderName) (value : HeaderValue) :
    (map.append name value).values other = map.values other ++ if other = name then [value] else [] := by
  unfold values append
  rw [lookup_appendEntry]
  by_cases same : other = name
  · simp [same]
  · simp [same]

def valuesIn (pairs : List (HeaderName × HeaderValue)) (name : HeaderName) : List HeaderValue :=
  (pairs.filter fun pair => pair.1 == name).map Prod.snd

theorem values_appendAll (map : HeaderMap) (pairs : List (HeaderName × HeaderValue)) (name : HeaderName) :
    (map.appendAll pairs).values name = map.values name ++ valuesIn pairs name := by
  unfold appendAll
  induction pairs generalizing map with
  | nil => simp [valuesIn]
  | cons pair rest ih =>
    rw [List.foldl_cons, ih, values_append, List.append_assoc]
    congr 1
    by_cases same : pair.1 = name
    · simp [valuesIn, same]
    · simp [valuesIn, same, Ne.symm same]

private theorem valuesIn_append (first last : List (HeaderName × HeaderValue)) (name : HeaderName) :
    valuesIn (first ++ last) name = valuesIn first name ++ valuesIn last name := by
  simp [valuesIn]

private theorem valuesIn_entry (first name : HeaderName) (values : List HeaderValue) :
    valuesIn (values.map (first, ·)) name = if name = first then values else [] := by
  by_cases same : name = first
  · subst same
    simp [valuesIn, List.filter_map, Function.comp_def]
  · simp [valuesIn, List.filter_map, Function.comp_def, same, Ne.symm same]

theorem valuesIn_toList (map : HeaderMap) (name : HeaderName) : valuesIn map.toList name = map.values name := by
  obtain ⟨entries, distinct⟩ := map
  unfold toList values
  dsimp only
  induction entries with
  | nil => rfl
  | cons entry rest ih =>
    obtain ⟨first, values⟩ := entry
    rw [List.map_cons, List.nodup_cons] at distinct
    rw [List.flatMap_cons, valuesIn_append, valuesIn_entry, ih distinct.2, List.lookup_cons]
    by_cases same : name = first
    · subst same
      have none : rest.lookup name = none := by
        rw [List.lookup_eq_none_iff]
        intro entry member
        apply bne_iff_ne.mpr
        intro again
        exact distinct.1 (List.mem_map.mpr ⟨entry, member, again.symm⟩)
      simp [none]
    · simp [same, beq_false_of_ne same]

theorem valuesIn_filter (holds : HeaderName → Bool) (pairs : List (HeaderName × HeaderValue))
    (name : HeaderName) :
    valuesIn (pairs.filter fun pair => holds pair.1) name = if holds name then valuesIn pairs name else [] := by
  unfold valuesIn
  rw [List.filter_filter]
  by_cases kept : holds name = true
  · rw [if_pos kept]
    congr 1
    apply List.filter_congr
    intro pair _
    by_cases same : pair.1 = name
    · simp [same, kept]
    · simp [same]
  · rw [if_neg kept, List.map_eq_nil_iff, List.filter_eq_nil_iff]
    intro pair _ both
    simp only [Bool.and_eq_true, beq_iff_eq] at both
    rw [both.1] at both
    exact kept both.2

end HeaderMap

namespace Proxy

/-- A name crosses the proxy with all its values, behind those that are there, or not at all. -/
theorem values_filterInto (direction : Direction) (source destination : HeaderMap) (name : HeaderName) :
    (filterInto direction source destination).values name =
      destination.values name ++ if forwards direction name then source.values name else [] := by
  rw [filterInto, HeaderMap.values_appendAll, HeaderMap.valuesIn_filter (forwards direction),
    HeaderMap.valuesIn_toList]

end Proxy

end MockKeeper
