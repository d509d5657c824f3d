import ShaclQuery.Query.Text

/-! # Prefix tables

No prefix stands in a table twice, so the namespace that is looked up for a prefix is the one an
IRI was shortened by, and the rest of the IRI behind that namespace gives the whole IRI.
-/

namespace ShaclQuery

/-! ## 1. Distinct prefixes -/

theorem lookup_eq_some_of_mem {entries : List (String × String)}
    (hdistinct : (entries.map Prod.fst).Nodup) {e : String × String} (he : e ∈ entries) :
    entries.lookup e.1 = some e.2 := by
  induction entries with
  | nil => cases he
  | cons first rest ih =>
    rw [List.map_cons, List.nodup_cons] at hdistinct
    rw [List.lookup_cons]
    rcases List.mem_cons.1 he with rfl | hrest
    · simp
    · have hne : (e.1 == first.1) = false :=
        beq_eq_false_iff_ne.2 fun heq => hdistinct.1 (heq ▸ List.mem_map_of_mem hrest)
      rw [hne]
      exact ih hdistinct.2 hrest

namespace PrefixTable

theorem namespaceOf?_eq_some {t : PrefixTable} {e : String × String} (he : e ∈ t.entries) :
    t.namespaceOf? e.1 = some e.2 :=
  lookup_eq_some_of_mem t.names_nodup he

end PrefixTable

/-! ## 2. Shortened IRIs -/

/-- The namespace that is cut off is the front of the IRI. -/
theorem prefix_of_splitIri? {iri ns name : List Char} (h : splitIri? iri = some (ns, name)) :
    ns <+: iri := by
  unfold splitIri? at h
  split at h
  · rename_i hxml
    cases h
    exact List.isPrefixOf_iff_prefix.1 hxml
  · simp only at h
    split at h
    · cases h
    · split at h
      · cases h
      · cases h
      · cases h
        exact List.take_prefix _ _

namespace PrefixTable

theorem foldl_longer {P : String × String → Prop} (l : List (String × String))
    (first : String × String) (hfirst : P first) (h : ∀ e ∈ l, P e) :
    P (l.foldl longer first) := by
  refine List.foldlRecOn l longer hfirst fun best hbest e he => ?_
  unfold longer
  split
  · exact h e he
  · exact hbest

/-- An IRI is shortened by an entry of the table whose namespace it begins with. -/
theorem exists_entry_of_shorten? {t : PrefixTable} {iri name rest : String}
    (h : t.shorten? iri = some (name, rest)) : ∃ ns, (name, ns) ∈ t.entries ∧ ns ++ rest = iri := by
  obtain ⟨⟨ns, _⟩, hsplit, h⟩ := Option.bind_eq_some_iff.1 h
  obtain ⟨first, hfirst, h⟩ := Option.bind_eq_some_iff.1 h
  have hstart : (first, String.ofList ns) ∈ t.entries := by
    obtain ⟨e, he, rfl⟩ := Option.map_eq_some_iff.1 hfirst
    have hns : e.2 = String.ofList ns := by simpa using List.find?_some he
    rw [← hns]
    exact List.mem_of_find?_eq_some he
  -- the search for the longest namespace starts at an entry and meets entries only
  have hbest := foldl_longer (P := fun e => e ∈ t.entries ∧ e.2.toList <+: iri.toList)
    (t.entries.filter fun e => ns.isPrefixOf e.2.toList && e.2.toList.isPrefixOf iri.toList)
    (first, String.ofList ns)
    ⟨hstart, by rw [String.toList_ofList]; exact prefix_of_splitIri? hsplit⟩ (by
      intro e he
      obtain ⟨hmem, hfits⟩ := List.mem_filter.1 he
      rw [Bool.and_eq_true] at hfits
      exact ⟨hmem, List.isPrefixOf_iff_prefix.1 hfits.2⟩)
  cases h
  refine ⟨_, hbest.1, ?_⟩
  apply String.toList_injective
  rw [String.toList_append, String.toList_ofList, ← String.length_toList]
  exact List.prefix_iff_eq_append.1 hbest.2

end PrefixTable

/-! ## 3. Tables for queries -/

namespace PrefixTable

theorem mem_of_mem_mapping {pairs : List (String × String)} {e : String × String}
    (h : e ∈ mapping pairs) : e ∈ pairs := by
  unfold mapping at h
  -- a pair is put behind the others or in the place of one with its prefix
  revert e
  refine List.foldlRecOn (motive := fun done => ∀ {e}, e ∈ done → e ∈ pairs) pairs _
    (fun he => absurd he List.not_mem_nil) fun done hdone pair hpair e he => ?_
  split at he
  · obtain ⟨e', he', rfl⟩ := List.mem_map.1 he
    split
    · exact hpair
    · exact hdone he'
  · rcases List.mem_append.1 he with he | he
    · exact hdone he
    · rw [List.mem_singleton.1 he]
      exact hpair

/-- A mapping without blanks in its prefixes has a table. -/
theorem exists_ofMapping_eq_ok {pairs : List (String × String)}
    (h : ∀ pair ∈ pairs, ' ' ∉ pair.1.toList) : ∃ t, ofMapping pairs = .ok t := by
  unfold ofMapping
  have hmapping : ∀ e ∈ mapping pairs, ' ' ∉ e.1.toList := fun e he => h e (mem_of_mem_mapping he)
  -- whatever is in the table so far, the next pair goes in
  generalize mapping pairs = entries at hmapping
  generalize empty = start
  induction entries generalizing start with
  | nil => exact ⟨start, rfl⟩
  | cons e rest ih =>
    rw [List.foldlM_cons, if_neg (by simpa using hmapping e List.mem_cons_self)]
    exact ih (fun e' he' => hmapping e' (List.mem_cons_of_mem _ he')) _

end PrefixTable

theorem Namespaces.exists_resolve_eq_ok {namespaces : Namespaces}
    (h : ∀ pairs, namespaces = .mapping pairs → ∀ pair ∈ pairs, ' ' ∉ pair.1.toList) :
    ∃ table, namespaces.resolve = .ok table := by
  cases namespaces with
  | none => exact ⟨_, rfl⟩
  | mapping pairs =>
    obtain ⟨t, ht⟩ := PrefixTable.exists_ofMapping_eq_ok (h pairs rfl)
    exact ⟨some t, by rw [resolve, ht]; rfl⟩
  | table t => exact ⟨_, rfl⟩

end ShaclQuery
