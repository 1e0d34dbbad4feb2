import Mathlib
import FormatEngine.Proofs.JsonReadBack
/-!
# Objects as maps

A reader keeps an object as a map: its members sorted by key, each key once (`sortMembers`,
built by `insert`). Here a map is a member list whose keys strictly increase (`KeysSorted`).
Inserting keeps a map a map; sorting members whose keys are distinct is the one arrangement of
them in key order (`sortMembers_eq_of_perm`), so a map sorts to itself; and a key of a map is
looked up by membership alone (`get?_of_mem`).
-/
namespace FormatEngine.Json

/-! ## Inserting and sorting -/

/-- Members in strictly increasing key order, each key once, as a map in key order holds them. -/
def KeysSorted (ms : List (String × Json)) : Prop := ms.Pairwise (fun a b => a.1 < b.1)

theorem mem_insert {k : String} {v : Json} {ms : List (String × Json)} {p : String × Json}
    (h : p ∈ insert k v ms) : p = (k, v) ∨ p ∈ ms := by
  induction ms with
  | nil => simpa [insert] using h
  | cons q ms ih =>
    obtain ⟨k', v'⟩ := q
    unfold insert at h
    split_ifs at h with heq hlt
    · simp only [List.mem_cons] at h
      rcases h with h | h
      · exact .inl h
      · exact .inr (List.mem_cons_of_mem _ h)
    · simpa [or_assoc] using h
    · simp only [List.mem_cons] at h
      rcases h with h | h
      · exact .inr (h ▸ List.mem_cons_self ..)
      · exact (ih h).imp_right (List.mem_cons_of_mem _)

theorem keysSorted_insert (k : String) (v : Json) {ms : List (String × Json)}
    (hs : KeysSorted ms) : KeysSorted (insert k v ms) := by
  induction ms with
  | nil => simp [insert, KeysSorted]
  | cons q ms ih =>
    obtain ⟨k', v'⟩ := q
    unfold KeysSorted at hs ⊢
    rw [List.pairwise_cons] at hs
    unfold insert
    split_ifs with heq hlt
    · subst heq
      exact List.pairwise_cons.2 ⟨hs.1, hs.2⟩
    · refine List.pairwise_cons.2 ⟨?_, List.pairwise_cons.2 hs⟩
      intro p hp
      rcases List.mem_cons.1 hp with rfl | hp
      · exact hlt
      · exact lt_trans hlt (hs.1 p hp)
    · refine List.pairwise_cons.2 ⟨?_, ih hs.2⟩
      -- the new key lands after `k'`: it is neither `k'` nor below it
      have hk : k' < k := lt_of_le_of_ne (not_lt.1 hlt) (Ne.symm heq)
      intro p hp
      rcases mem_insert hp with rfl | hp
      · exact hk
      · exact hs.1 p hp

theorem insert_perm {k : String} (v : Json) {ms : List (String × Json)}
    (hk : k ∉ ms.map Prod.fst) : (insert k v ms).Perm ((k, v) :: ms) := by
  induction ms with
  | nil => simp [insert]
  | cons q ms ih =>
    obtain ⟨k', v'⟩ := q
    simp only [List.map_cons, List.mem_cons, not_or] at hk
    unfold insert
    rw [if_neg hk.1]
    split_ifs with hlt
    · exact List.Perm.refl _
    · exact ((ih hk.2).cons _).trans (List.Perm.swap _ _ _)

theorem foldl_insert_perm :
    ∀ (ms acc : List (String × Json)), (acc.map Prod.fst ++ ms.map Prod.fst).Nodup →
      (ms.foldl (fun acc (k, v) => insert k v acc) acc).Perm (acc ++ ms)
  | [], acc, _ => by simp
  | (k, v) :: ms, acc, hn => by
    -- the key moved to the front: `k` is new to `acc` and the keys stay distinct
    have hn : (k :: (acc.map Prod.fst ++ ms.map Prod.fst)).Nodup := List.perm_middle.nodup_iff.1 hn
    have hk : k ∉ acc.map Prod.fst := fun h => (List.nodup_cons.1 hn).1 (List.mem_append_left _ h)
    have hp := insert_perm v hk
    have hn' : ((insert k v acc).map Prod.fst ++ ms.map Prod.fst).Nodup :=
      ((hp.map Prod.fst).append_right _).nodup_iff.2 hn
    exact (foldl_insert_perm ms _ hn').trans ((hp.append_right ms).trans List.perm_middle.symm)

theorem keysSorted_foldl_insert :
    ∀ (ms acc : List (String × Json)), KeysSorted acc →
      KeysSorted (ms.foldl (fun acc (k, v) => insert k v acc) acc)
  | [], _, hs => hs
  | (k, v) :: ms, _, hs => keysSorted_foldl_insert ms _ (keysSorted_insert k v hs)

theorem keysSorted_sortMembers (ms : List (String × Json)) : KeysSorted (sortMembers ms) :=
  keysSorted_foldl_insert ms [] List.Pairwise.nil

theorem nodup_keys {ms : List (String × Json)} (hs : KeysSorted ms) : (ms.map Prod.fst).Nodup :=
  (List.pairwise_map.2 hs).imp ne_of_lt

/-- Sorting members whose keys are distinct puts them in key order, whatever their order was:
the map is the unique sorted arrangement of them. -/
theorem sortMembers_eq_of_perm {ms ms' : List (String × Json)} (hp : ms.Perm ms')
    (hs : KeysSorted ms') : sortMembers ms = ms' := by
  have hn : (ms.map Prod.fst).Nodup := (hp.map Prod.fst).nodup_iff.2 (nodup_keys hs)
  have hsort : (sortMembers ms).Perm ms := foldl_insert_perm ms [] (by simpa using hn)
  refine (hsort.trans hp).eq_of_pairwise ?_ (keysSorted_sortMembers ms) hs
  intro a b _ _ hab hba
  exact absurd (lt_trans hab hba) (lt_irrefl _)

theorem mem_sortMembers {ms : List (String × Json)} (hn : (ms.map Prod.fst).Nodup)
    {p : String × Json} : p ∈ sortMembers ms ↔ p ∈ ms :=
  (foldl_insert_perm ms [] (by simpa using hn)).mem_iff

theorem sortMembers_of_keysSorted {ms : List (String × Json)} (hs : KeysSorted ms) :
    sortMembers ms = ms :=
  sortMembers_eq_of_perm (List.Perm.refl ms) hs

theorem mem_foldl_insert {p : String × Json} :
    ∀ (ms acc : List (String × Json)), p ∈ ms.foldl (fun acc (k, v) => insert k v acc) acc →
      p ∈ acc ∨ p ∈ ms
  | [], _, h => .inl h
  | (k, v) :: ms, acc, h => by
    rcases mem_foldl_insert ms _ h with h | h
    · rcases mem_insert h with rfl | h
      · exact .inr List.mem_cons_self
      · exact .inl h
    · exact .inr (List.mem_cons_of_mem _ h)

theorem mem_of_mem_sortMembers {p : String × Json} {ms : List (String × Json)}
    (h : p ∈ sortMembers ms) : p ∈ ms := by
  simpa using mem_foldl_insert ms [] h

/-! ## Looking a key up -/

theorem get?_of_mem {ms : List (String × Json)} (hs : KeysSorted ms) {k : String} {v : Json}
    (h : (k, v) ∈ ms) : (Json.object ms).get? k = some v := by
  induction ms with
  | nil => simp at h
  | cons q ms ih =>
    unfold KeysSorted at hs
    rw [List.pairwise_cons] at hs
    rcases List.mem_cons.1 h with rfl | h
    · simp [get?]
    · -- a later member's key is above the head's, so the head is passed over
      have hne : q.1 ≠ k := ne_of_lt (hs.1 _ h)
      have := ih hs.2 h
      simp only [get?] at this ⊢
      rw [List.find?_cons_of_neg (by simpa using hne)]
      exact this

theorem get?_of_not_mem {ms : List (String × Json)} {k : String} (h : k ∉ ms.map Prod.fst) :
    (Json.object ms).get? k = none := by
  simp only [get?, Option.map_eq_none_iff, List.find?_eq_none, beq_iff_eq]
  intro p hp hk
  exact h (hk ▸ List.mem_map_of_mem hp)

/-! ## Values a reader gives back unchanged -/

theorem normalizeMembers_of_forall {ms : List (String × Json)}
    (h : ∀ p ∈ ms, p.2.normalize = p.2) : normalizeMembers ms = ms := by
  induction ms with
  | nil => rfl
  | cons p ms ih =>
    obtain ⟨k, v⟩ := p
    simp only [normalizeMembers, List.cons.injEq, Prod.mk.injEq, true_and]
    exact ⟨h _ List.mem_cons_self, ih fun q hq => h q (List.mem_cons_of_mem _ hq)⟩

/-- An object in key order whose values a reader gives back unchanged is given back
unchanged. -/
theorem normalize_object {ms : List (String × Json)} (hs : KeysSorted ms)
    (h : ∀ p ∈ ms, p.2.normalize = p.2) : (Json.object ms).normalize = .object ms := by
  rw [normalize, normalizeMembers_of_forall h, sortMembers_of_keysSorted hs]

end FormatEngine.Json
