import HybridStorage.Site.Roster

/-!
# Looking up in rosters

What is found under an identifier after each operation on a roster. Every other proof about rosters
goes through `Roster.get?`.
-/

namespace HybridStorage.Roster

variable {α : Type}

theorem lookup_cons_eq (key : String) (x : α) (rest : List (String × α)) (id : String) :
    ((key, x) :: rest).lookup id = if id = key then some x else rest.lookup id := by
  rw [List.lookup_cons]
  by_cases same : id = key
  · rw [if_pos same, beq_iff_eq.mpr same]
  · rw [if_neg same, beq_eq_false_iff_ne.mpr same]

theorem lookup_map {β : Type} (f : String → α → β) (entries : List (String × α)) (id : String) :
    (entries.map fun entry => (entry.1, f entry.1 entry.2)).lookup id =
      (entries.lookup id).map (f id) := by
  induction entries with
  | nil => rfl
  | cons entry rest ih =>
    obtain ⟨key, x⟩ := entry
    rw [List.map_cons, lookup_cons_eq, lookup_cons_eq, ih]
    by_cases same : id = key
    · rw [if_pos same, if_pos same, same]
      rfl
    · rw [if_neg same, if_neg same]

theorem lookup_filter (keep : String → Bool) (entries : List (String × α)) (id : String) :
    (entries.filter fun entry => keep entry.1).lookup id =
      if keep id then entries.lookup id else none := by
  induction entries with
  | nil => simp
  | cons entry rest ih =>
    obtain ⟨key, x⟩ := entry
    rw [List.filter_cons, lookup_cons_eq]
    by_cases kept : keep key = true
    · rw [if_pos kept, lookup_cons_eq, ih]
      by_cases same : id = key
      · rw [if_pos same, if_pos same, same, if_pos kept]
      · rw [if_neg same, if_neg same]
    · rw [if_neg kept, ih]
      by_cases same : id = key
      · rw [same, if_neg kept, if_neg kept]
      · rw [if_neg same]

theorem lookup_of_absent {entries : List (String × α)} {id : String}
    (absent : id ∉ entries.map Prod.fst) : entries.lookup id = none := by
  apply List.lookup_eq_none_iff.mpr
  intro entry member
  have present : entry.1 ∈ entries.map Prod.fst := List.mem_map_of_mem member
  have other : id ≠ entry.1 := by
    rintro rfl
    exact absent present
  exact bne_iff_ne.mpr other

theorem lookup_of_perm {entries entries' : List (String × α)} (perm : entries'.Perm entries)
    (nodup : (entries'.map Prod.fst).Nodup) (id : String) :
    entries'.lookup id = entries.lookup id := by
  induction perm with
  | nil => rfl
  | cons entry _ ih =>
    rw [lookup_cons_eq, lookup_cons_eq, ih (List.nodup_cons.mp nodup).2]
  | swap first second rest =>
    obtain ⟨firstId, x⟩ := first
    obtain ⟨secondId, y⟩ := second
    obtain ⟨fresh, -⟩ := List.nodup_cons.mp nodup
    have different : secondId ≠ firstId := fun same => fresh (same ▸ List.mem_cons_self)
    simp only [lookup_cons_eq]
    by_cases isSecond : id = secondId
    · rw [if_pos isSecond, if_pos isSecond, if_neg (isSecond ▸ different)]
    · rw [if_neg isSecond, if_neg isSecond]
  | trans first _ ih₁ ih₂ =>
    exact (ih₁ nodup).trans (ih₂ ((first.map Prod.fst).nodup_iff.mp nodup))

/-- What is found does not depend on the order of the entries. -/
theorem get?_of_perm {r r' : Roster α} (perm : r'.entries.Perm r.entries) (id : String) :
    r'.get? id = r.get? id := lookup_of_perm perm r'.nodup id

theorem ids_replace (r : Roster α) (id : String) (x : α) : (r.replace id x).ids = r.ids := by
  unfold ids replace
  rw [List.map_map]
  apply List.map_congr_left
  intro entry _
  dsimp only [Function.comp]
  split
  · rfl
  · rfl

theorem get?_replace (r : Roster α) (id other : String) (x : α) :
    (r.replace id x).get? other =
      (r.get? other).map fun present => if other = id then x else present := by
  have entries : (r.replace id x).entries =
      r.entries.map fun entry => (entry.1, if entry.1 = id then x else entry.2) := by
    apply List.map_congr_left
    intro entry _
    split <;> rfl
  rw [get?, entries]
  exact lookup_map (fun key present => if key = id then x else present) r.entries other

theorem get?_insert (r : Roster α) (id other : String) (x : α) :
    (r.insert id x).get? other = if other = id then some x else r.get? other := by
  unfold insert
  split
  · next present =>
    rw [get?_replace]
    by_cases same : other = id
    · subst same
      have found : (r.get? other).isSome = true := by
        obtain ⟨entry, member, key⟩ := List.mem_map.mp present
        exact List.lookup_isSome_iff.mpr ⟨entry, member, by simp [key]⟩
      obtain ⟨old, found⟩ := Option.isSome_iff_exists.mp found
      simp [found]
    · simp [same]
  · next absent =>
    change (r.entries ++ [(id, x)]).lookup other = _
    rw [List.lookup_append, lookup_cons_eq, List.lookup_nil]
    by_cases same : other = id
    · subst same
      simp [lookup_of_absent absent]
    · rw [if_neg same, if_neg same]
      exact Option.or_none

theorem get?_erase (r : Roster α) (id other : String) :
    (r.erase id).get? other = if other = id then none else r.get? other := by
  have filtered := lookup_filter (fun key => decide (key ≠ id)) r.entries other
  by_cases same : other = id
  · simpa [same, get?, erase] using filtered
  · simpa [same, get?, erase] using filtered

theorem get?_map (r : Roster α) (f : α → α) (id : String) :
    (r.map f).get? id = (r.get? id).map f := lookup_map (fun _ x => f x) r.entries id

theorem lookup_mapEntries {ε : Type} {f : α → Except ε α} {entries changed : List (String × α)}
    (h : mapEntries f entries = .ok changed) (id : String) :
    (entries.lookup id = none ∧ changed.lookup id = none) ∨
      ∃ x y, entries.lookup id = some x ∧ f x = .ok y ∧ changed.lookup id = some y := by
  induction entries generalizing changed with
  | nil =>
    cases h
    exact .inl ⟨rfl, rfl⟩
  | cons entry rest ih =>
    obtain ⟨key, x⟩ := entry
    unfold mapEntries at h
    cases changedOne : f x with
    | error e =>
      rw [changedOne] at h
      cases h
    | ok y =>
      cases changedRest : mapEntries f rest with
      | error e =>
        rw [changedOne, changedRest] at h
        cases h
      | ok others =>
        rw [changedOne, changedRest] at h
        cases h
        rw [lookup_cons_eq, lookup_cons_eq]
        by_cases same : id = key
        · rw [if_pos same, if_pos same]
          exact .inr ⟨x, y, rfl, changedOne, rfl⟩
        · rw [if_neg same, if_neg same]
          exact ih changedRest

/-- What a function makes of every component is what it makes of the one under each identifier. -/
theorem get?_tryMap {ε : Type} {r changed : Roster α} {f : α → Except ε α}
    (h : r.tryMap f = .ok changed) (id : String) :
    (r.get? id = none ∧ changed.get? id = none) ∨
      ∃ x y, r.get? id = some x ∧ f x = .ok y ∧ changed.get? id = some y := by
  unfold tryMap at h
  split at h
  · cases h
  · next entries equal =>
    cases h
    exact lookup_mapEntries equal id

end HybridStorage.Roster
