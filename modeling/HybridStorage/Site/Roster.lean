/-!
# Rosters

Components by their identifiers, each identifier at most once. The order is that of first insertion
and means nothing to the components.
-/

namespace HybridStorage

structure Roster (α : Type) where
  entries : List (String × α)
  nodup : (entries.map Prod.fst).Nodup

namespace Roster

variable {α : Type}

def empty : Roster α := ⟨[], by simp⟩

def ids (r : Roster α) : List String := r.entries.map Prod.fst

def values (r : Roster α) : List α := r.entries.map Prod.snd

def get? (r : Roster α) (id : String) : Option α := r.entries.lookup id

/-- Puts a component in place of the one with this identifier; without one, nothing changes. -/
def replace (r : Roster α) (id : String) (x : α) : Roster α where
  entries := r.entries.map fun entry => if entry.1 = id then (entry.1, x) else entry
  nodup := by
    have same : (r.entries.map fun entry => if entry.1 = id then (entry.1, x) else entry).map
        Prod.fst = r.entries.map Prod.fst := by
      rw [List.map_map]
      apply List.map_congr_left
      intro entry _
      simp only [Function.comp]
      split <;> rfl
    rw [same]
    exact r.nodup

/-- Adds a component, or puts it in place of the one with this identifier. -/
def insert (r : Roster α) (id : String) (x : α) : Roster α :=
  if h : id ∈ r.entries.map Prod.fst then r.replace id x
  else ⟨r.entries ++ [(id, x)], by
    rw [List.map_append, List.nodup_append]
    refine ⟨r.nodup, by simp, ?_⟩
    intro a member b single equal
    simp only [List.map_cons, List.map_nil, List.mem_singleton] at single
    exact h (single ▸ equal ▸ member)⟩

def erase (r : Roster α) (id : String) : Roster α where
  entries := r.entries.filter fun entry => entry.1 ≠ id
  nodup := r.nodup.sublist ((List.filter_sublist).map Prod.fst)

def map (r : Roster α) (f : α → α) : Roster α where
  entries := r.entries.map fun entry => (entry.1, f entry.2)
  nodup := by
    rw [List.map_map]
    exact r.nodup

/-- Changes every entry's component, up to the first failure. -/
def mapEntries {ε : Type} (f : α → Except ε α) : List (String × α) → Except ε (List (String × α))
  | [] => .ok []
  | (id, x) :: rest => do
    let x ← f x
    let rest ← mapEntries f rest
    pure ((id, x) :: rest)

theorem ids_mapEntries {ε : Type} {f : α → Except ε α} {entries changed : List (String × α)}
    (h : mapEntries f entries = .ok changed) : changed.map Prod.fst = entries.map Prod.fst := by
  induction entries generalizing changed with
  | nil => cases h; rfl
  | cons entry rest ih =>
    obtain ⟨id, x⟩ := entry
    simp only [mapEntries, bind, Except.bind, pure, Except.pure] at h
    split at h
    · cases h
    · split at h
      · cases h
      · next equal => cases h; simp [ih equal]

/-- Changes every component, up to the first failure. -/
def tryMap {ε : Type} (r : Roster α) (f : α → Except ε α) : Except ε (Roster α) :=
  match h : mapEntries f r.entries with
  | .error e => .error e
  | .ok entries => .ok ⟨entries, by rw [ids_mapEntries h]; exact r.nodup⟩

end Roster

end HybridStorage
