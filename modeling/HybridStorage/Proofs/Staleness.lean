import HybridStorage.Proofs.Overlap
import HybridStorage.Proofs.Results

/-!
# Staleness of forecasts

Files may change, vanish and come back between the look-ups of a store. A look-up consults the file
exactly if the kept row does not cover its instant, and the answer is always that of the look-up
that consulted the file last, in the file as it was then.
-/

namespace HybridStorage.Forecast

/-- A look-up at an instant, and the files at that time. -/
structure Query where
  disk : Disk
  now : Instant

/-! ### Rows of a file -/

/-- What every row of a file keeps to. -/
structure Row.Valid (signed : Bool) (r : Row) : Prop where
  ordered : r.start < r.finish
  nonneg : signed = false → 0 ≤ r.value

theorem Row.contains_iff {r : Row} {now : Instant} :
    r.contains now = true ↔ r.start ≤ now ∧ now ≤ r.finish := by
  rw [contains, decide_eq_true_iff]

theorem Row.valid_of_fields {signed : Bool} {fields : List (List Char)} {row : Row}
    (read : ofFields signed fields = .ok row) : row.Valid signed := by
  match fields, read with
  | startText :: finishText :: valueText :: _, read =>
    obtain ⟨start, _, read⟩ := bind_eq_ok_iff.mp read
    obtain ⟨finish, _, read⟩ := bind_eq_ok_iff.mp read
    split at read
    · cases read
    · next ordered =>
      obtain ⟨value, valueRead, same⟩ := bind_eq_ok_iff.mp read
      cases same
      refine ⟨Int.not_le.mp ordered, fun unsigned => ?_⟩
      unfold readValue at valueRead
      split at valueRead
      · cases valueRead
      · split at valueRead
        · cases valueRead
        · next allowed =>
          cases valueRead
          exact Int32.not_lt.mp fun negative => allowed ⟨negative, by rw [unsigned]; rfl⟩

theorem Row.valid_of_record {signed : Bool} {record : Delimited.RawRecord} {row : Row}
    (read : ofRecord signed record = .ok row) : row.Valid signed := by
  unfold ofRecord at read
  split at read
  · exact valid_of_fields read
  · cases read

theorem Table.valid_of_mem_ofRecords {signed : Bool} {line : Nat}
    {records : List Delimited.RawRecord} {row : Row}
    (member : row ∈ (ofRecords signed line records).rows) : row.Valid signed := by
  induction records generalizing line with
  | nil => cases member
  | cons record rest ih =>
    rw [ofRecords] at member
    split at member
    · next read =>
      rcases List.mem_cons.mp member with rfl | member
      · exact Row.valid_of_record read
      · exact ih member
    · exact ih member

theorem Store.valid_of_mem {s : Store} {disk : Disk} {row : Row}
    (member : row ∈ (s.table disk).rows) : row.Valid s.signed := by
  unfold Store.table at member
  split at member
  · exact Table.valid_of_mem_ofRecords member
  · cases member

namespace Store

variable {s : Store} {disk : Disk} {now : Instant}

/-! ### Look-ups that consult the file -/

/-- The look-up comes out differently for different files. -/
def Consults (s : Store) (now : Instant) : Prop :=
  ∃ disk disk', s.lookup disk now ≠ s.lookup disk' now

/-- A file that is missing and one that cannot be read tell a look-up apart that misses. -/
theorem consults_of_miss (missed : s.hit? now = none) : s.Consults now := by
  refine ⟨fun _ => .error .notFound, fun _ => .error .isDirectory, fun same => ?_⟩
  have skipped := congrArg Lookup.skipped same
  simp only [lookup, missed, table, Table.ofFault, FileFault.isOfReading, Bool.false_eq_true,
    ↓reduceIte, List.nil_eq, List.cons_ne_nil] at skipped

theorem consults_iff : s.Consults now ↔ s.hit? now = none := by
  refine ⟨?_, consults_of_miss⟩
  rintro ⟨disk, disk', different⟩
  cases hit : s.hit? now with
  | none => rfl
  | some row =>
    obtain ⟨kept, covers⟩ := hit?_eq_some_iff.mp hit
    rw [lookup_of_hit kept covers, lookup_of_hit kept covers] at different
    exact absurd rfl different

theorem consults_iff_not_covered :
    s.Consults now ↔ ¬∃ row, s.cached = some row ∧ row.contains now = true := by
  rw [consults_iff, Option.eq_none_iff_forall_ne_some, not_exists]
  simp only [ne_eq, hit?_eq_some_iff]

theorem lookup_of_not_consults (unread : ¬s.Consults now) (disk : Disk) :
    (s.lookup disk now).store = s := by
  rw [consults_iff] at unread
  obtain ⟨row, hit⟩ := Option.ne_none_iff_exists'.mp unread
  obtain ⟨kept, covers⟩ := hit?_eq_some_iff.mp hit
  rw [lookup_of_hit kept covers]

/-- After a look-up the store keeps the row of the answer. -/
theorem value_lookup (s : Store) (disk : Disk) (now : Instant) :
    (s.lookup disk now).value = (s.lookup disk now).store.cached.map (·.value) := by
  cases hit : s.hit? now with
  | some row =>
    obtain ⟨kept, covers⟩ := hit?_eq_some_iff.mp hit
    rw [lookup_of_hit kept covers, kept, Option.map_some]
  | none =>
    obtain ⟨value, kept⟩ := lookup_of_miss hit disk
    rw [value, kept, Table.valueAt]

theorem contains_of_lookup {row : Row} (kept : (s.lookup disk now).store.cached = some row) :
    row.contains now = true := by
  cases hit : s.hit? now with
  | some cached =>
    obtain ⟨held, covers⟩ := hit?_eq_some_iff.mp hit
    rw [lookup_of_hit held covers, held] at kept
    cases kept
    exact covers
  | none =>
    rw [(lookup_of_miss hit disk).2] at kept
    exact (Table.find?_eq_some_iff.mp kept).1

/-! ### Histories -/

/-- The store after look-ups one after the other. -/
def after (s : Store) : List Query → Store
  | [] => s
  | q :: rest => (s.lookup q.disk q.now).store.after rest

theorem after_append (s : Store) (first second : List Query) :
    s.after (first ++ second) = (s.after first).after second := by
  induction first generalizing s with
  | nil => rfl
  | cons q rest ih => exact ih (s.lookup q.disk q.now).store

theorem table_after (s : Store) (history : List Query) (disk : Disk) :
    (s.after history).table disk = s.table disk := by
  induction history generalizing s with
  | nil => rfl
  | cons q rest ih => rw [after, ih, table_lookup]

theorem after_concat (s : Store) (history : List Query) (q : Query) :
    s.after (history ++ [q]) = ((s.after history).lookup q.disk q.now).store :=
  after_append s history [q]

/-- `q` is the latest look-up of a history that consults the file. -/
inductive LastConsulted (s : Store) : List Query → Query → Prop where
  | consulted {history : List Query} {q : Query} (consults : (s.after history).Consults q.now) :
    LastConsulted s (history ++ [q]) q
  | kept {history : List Query} {q next : Query} (last : LastConsulted s history q)
    (unread : ¬(s.after history).Consults next.now) : LastConsulted s (history ++ [next]) q

/-- The store keeps what the look-up found that consulted the file last. -/
theorem LastConsulted.cached {history : List Query} {q : Query}
    (last : s.LastConsulted history q) :
    (s.after history).cached = (s.table q.disk).find? q.now := by
  induction last with
  | consulted consults =>
    rw [after_concat, (lookup_of_miss (consults_iff.mp consults) _).2, table_after]
  | kept _ unread ih => rw [after_concat, lookup_of_not_consults unread, ih]

theorem LastConsulted.extend {past : List Query} {q : Query} (last : s.LastConsulted past q)
    (later : List Query) : ∃ q', s.LastConsulted (past ++ later) q' := by
  induction later generalizing past q with
  | nil => exact ⟨q, by rw [List.append_nil]; exact last⟩
  | cons next rest ih =>
    rw [List.append_cons]
    by_cases consults : (s.after past).Consults next.now
    · exact ih (.consulted consults)
    · exact ih (last.kept consults)

/-- The first look-up of a store that keeps nothing consults the file. -/
theorem exists_lastConsulted (empty : s.cached = none) {history : List Query}
    (some : history ≠ []) : ∃ q, s.LastConsulted history q := by
  obtain ⟨first, rest, rfl⟩ := List.exists_cons_of_ne_nil some
  have consults : s.Consults first.now := by
    refine consults_iff_not_covered.mpr ?_
    rintro ⟨row, kept, -⟩
    rw [empty] at kept
    cases kept
  have single : s.LastConsulted ([] ++ [first]) first := .consulted consults
  exact single.extend rest

/-- The answer of a look-up at the end of any history, for a new store. -/
theorem answer_of_last_consulted (path : String) (signed : Bool) (past : List Query) (next : Query) :
    let new : Store := { path, signed }
    let s := new.after past
    let found := s.lookup next.disk next.now
    (s.Consults next.now ↔ ¬∃ row, s.cached = some row ∧ row.contains next.now = true) ∧
      (∃ q, new.LastConsulted (past ++ [next]) q) ∧
      (∀ q, new.LastConsulted (past ++ [next]) q →
        found.value = ((new.table q.disk).rows.find? (·.contains q.now)).map (·.value) ∧
        ∀ value, found.value = some value → ∃ row ∈ (new.table q.disk).rows,
          row.value = value ∧ row.start < row.finish ∧ row.start ≤ next.now ∧
            next.now ≤ row.finish ∧ (signed = false → 0 ≤ row.value)) ∧
      (found.store.cached.isSome = found.value.isSome) ∧
      ∀ row, found.store.cached = some row →
        row.contains next.now = true ∧ found.value = some row.value := by
  intro new s found
  have value : found.value = found.store.cached.map (·.value) :=
    value_lookup s next.disk next.now
  refine ⟨consults_iff_not_covered, exists_lastConsulted rfl (List.concat_ne_nil next past), ?_, ?_, ?_⟩
  · intro q last
    have cached : found.store.cached = (new.table q.disk).find? q.now := by
      rw [← last.cached, after_concat]
    refine ⟨by rw [value, cached, Table.find?], fun answer answered => ?_⟩
    rw [value] at answered
    obtain ⟨row, kept, same⟩ := Option.map_eq_some_iff.mp answered
    have covers := Row.contains_iff.mp (contains_of_lookup kept)
    rw [cached] at kept
    have member := List.mem_of_find?_eq_some kept
    have valid := valid_of_mem member
    exact ⟨row, member, same, valid.ordered, covers.1, covers.2, valid.nonneg⟩
  · rw [value, Option.isSome_map]
  · intro row kept
    exact ⟨contains_of_lookup kept, by rw [value, kept, Option.map_some]⟩

end Store

end HybridStorage.Forecast
