import HybridStorage.Forecast.Store
import HybridStorage.Scenario.Basic

/-!
# Overlapping forecast rows

Of several rows that cover an instant the first one of the file counts. A store goes by this rule at
every instant exactly if no row that counts somewhere reaches into an earlier row with another
value: where it does, the store answers with the row that it kept from the look-up before.
-/

namespace HybridStorage.Forecast

def Table.valueAt (t : Table) (now : Instant) : Option Int32 := (t.find? now).map (·.value)

/-- The answers of a store to look-ups one after the other, in a file that does not change. -/
def Store.answers (s : Store) (disk : Disk) : List Instant → List (Option Int32)
  | [] => []
  | now :: rest =>
    let found := s.lookup disk now
    found.value :: found.store.answers disk rest

/-- Wherever a row reaches that counts at some instant, no earlier row counts for another value. -/
def Table.Settled (t : Table) : Prop :=
  ∀ (before after : List Row) (row : Row), t.rows = before ++ row :: after →
    (∃ now, row.contains now = true ∧ ∀ other ∈ before, other.contains now = false) →
      ∀ now earlier, row.contains now = true →
        before.find? (·.contains now) = some earlier → earlier.value = row.value

theorem Table.find?_eq_some_iff {t : Table} {now : Instant} {row : Row} :
    t.find? now = some row ↔ row.contains now = true ∧
      ∃ before after, t.rows = before ++ row :: after ∧
        ∀ other ∈ before, other.contains now = false := by
  simp only [find?, List.find?_eq_some_iff_append, Bool.not_eq_true']

theorem Table.find?_of_append {t : Table} {before after : List Row} {row : Row}
    (rows : t.rows = before ++ row :: after) {now : Instant} (covers : row.contains now = true) :
    t.find? now = some ((before.find? (·.contains now)).getD row) := by
  rw [find?, rows, List.find?_append]
  cases before.find? (·.contains now) with
  | none =>
    change (row :: after).find? (·.contains now) = some row
    simp only [List.find?_cons, covers]
  | some earlier => rfl

theorem Table.Settled.valueAt {t : Table} (settled : t.Settled) {found now : Instant} {row : Row}
    (first : t.find? found = some row) (covers : row.contains now = true) :
    t.valueAt now = some row.value := by
  obtain ⟨coversFound, before, after, rows, alone⟩ := Table.find?_eq_some_iff.mp first
  have agrees := settled before after row rows ⟨found, coversFound, alone⟩ now
  rw [Table.valueAt, Table.find?_of_append rows covers, Option.map_some]
  cases earlier : before.find? (·.contains now) with
  | none => rfl
  | some other => exact congrArg some (agrees other covers earlier)

theorem Table.settled_of_disjoint {t : Table}
    (disjoint : t.rows.Pairwise fun a b =>
      ∀ now, ¬(a.contains now = true ∧ b.contains now = true)) : t.Settled := by
  intro before after row rows _ now earlier covers found
  rw [rows, List.pairwise_append] at disjoint
  have apart := disjoint.2.2 earlier (List.mem_of_find?_eq_some found) row List.mem_cons_self now
  have coversEarlier := List.find?_some found
  exact absurd ⟨coversEarlier, covers⟩ apart

namespace Store

variable {s : Store} {disk : Disk} {now : Instant}

theorem table_lookup (s : Store) (disk disk' : Disk) (now : Instant) :
    (s.lookup disk now).store.table disk' = s.table disk' := by
  unfold lookup
  split
  · rfl
  · rfl

theorem lookup_of_hit {row : Row} (cached : s.cached = some row)
    (covers : row.contains now = true) : s.lookup disk now = ⟨some row.value, s, []⟩ := by
  have hit : s.hit? now = some row := by
    rw [hit?, cached, Option.filter_some, if_pos covers]
  simp only [lookup, hit]

theorem lookup_of_miss (missed : s.hit? now = none) (disk : Disk) :
    (s.lookup disk now).value = (s.table disk).valueAt now ∧
      (s.lookup disk now).store.cached = (s.table disk).find? now := by
  simp only [lookup, missed, Table.valueAt, and_self]

theorem hit?_eq_some_iff {row : Row} :
    s.hit? now = some row ↔ s.cached = some row ∧ row.contains now = true := by
  rw [hit?, Option.filter_eq_some_iff]

/-- The kept row counts at some instant. -/
def Fresh (s : Store) (disk : Disk) : Prop :=
  ∀ row, s.cached = some row → ∃ found, (s.table disk).find? found = some row

theorem Fresh.lookup (fresh : s.Fresh disk) (now : Instant) :
    (s.lookup disk now).store.Fresh disk := by
  intro row kept
  rw [table_lookup]
  cases hit : s.hit? now with
  | some cached =>
    obtain ⟨held, covers⟩ := hit?_eq_some_iff.mp hit
    rw [lookup_of_hit held covers] at kept
    exact fresh row kept
  | none =>
    rw [(lookup_of_miss hit disk).2] at kept
    exact ⟨now, kept⟩

theorem answers_of_settled (settled : (s.table disk).Settled) (fresh : s.Fresh disk)
    (instants : List Instant) :
    s.answers disk instants = instants.map (s.table disk).valueAt := by
  induction instants generalizing s with
  | nil => rfl
  | cons now rest ih =>
    have value : (s.lookup disk now).value = (s.table disk).valueAt now := by
      cases hit : s.hit? now with
      | some row =>
        obtain ⟨held, covers⟩ := hit?_eq_some_iff.mp hit
        obtain ⟨found, first⟩ := fresh row held
        rw [lookup_of_hit held covers, settled.valueAt first covers]
      | none => exact (lookup_of_miss hit disk).1
    have tail := ih (s := (s.lookup disk now).store)
    rw [table_lookup] at tail
    rw [answers, value, tail settled (fresh.lookup now), List.map_cons]

/-- Two look-ups show a row that reaches into an earlier one: the first keeps it, the second finds
it again. -/
theorem answers_of_kept {row : Row} {found : Instant} (empty : s.cached = none)
    (first : (s.table disk).find? found = some row) (covers : row.contains now = true) :
    s.answers disk [found, now] = [some row.value, some row.value] := by
  have missed : s.hit? found = none := by
    rw [hit?, empty]
    rfl
  obtain ⟨value, kept⟩ := lookup_of_miss missed disk
  rw [Table.valueAt, first, Option.map_some] at value
  rw [first] at kept
  rw [answers, answers, value, lookup_of_hit kept covers, answers]

/-- A new store agrees at every look-up with the first row of the file that covers the instant, for
every history of look-ups, exactly if the file is settled. -/
theorem answers_first_row_iff (path : String) (signed : Bool) (disk : Disk) :
    (∀ instants, ({ path, signed } : Store).answers disk instants =
      instants.map (({ path, signed } : Store).table disk).valueAt) ↔
      (({ path, signed } : Store).table disk).Settled := by
  constructor
  · intro agrees before after row rows ⟨found, coversFound, alone⟩ now earlier covers other
    -- A look-up where the row counts keeps it for the look-up where the earlier one should count.
    have first := Table.find?_eq_some_iff.mpr ⟨coversFound, before, after, rows, alone⟩
    have kept := answers_of_kept (s := { path, signed }) rfl first covers
    rw [agrees, List.map_cons, List.map_cons, List.map_nil, Table.valueAt, Table.valueAt, first,
      Table.find?_of_append rows covers, other] at kept
    exact Option.some.inj (List.cons.inj (List.cons.inj kept).2).1
  · intro settled
    exact answers_of_settled settled fun row kept => nomatch kept

end Store

def elevenOClock : Instant :=
  { SimulationSpec.defaultStart with
    second := 11 * 3600
    second_lt := by decide
    leap := fun long => absurd long (by decide) }

/-- A row for two hours of the morning before one for the whole day. -/
def exceptionFile : Disk :=
  .ofList [("energy.csv", .ok ("start,end,value\n2022-12-08T10:00,2022-12-08T12:00,1000\n" ++
    "2022-12-08T00:00,2022-12-08T23:00,2000\n").toUTF8)]

/-- At eleven the store answers with the row of the day, which it kept from nine o'clock. -/
theorem answers_not_always_first_row : ¬∀ (path : String) (signed : Bool) (disk : Disk)
    (instants : List Instant), ({ path, signed } : Store).answers disk instants =
      instants.map (({ path, signed } : Store).table disk).valueAt := by
  intro always
  have agrees := always "energy.csv" false exceptionFile [SimulationSpec.defaultStart, elevenOClock]
  revert agrees
  decide +kernel

end HybridStorage.Forecast
