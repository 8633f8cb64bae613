import HybridStorage.Proofs.Readings
import HybridStorage.Proofs.Site

/-!
# Totals over the units of a site

A total adds one reading after the other and may stop at a bound on the way, so that in general the
order matters. It does not where at most two units have a power other than zero.
-/

namespace HybridStorage

namespace Reading

theorem satAdd_zero (a : Int32) : satAdd a 0 = a := by
  have low := lowest_le_toInt a
  have high := toInt_le_highest a
  apply Int32.toInt_inj.mp
  rw [toInt_satAdd, Int32.toInt_zero]
  omega

theorem satAdd_comm (a b : Int32) : satAdd a b = satAdd b a := by
  unfold satAdd
  rw [Int.add_comm]

theorem zero_satAdd (a : Int32) : satAdd 0 a = a := by
  rw [satAdd_comm, satAdd_zero]

end Reading

open Reading

theorem Aggregates.total_map_some (readings : List Int32) :
    total (readings.map some) = some (readings.foldl satAdd 0) := by
  unfold total
  generalize (0 : Int32) = sum
  induction readings generalizing sum with
  | nil => rfl
  | cons reading rest ih => exact ih (satAdd sum reading)

/-- If all components but two read zero, the fold meets those two in either order. A component that
is not there reads zero as well. -/
theorem Roster.foldl_of_two {α : Type} {entries : List (String × α)} {reading : α → Int32}
    {first second : String} (nodup : (entries.map Prod.fst).Nodup) (different : first ≠ second)
    (others : ∀ id x, entries.lookup id = some x → id ≠ first → id ≠ second → reading x = 0)
    (sum : Int32) :
    let a := (entries.lookup first).elim 0 reading
    let b := (entries.lookup second).elim 0 reading
    (entries.map fun entry => reading entry.2).foldl satAdd sum = satAdd (satAdd sum a) b ∨
      (entries.map fun entry => reading entry.2).foldl satAdd sum = satAdd (satAdd sum b) a := by
  induction entries generalizing sum with
  | nil =>
    left
    simp [satAdd_zero]
  | cons entry rest ih =>
    obtain ⟨key, x⟩ := entry
    obtain ⟨fresh, nodup⟩ := List.nodup_cons.mp nodup
    have absent : rest.lookup key = none := lookup_of_absent fresh
    have restOthers : ∀ id y, rest.lookup id = some y → id ≠ first → id ≠ second →
        reading y = 0 := by
      intro id y found notFirst notSecond
      refine others id y ?_ notFirst notSecond
      have notKey : id ≠ key := by
        rintro rfl
        cases absent.symm.trans found
      rw [lookup_cons_eq, if_neg notKey, found]
    have tail := ih nodup restOthers (satAdd sum (reading x))
    rw [lookup_cons_eq, lookup_cons_eq, List.map_cons, List.foldl_cons]
    -- Either the head is one of the two and the rest has only the other, or the head reads zero.
    by_cases isFirst : first = key
    · subst isFirst
      have notSecond : second ≠ first := Ne.symm different
      simp only [absent, Option.elim_none, satAdd_zero, or_self] at tail
      simp only [if_true, if_neg notSecond, Option.elim_some]
      exact .inl tail
    · by_cases isSecond : second = key
      · subst isSecond
        simp only [absent, Option.elim_none, satAdd_zero, or_self] at tail
        simp only [if_true, if_neg isFirst, Option.elim_some]
        exact .inr tail
      · have zero : reading x = 0 := by
          apply others key x _ (Ne.symm isFirst) (Ne.symm isSecond)
          rw [lookup_cons_eq, if_pos rfl]
        simp only [if_neg isFirst, if_neg isSecond]
        rw [zero, satAdd_zero] at tail ⊢
        exact tail

theorem Site.totalPower_of_two {s : Site} {first second : String} {a b : Battery}
    (different : first ≠ second) (foundFirst : s.unit? first = some a)
    (foundSecond : s.unit? second = some b)
    (others : ∀ id x, s.unit? id = some x → id ≠ first → id ≠ second → x.active = 0) :
    s.totalPower = some (satAdd a.active b.active) := by
  have powers : s.units.values.map (some ·.active) =
      (s.units.entries.map fun entry => entry.2.active).map some := by
    simp [Roster.values, Function.comp_def]
  have lookupFirst : s.units.entries.lookup first = some a := foundFirst
  have lookupSecond : s.units.entries.lookup second = some b := foundSecond
  have fold := Roster.foldl_of_two s.units.nodup different others 0
  rw [lookupFirst, lookupSecond] at fold
  simp only [Option.elim_some, zero_satAdd] at fold
  rw [satAdd_comm b.active, or_self] at fold
  rw [totalPower, powers, Aggregates.total_map_some, fold]

end HybridStorage
