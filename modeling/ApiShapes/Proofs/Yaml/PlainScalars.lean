import ApiShapes.Proofs.Yaml.PlainNumbers
import Mathlib.Tactic

/-!
# Plain scalars without a value

A scalar without a tag goes by its form, and its form nearly always fits its value: words, floats
and integers in any base denote what they look like.  The exceptions are dates and moments that the
calendar lacks, base marks that no digit follows, integers with more digits than are read, and
floats with more places in sixties than a float has weights for.
-/

namespace ApiShapes.Yaml

/-! ## Dates and moments -/

/-- The parts of a timestamp name a day of the calendar and, if there is a time, a time of the day
with an offset shorter than a day. -/
structure TimestampText.IsValid (t : TimestampText) : Prop where
  year : 1 ≤ natOf t.year ∧ natOf t.year ≤ 9999
  month : 1 ≤ natOf t.month ∧ natOf t.month ≤ 12
  day : 1 ≤ natOf t.day ∧ natOf t.day ≤ daysInMonth (natOf t.year) (natOf t.month)
  time : ∀ hour minute second, t.time = some (hour, minute, second) →
    natOf hour ≤ 23 ∧ natOf minute ≤ 59 ∧ natOf second ≤ 59 ∧
      ∀ sign hours minutes, t.zone = some (some sign, hours, minutes) →
        natOf hours * 60 + natOf minutes < 24 * 60

theorem dateMake_ok_iff (year month day : Nat) :
    (∃ d, Date.make year month day = .ok d) ↔
      (1 ≤ year ∧ year ≤ 9999) ∧ (1 ≤ month ∧ month ≤ 12) ∧
        1 ≤ day ∧ day ≤ daysInMonth year month := by
  unfold Date.make
  split_ifs with hyear hmonth hday
  · exact iff_of_false (by simp) (by omega)
  · exact iff_of_false (by simp) (by omega)
  · exact iff_of_false (by simp) (by omega)
  · exact iff_of_true ⟨_, rfl⟩ (by omega)

theorem momentMake_ok_iff (date : Date) (hour minute second microsecond : Nat)
    (offset : Option Int) :
    (∃ t, Moment.make date hour minute second microsecond offset = .ok t) ↔
      hour ≤ 23 ∧ minute ≤ 59 ∧ second ≤ 59 := by
  unfold Moment.make
  split_ifs with hhour hminute hsecond
  · exact iff_of_false (by simp) (by omega)
  · exact iff_of_false (by simp) (by omega)
  · exact iff_of_false (by simp) (by omega)
  · exact iff_of_true ⟨_, rfl⟩ (by omega)

theorem zoneOffset_ok_iff (zone : Option (Option Char × List Char × List Char)) :
    (∃ offset, zoneOffset zone = .ok offset) ↔
      ∀ sign hours minutes, zone = some (some sign, hours, minutes) →
        natOf hours * 60 + natOf minutes < 24 * 60 := by
  unfold zoneOffset
  split
  · exact iff_of_true ⟨_, rfl⟩ nofun
  · exact iff_of_true ⟨_, rfl⟩ nofun
  · next sign hours minutes =>
    have habs : (if sign == '-' then -((natOf hours * 60 + natOf minutes : Nat) : Int)
        else (natOf hours * 60 + natOf minutes : Nat)).natAbs = natOf hours * 60 + natOf minutes := by
      split <;> omega
    push_cast at habs
    unfold checkOffset
    dsimp only
    rw [habs]
    split
    · next hshort =>
      refine iff_of_true ⟨_, rfl⟩ fun _ _ _ heq => ?_
      cases heq
      exact hshort
    · next hlong =>
      refine iff_of_false (by simp [Except.map]) fun hall => ?_
      exact hlong (hall sign hours minutes rfl)

/-- A timestamp's text has a value exactly if it names a date or moment. -/
theorem timestampValue_ok_iff (t : TimestampText) :
    (∃ v, timestampValue t = .ok v) ↔ t.IsValid := by
  have hdate := dateMake_ok_iff (natOf t.year) (natOf t.month) (natOf t.day)
  unfold timestampValue
  split
  · next htime =>
    rw [exists_bind_eq_ok_iff]
    constructor
    · rintro ⟨date, hmake, -⟩
      obtain ⟨hyear, hmonth, hday⟩ := hdate.1 ⟨date, hmake⟩
      exact ⟨hyear, hmonth, hday, by simp [htime]⟩
    · intro h
      obtain ⟨date, hmake⟩ := hdate.2 ⟨h.year, h.month, h.day⟩
      exact ⟨date, hmake, _, rfl⟩
  · next hour minute second htime =>
    dsimp only
    rw [exists_bind_eq_ok_iff]
    constructor
    · rintro ⟨offset, hoffset, h⟩
      obtain ⟨date, hmake, h⟩ := exists_bind_eq_ok_iff.1 h
      obtain ⟨moment, hmoment, -⟩ := exists_bind_eq_ok_iff.1 h
      obtain ⟨hyear, hmonth, hday⟩ := hdate.1 ⟨date, hmake⟩
      obtain ⟨hhour, hminute, hsecond⟩ := (momentMake_ok_iff _ _ _ _ _ _).1 ⟨moment, hmoment⟩
      refine ⟨hyear, hmonth, hday, fun hour' minute' second' heq => ?_⟩
      rw [htime] at heq
      cases heq
      exact ⟨hhour, hminute, hsecond, (zoneOffset_ok_iff _).1 ⟨offset, hoffset⟩⟩
    · intro h
      obtain ⟨hhour, hminute, hsecond, hzone⟩ := h.time hour minute second htime
      obtain ⟨offset, hoffset⟩ := (zoneOffset_ok_iff _).2 hzone
      obtain ⟨date, hmake⟩ := hdate.2 ⟨h.year, h.month, h.day⟩
      obtain ⟨moment, hmoment⟩ := (momentMake_ok_iff date _ _ _
        (natOf ((t.fraction ++ List.replicate 6 '0').take 6)) offset).2 ⟨hhour, hminute, hsecond⟩
      refine ⟨offset, hoffset, ?_⟩
      rw [exists_bind_eq_ok_iff]
      refine ⟨date, hmake, ?_⟩
      rw [exists_bind_eq_ok_iff]
      exact ⟨moment, hmoment, _, rfl⟩

/-! ## All plain scalars -/

/-- Why a scalar that goes by its form has no value. -/
inductive PlainMisfit (s : List Char) : Prop where
  | timestamp {t : TimestampText} (form : plainTag s = .timestamp)
      (read : timestampText? s = some t) (invalid : ¬ t.IsValid)
  | integer (form : plainTag s = .int) (lacks : LacksInteger (Decimal.takeSign s).2)
  | float (form : plainTag s = .float) (many : placeLimit < places (Decimal.takeSign s).2)

theorem form_of_plainTag (s : List Char) :
    (plainTag s = .bool → isBoolForm s = true) ∧ (plainTag s = .float → isFloatForm s = true) ∧
      (plainTag s = .int → isIntForm s = true) ∧
      (plainTag s = .timestamp → isTimestampForm s = true) := by
  unfold plainTag
  split_ifs <;> simp_all

theorem exists_boolWord {s : List Char} (h : isBoolForm s = true) :
    ∃ b, boolWords.lookup (String.ofList (lowerText s)) = some b := by
  have hall : ∀ entry ∈ boolWords, ∀ form ∈ wordForms entry.1,
      (boolWords.lookup (String.ofList (lowerText form))).isSome = true := by decide
  obtain ⟨entry, hentry, hform⟩ := List.any_eq_true.1 h
  exact Option.isSome_iff_exists.1 (hall entry hentry s (by simpa using hform))

theorem misfit_of_fails {α : Type} {r : Except Misfit α} {f : α → Value} :
    (∃ what, (r.map f).mapError Fault.misfit = .error (.misfit what)) ↔ Fails r := by
  cases r with
  | ok a => exact iff_of_false (fun ⟨_, h⟩ => nomatch h) (not_fails_ok ⟨_, rfl⟩)
  | error what => exact iff_of_true ⟨what, rfl⟩ ⟨what, rfl⟩

theorem misfit_timestamp_iff {s : List Char} {t : TimestampText} (h : timestampText? s = some t) :
    (∃ what, scalarValue .timestamp s = .error (.misfit what)) ↔ ¬ t.IsValid := by
  rw [← timestampValue_ok_iff]
  unfold scalarValue
  rw [h]
  dsimp only [Option.or]
  cases timestampValue t with
  | ok v => exact iff_of_false (fun ⟨_, h⟩ => nomatch h) (not_not_intro ⟨v, rfl⟩)
  | error fault => exact iff_of_true ⟨.calendar fault, rfl⟩ fun ⟨_, h⟩ => nomatch h

/-- The scalars that go by their form and have no value, for a reason other than the syntax. -/
theorem misfit_plainTag_iff (s : List Char) :
    (∃ what, scalarValue (plainTag s) s = .error (.misfit what)) ↔ PlainMisfit s := by
  obtain ⟨hbool, hfloat, hint, htimestamp⟩ := form_of_plainTag s
  have hother : plainTag s ≠ .timestamp → plainTag s ≠ .int → plainTag s ≠ .float →
      ¬ PlainMisfit s := by
    rintro ht hi hf (⟨form, -, -⟩ | ⟨form, -⟩ | ⟨form, -⟩)
    · exact ht form
    · exact hi form
    · exact hf form
  cases htag : plainTag s with
  | bool =>
      obtain ⟨b, hb⟩ := exists_boolWord (hbool htag)
      refine iff_of_false ?_ (hother (by simp [htag]) (by simp [htag]) (by simp [htag]))
      rintro ⟨what, h⟩
      simp [scalarValue, hb] at h
  | int =>
      have hfails : (∃ what, scalarValue .int s = .error (.misfit what)) ↔ _ := misfit_of_fails
      rw [hfails, fails_intValue_iff (hint htag)]
      constructor
      · exact fun h => .integer htag h
      · rintro (⟨form, -, -⟩ | ⟨-, lacks⟩ | ⟨form, -⟩)
        · simp [htag] at form
        · exact lacks
        · simp [htag] at form
  | float =>
      have hfails : (∃ what, scalarValue .float s = .error (.misfit what)) ↔ _ := misfit_of_fails
      rw [hfails, fails_floatValue_iff (hfloat htag)]
      constructor
      · exact fun h => .float htag h
      · rintro (⟨form, -, -⟩ | ⟨form, -⟩ | ⟨-, many⟩)
        · simp [htag] at form
        · simp [htag] at form
        · exact many
  | timestamp =>
      have hform := htimestamp htag
      unfold isTimestampForm at hform
      split at hform
      · next t hread =>
        rw [misfit_timestamp_iff hread]
        constructor
        · exact fun h => .timestamp htag hread h
        · rintro (⟨-, read, invalid⟩ | ⟨form, -⟩ | ⟨form, -⟩)
          · rw [hread] at read
            cases read
            exact invalid
          · simp [htag] at form
          · simp [htag] at form
      · cases hform
  | binary =>
      refine iff_of_false ?_ (hother (by simp [htag]) (by simp [htag]) (by simp [htag]))
      rintro ⟨what, h⟩
      unfold scalarValue at h
      dsimp only at h
      split_ifs at h
      · split at h <;> cases h
      · cases h
  | null | str | seq | map | set | orderedMap | pairs | merge | value | foreign =>
      refine iff_of_false ?_ (hother (by simp [htag]) (by simp [htag]) (by simp [htag]))
      rintro ⟨what, h⟩
      cases h

end ApiShapes.Yaml
