import Mathlib.Data.Nat.Find

set_option autoImplicit false

namespace Galoy

-- Days and years are counted as ECMAScript does, and days from the epoch on.
def dayFromYear (year : Nat) : Nat :=
  365 * (year - 1970) + (year - 1969) / 4 + (year - 1601) / 400 - (year - 1901) / 100

def yearFromDay (day : Nat) : Nat :=
  Nat.findGreatest (fun year => dayFromYear year ≤ day) (1970 + day / 365)

def inLeapYear (year : Nat) : Bool := dayFromYear (year + 1) = dayFromYear year + 366

def monthBegins (leap : Bool) (month : Nat) : Nat :=
  [0, 31, 59, 90, 120, 151, 181, 212, 243, 273, 304, 334].getD month 0 +
    if leap && decide (2 ≤ month) then 1 else 0

def monthFromDay (leap : Bool) (dayWithinYear : Nat) : Nat :=
  Nat.findGreatest (fun month => monthBegins leap month ≤ dayWithinYear) 11

def makeDay (year month date : Nat) : Nat :=
  dayFromYear year + monthBegins (inLeapYear year) month + date - 1

def monthNames : List String :=
  ["Jan", "Feb", "Mar", "Apr", "May", "Jun", "Jul", "Aug", "Sep", "Oct", "Nov", "Dec"]

def weekDayNames : List String := ["Sun", "Mon", "Tue", "Wed", "Thu", "Fri", "Sat"]

def padded (width n : Nat) : List Char := (Nat.toDigits 10 n).leftpad width '0'

def dateFields (day : Nat) : List (List Char) :=
  let year := yearFromDay day
  let dayWithinYear := day - dayFromYear year
  let month := monthFromDay (inLeapYear year) dayWithinYear
  [(weekDayNames.getD ((day + 4) % 7) "").toList, (monthNames.getD month "").toList,
    padded 2 (dayWithinYear - monthBegins (inLeapYear year) month + 1), padded 4 year]

def toDateString (day : Nat) : String := String.ofList ([' '].intercalate (dateFields day))

-- A year below 100 is taken for one of this or of the last century.
def fullYear (year : Nat) : Nat :=
  if year < 50 then year + 2000 else if year < 100 then year + 1900 else year

def parseDateString (text : String) : Option Nat :=
  let fields := text.toList.splitOn ' '
  let number (field : Nat) := Nat.ofDigitChars 10 (fields.getD field []) 0
  (monthNames.idxOf? (String.ofList (fields.getD 1 []))).map fun month =>
    makeDay (fullYear (number 3)) month (number 2)

theorem dayFromYear_le (day : Nat) : dayFromYear (yearFromDay day) ≤ day :=
  Nat.findGreatest_spec (P := fun year => dayFromYear year ≤ day) (Nat.le_add_right 1970 _)
    (Nat.zero_le day)

theorem epoch_le_year (day : Nat) : 1970 ≤ yearFromDay day :=
  Nat.le_findGreatest (Nat.le_add_right 1970 _) (Nat.zero_le day)

theorem monthBegins_le (leap : Bool) (dayWithinYear : Nat) :
    monthBegins leap (monthFromDay leap dayWithinYear) ≤ dayWithinYear := by
  refine Nat.findGreatest_spec (P := fun month => monthBegins leap month ≤ dayWithinYear)
    (Nat.zero_le 11) ?_
  cases leap <;> exact Nat.zero_le dayWithinYear

theorem monthName_found {month : Nat} (isMonth : month ≤ 11) :
    monthNames.idxOf? (monthNames.getD month "") = some month := by
  revert month
  decide

theorem ofDigitChars_padded (width n : Nat) : Nat.ofDigitChars 10 (padded width n) 0 = n := by
  rw [padded, List.leftpad, Nat.ofDigitChars_append, Nat.ofDigitChars_replicate_zero,
    Nat.mul_zero, Nat.ofDigitChars_toDigits (by decide) le_rfl]

theorem space_notMem_padded (width n : Nat) : ' ' ∉ padded width n := by
  rw [padded, List.leftpad, List.mem_append, not_or]
  refine ⟨fun zero => absurd (List.eq_of_mem_replicate zero) (by decide), fun digit => ?_⟩
  exact absurd (Nat.isDigit_of_mem_toDigits (by decide) le_rfl digit) (by decide)

theorem space_notMem_dateFields (day : Nat) : ∀ field ∈ dateFields day, ' ' ∉ field := by
  have names (names : List String) (none : ∀ name ∈ names, ' ' ∉ name.toList) (index : Nat) :
      ' ' ∉ (names.getD index "").toList := by
    rw [List.getD_eq_getElem?_getD]
    cases found : names[index]? with
    | none => exact List.not_mem_nil
    | some name => exact none name (List.mem_of_getElem? found)
  intro field member
  simp only [dateFields, List.mem_cons, List.not_mem_nil, or_false] at member
  rcases member with rfl | rfl | rfl | rfl
  · exact names weekDayNames (by decide) _
  · exact names monthNames (by decide) _
  · exact space_notMem_padded 2 _
  · exact space_notMem_padded 4 _

theorem parseDateString_toDateString (day : Nat) : parseDateString (toDateString day) =
    some day := by
  have fields : (toDateString day).toList.splitOn ' ' = dateFields day := by
    rw [toDateString, String.toList_ofList]
    exact List.splitOn_intercalate ' ' (space_notMem_dateFields day) (List.cons_ne_nil _ _)
  have century : fullYear (yearFromDay day) = yearFromDay day := by
    have later := epoch_le_year day
    rw [fullYear, if_neg (by omega), if_neg (by omega)]
  have isMonth : monthFromDay (inLeapYear (yearFromDay day)) (day - dayFromYear (yearFromDay day)) ≤
      11 := Nat.findGreatest_le 11
  have yearBegun := dayFromYear_le day
  have monthBegun := monthBegins_le (inLeapYear (yearFromDay day))
    (day - dayFromYear (yearFromDay day))
  unfold parseDateString
  rw [fields]
  simp only [dateFields, List.getD_cons_succ, List.getD_cons_zero, String.ofList_toList,
    ofDigitChars_padded, century, monthName_found isMonth, Option.map_some, Option.some.injEq,
    makeDay]
  omega

example : toDateString 0 = "Thu Jan 01 1970" ∧ toDateString 19051 = "Mon Feb 28 2022" := by
  decide +kernel

end Galoy
