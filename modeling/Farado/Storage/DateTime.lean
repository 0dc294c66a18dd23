import Farado.Lib.Calendar
import Farado.Storage.Dto
import Farado.Storage.Text
import Mathlib.Data.Int.GCD
import Mathlib.Data.Nat.Digits.Defs

/-!
# Time points as text

A `DateTime` is stored as local time, without its offset and without a word on whether daylight
saving time was in force. What reads it back begins with `std::tm tm = {}`, and so it tells `mktime`
that it was not.
-/

namespace Farado

open Calendar

/-! ## The C library -/

/-- `std::tm`, without the fields that `mktime` does not read. -/
structure Tm where
  tmSec : Int := 0
  tmMin : Int := 0
  tmHour : Int := 0
  tmMday : Int := 0
  tmMon : Int := 0
  tmYear : Int := 0
  tmIsdst : Bool := false
  deriving DecidableEq

def Tm.ofCivil (c : Civil) (isDst : Bool) : Tm where
  tmSec := c.second
  tmMin := c.minute
  tmHour := c.hour
  tmMday := c.day
  tmMon := c.month - 1
  tmYear := c.year - 1900
  tmIsdst := isDst

/-- The clock as seconds, the offset left aside. -/
def Tm.toSeconds (tm : Tm) : Int :=
  Civil.toSeconds {
    year := tm.tmYear + 1900
    month := tm.tmMon + 1
    day := tm.tmMday
    hour := tm.tmHour
    minute := tm.tmMin
    second := tm.tmSec }

/-- The rules of local time: for every instant, how many seconds local time is ahead, in the 32 bits
of a time zone file, and whether that is daylight saving time. -/
structure Zone where
  offset : Int → Int
  isDst : Int → Bool
  offset_fits : ∀ instant, -2 ^ 31 ≤ offset instant ∧ offset instant < 2 ^ 31

/-- What the clocks show, in seconds. -/
def Zone.clock (zone : Zone) (instant : Int) : Int := instant + zone.offset instant

def localtime (zone : Zone) (instant : Int) : Tm :=
  .ofCivil (.ofSeconds (zone.clock instant)) (zone.isDst instant)

/-- `mktime` finds an instant with the local time it is given, flag included, if there is one.
Otherwise it takes the offset of some instant for which the flag is right. -/
structure PosixMktime (zone : Zone) (mktime : Tm → Int) : Prop where
  exact : ∀ tm, (∃ instant, localtime zone instant = tm) → localtime zone (mktime tm) = tm
  presumed : ∀ tm, (¬ ∃ instant, localtime zone instant = tm) →
    (∃ instant, zone.isDst instant = tm.tmIsdst) →
    ∃ instant, zone.isDst instant = tm.tmIsdst ∧ mktime tm = tm.toSeconds - zone.offset instant

def digit (n : Nat) : UInt8 := UInt8.ofNat (0x30 + n)

/-- `%Y` -/
def yearText (year : Int) : Bytes :=
  (if year < 0 then bytes "-" else []) ++
    if year = 0 then [digit 0] else (Nat.digits 10 year.natAbs).reverse.map digit

/-- `%m`, `%d`, `%H`, `%M` and `%S` -/
def twoDigits (n : Int) : Bytes := [digit (n.toNat / 10), digit (n.toNat % 10)]

def dash : UInt8 := 0x2D

def space : UInt8 := 0x20

def colon : UInt8 := 0x3A

/-- `strftime` with `"%Y-%m-%d %H:%M:%S"`: what does not fit is not written. -/
def strftime (size : Nat) (tm : Tm) : Option Bytes :=
  let text := yearText (tm.tmYear + 1900) ++ dash :: twoDigits (tm.tmMon + 1) ++
    dash :: twoDigits tm.tmMday ++ space :: twoDigits tm.tmHour ++
    colon :: twoDigits tm.tmMin ++ colon :: twoDigits tm.tmSec
  if text.length < size then some text else none

/-- The pieces of a format. -/
inductive Directive where
  | year | month | day | hour | minute | second
  | whiteSpace
  | literal (b : UInt8)

def digitValue (b : UInt8) : Option Nat :=
  if 0x30 ≤ b ∧ b ≤ 0x39 then some (b.toNat - 0x30) else none

/-- More digits of a number, as long as there is room. -/
def moreDigits (most : Nat) : Nat → Nat → Bytes → Nat × Bytes
  | n + 1, value, b :: text =>
      match digitValue b with
      | some d => if value * 10 ≤ most then moreDigits most n (value * 10 + d) text
          else (value, b :: text)
      | none => (value, b :: text)
  | _, value, text => (value, text)

/-- A number between two bounds, with at most so many digits. -/
def getNumber (least most digits : Nat) (text : Bytes) : Option (Nat × Bytes) :=
  match text.dropWhile (· == space) with
  | [] => none
  | b :: text =>
      match digitValue b with
      | none => none
      | some d =>
          let (value, text) := moreDigits most (digits - 1) d text
          if least ≤ value ∧ value ≤ most then some (value, text) else none

def isWhiteSpace (b : UInt8) : Bool := b == space || (0x09 ≤ b && b ≤ 0x0D)

/-- A number for a field. -/
def readNumber (least most digits : Nat) (text : Bytes) (set : Nat → Tm) : Option (Tm × Bytes) :=
  (getNumber least most digits text).map fun (value, text) => (set value, text)

def Directive.read (tm : Tm) (text : Bytes) : Directive → Option (Tm × Bytes)
  | .year => readNumber 0 9999 4 text fun n => { tm with tmYear := n - 1900 }
  | .month => readNumber 1 12 2 text fun n => { tm with tmMon := n - 1 }
  | .day => readNumber 1 31 2 text fun n => { tm with tmMday := n }
  | .hour => readNumber 0 23 2 text fun n => { tm with tmHour := n }
  | .minute => readNumber 0 59 2 text fun n => { tm with tmMin := n }
  | .second => readNumber 0 61 2 text fun n => { tm with tmSec := n }
  | .whiteSpace => some (tm, text.dropWhile isWhiteSpace)
  | .literal b =>
      match text with
      | c :: text => if c = b then some (tm, text) else none
      | [] => none

/-- `strptime`: where the text does not fit the format, the rest of the fields is left. -/
def strptime : List Directive → Bytes → Tm → Tm
  | [], _, tm => tm
  | d :: format, text, tm =>
      match d.read tm text with
      | some (tm, text) => strptime format text tm
      | none => tm

/-! ## The conversions -/

/-- `"%Y-%m-%d %H:%M:%S"` -/
def dateTimeFormat : List Directive :=
  [.year, .literal dash, .month, .literal dash, .day, .whiteSpace, .hour, .literal colon, .minute,
    .literal colon, .second]

/-- `dateTimeToString`, if the text fits into the 20 bytes of its buffer; the time point is cut to
seconds by `to_time_t`, towards zero. -/
def dateTimeToString (zone : Zone) (dt : Int) : Option Bytes :=
  strftime 20 (localtime zone (Dto.timePointToSeconds dt))

def stringToDateTime (mktime : Tm → Int) (str : Bytes) : Int :=
  Dto.secondsToTimePoint (mktime (strptime dateTimeFormat str {}))

example : stringToDateTime Tm.toSeconds (bytes "2024-02-29 23:59:07") = 1709251147000000000 := by
  decide +kernel

/-! ## The text -/

theorem digit_spec : ∀ d < 10, digitValue (digit d) = some d ∧ digit d ≠ space ∧ digit d ≠ 0 ∧
    isWhiteSpace (digit d) = false := by decide

theorem yearText_eq {year : Int} (hge : 1000 ≤ year) (hle : year ≤ 9999) :
    yearText year = [digit (year.toNat / 1000), digit (year.toNat / 100 % 10),
      digit (year.toNat / 10 % 10), digit (year.toNat % 10)] := by
  obtain ⟨n, rfl⟩ : ∃ n : Nat, year = n := ⟨year.toNat, by omega⟩
  have hdigits : Nat.digits 10 n = [n % 10, n / 10 % 10, n / 100 % 10, n / 1000] := by
    have h1 : n / 10 / 10 = n / 100 := by omega
    have h2 : n / 100 / 10 = n / 1000 := by omega
    have h3 : n / 1000 % 10 = n / 1000 ∧ n / 1000 / 10 = 0 := by omega
    rw [Nat.digits_def' (by decide) (by omega), Nat.digits_def' (by decide) (by omega), h1,
      Nat.digits_def' (by decide) (by omega), h2, Nat.digits_def' (by decide) (by omega), h3.1, h3.2,
      Nat.digits_zero]
  have hneg : ¬ (n : Int) < 0 := by omega
  have hzero : ¬ (n : Int) = 0 := by omega
  rw [yearText, if_neg hneg, if_neg hzero, Int.natAbs_natCast, hdigits]
  rfl

theorem moreDigits_zero (most value : Nat) (text : Bytes) :
    moreDigits most 0 value text = (value, text) := by
  cases text <;> rfl

theorem moreDigits_digit {most value d : Nat} (n : Nat) (text : Bytes) (hd : d < 10)
    (hroom : value * 10 ≤ most) :
    moreDigits most (n + 1) value (digit d :: text) =
      moreDigits most n (value * 10 + d) text := by
  rw [moreDigits, (digit_spec d hd).1]
  exact if_pos hroom

theorem getNumber_digit {least most n d : Nat} {text : Bytes} (hd : d < 10) :
    getNumber least most n (digit d :: text) =
      if least ≤ (moreDigits most (n - 1) d text).1 ∧ (moreDigits most (n - 1) d text).1 ≤ most then
        some (moreDigits most (n - 1) d text)
      else none := by
  obtain ⟨hvalue, hspace, -⟩ := digit_spec d hd
  have hskip : (digit d :: text).dropWhile (· == space) = digit d :: text := by
    rw [List.dropWhile_cons, beq_false_of_ne hspace]
    rfl
  rw [getNumber, hskip]
  dsimp only
  rw [hvalue]

theorem getNumber_twoDigits {least most : Nat} {n : Int} (rest : Bytes)
    (hleast : least ≤ n.toNat) (hmost : n.toNat ≤ most) (hninetynine : most ≤ 99) :
    getNumber least most 2 (twoDigits n ++ rest) = some (n.toNat, rest) := by
  have hsum : n.toNat / 10 * 10 + n.toNat % 10 = n.toNat := by omega
  rw [twoDigits, List.cons_append, getNumber_digit (by omega), List.cons_append,
    moreDigits_digit 0 _ (by omega) (by omega), moreDigits_zero, hsum]
  exact if_pos ⟨hleast, hmost⟩

theorem getNumber_yearText {year : Int} (hge : 1000 ≤ year) (hle : year ≤ 9999) (rest : Bytes) :
    getNumber 0 9999 4 (yearText year ++ rest) = some (year.toNat, rest) := by
  have hsum : ((year.toNat / 1000 * 10 + year.toNat / 100 % 10) * 10 + year.toNat / 10 % 10) * 10 +
      year.toNat % 10 = year.toNat := by omega
  rw [yearText_eq hge hle, List.cons_append, getNumber_digit (by omega), List.cons_append,
    moreDigits_digit 2 _ (by omega) (by omega), List.cons_append,
    moreDigits_digit 1 _ (by omega) (by omega), List.cons_append,
    moreDigits_digit 0 _ (by omega) (by omega), moreDigits_zero, hsum]
  exact if_pos ⟨Nat.zero_le _, by omega⟩

theorem strptime_cons {d : Directive} {format : List Directive} {text text' : Bytes} {tm tm' : Tm}
    (h : d.read tm text = some (tm', text')) :
    strptime (d :: format) text tm = strptime format text' tm' := by
  rw [strptime, h]

theorem strptime_literal {b : UInt8} {format : List Directive} {text : Bytes} {tm : Tm} :
    strptime (.literal b :: format) (b :: text) tm = strptime format text tm :=
  strptime_cons (if_pos rfl)

theorem strptime_twoDigits (least most : Nat) (set : Tm → Nat → Tm) {d : Directive}
    (hread : ∀ tm text, d.read tm text = readNumber least most 2 text (set tm))
    {format : List Directive} {tm : Tm} {n : Int} (rest : Bytes) (hleast : least ≤ n.toNat)
    (hmost : n.toNat ≤ most) (hninetynine : most ≤ 99) :
    strptime (d :: format) (twoDigits n ++ rest) tm = strptime format rest (set tm n.toNat) := by
  apply strptime_cons
  rw [hread, readNumber, getNumber_twoDigits rest hleast hmost hninetynine]
  rfl

theorem strptime_yearText {format : List Directive} {tm : Tm} {year : Int} (hge : 1000 ≤ year)
    (hle : year ≤ 9999) (rest : Bytes) :
    strptime (.year :: format) (yearText year ++ rest) tm =
      strptime format rest { tm with tmYear := year.toNat - 1900 } := by
  apply strptime_cons
  rw [Directive.read, readNumber, getNumber_yearText hge hle]
  rfl

/-- The text of a local time whose year has four digits. -/
def dateTimeText (c : Civil) : Bytes :=
  yearText c.year ++ dash :: (twoDigits c.month ++ dash :: (twoDigits c.day ++ space ::
    (twoDigits c.hour ++ colon :: (twoDigits c.minute ++ colon :: twoDigits c.second))))

theorem strftime_ofCivil {c : Civil} (hge : 1000 ≤ c.year) (hle : c.year ≤ 9999) (isDst : Bool) :
    strftime 20 (.ofCivil c isDst) = some (dateTimeText c) := by
  have htext : yearText ((Tm.ofCivil c isDst).tmYear + 1900) ++
      dash :: twoDigits ((Tm.ofCivil c isDst).tmMon + 1) ++
      dash :: twoDigits (Tm.ofCivil c isDst).tmMday ++
      space :: twoDigits (Tm.ofCivil c isDst).tmHour ++
      colon :: twoDigits (Tm.ofCivil c isDst).tmMin ++
      colon :: twoDigits (Tm.ofCivil c isDst).tmSec = dateTimeText c := by
    simp [Tm.ofCivil, dateTimeText]
  have hlength : (dateTimeText c).length < 20 := by
    simp [dateTimeText, yearText_eq hge hle, twoDigits]
  dsimp only [strftime]
  rw [htext, if_pos hlength]

theorem strptime_whiteSpace {format : List Directive} {n : Int} (hn : n.toNat ≤ 99) (rest : Bytes)
    (tm : Tm) :
    strptime (.whiteSpace :: format) (space :: (twoDigits n ++ rest)) tm =
      strptime format (twoDigits n ++ rest) tm := by
  obtain ⟨-, -, -, hdigit⟩ := digit_spec (n.toNat / 10) (by omega)
  apply strptime_cons
  rw [Directive.read, List.dropWhile_cons, if_pos (by decide), twoDigits, List.cons_append,
    List.dropWhile_cons, hdigit]
  rfl

/-- What was written is read, but for the flag. -/
theorem strptime_dateTimeText {c : Civil} (hc : c.InRange) (hge : 1000 ≤ c.year)
    (hle : c.year ≤ 9999) : strptime dateTimeFormat (dateTimeText c) {} = .ofCivil c false := by
  obtain ⟨hmonth, hday, hhour, hminute, hsecond⟩ := hc
  have hrest : twoDigits c.second = twoDigits c.second ++ [] := (List.append_nil _).symm
  unfold dateTimeFormat dateTimeText
  rw [hrest, strptime_yearText hge hle, strptime_literal,
    strptime_twoDigits 1 12 (fun tm n => { tm with tmMon := n - 1 }) (fun _ _ => rfl) _
      (by omega) (by omega) (by decide), strptime_literal,
    strptime_twoDigits 1 31 (fun tm n => { tm with tmMday := n }) (fun _ _ => rfl) _
      (by omega) (by omega) (by decide), strptime_whiteSpace (by omega),
    strptime_twoDigits 0 23 (fun tm n => { tm with tmHour := n }) (fun _ _ => rfl) _
      (by omega) (by omega) (by decide), strptime_literal,
    strptime_twoDigits 0 59 (fun tm n => { tm with tmMin := n }) (fun _ _ => rfl) _
      (by omega) (by omega) (by decide), strptime_literal,
    strptime_twoDigits 0 61 (fun tm n => { tm with tmSec := n }) (fun _ _ => rfl) _
      (by omega) (by omega) (by decide), strptime]
  simp only [Tm.ofCivil, Tm.mk.injEq, and_true]
  omega

theorem zero_not_mem_twoDigits {n : Int} (hn : n.toNat ≤ 99) : 0 ∉ twoDigits n := by
  have htens := (digit_spec (n.toNat / 10) (by omega)).2.2.1
  have hones := (digit_spec (n.toNat % 10) (by omega)).2.2.1
  simp [twoDigits, htens.symm, hones.symm]

/-- The column gives the text back, as a date and time. -/
theorem resultValue_dateTimeText {c : Civil} (hc : c.InRange) (hge : 1000 ≤ c.year)
    (hle : c.year ≤ 9999) :
    resultValue (.text (bindString (dateTimeText c))) = .dateTime (dateTimeText c) := by
  obtain ⟨hmonth, hday, hhour, hminute, hsecond⟩ := hc
  have hyear : 0 ∉ yearText c.year := by
    have hthousands := (digit_spec (c.year.toNat / 1000) (by omega)).2.2.1
    have hhundreds := (digit_spec (c.year.toNat / 100 % 10) (by omega)).2.2.1
    have htens := (digit_spec (c.year.toNat / 10 % 10) (by omega)).2.2.1
    have hones := (digit_spec (c.year.toNat % 10) (by omega)).2.2.1
    simp [yearText_eq hge hle, hthousands.symm, hhundreds.symm, htens.symm, hones.symm]
  have hnul : 0 ∉ dateTimeText c := by
    simp only [dateTimeText, List.mem_append, List.mem_cons, not_or]
    refine ⟨hyear, by decide, zero_not_mem_twoDigits (by omega), by decide,
      zero_not_mem_twoDigits (by omega), by decide, zero_not_mem_twoDigits (by omega), by decide,
      zero_not_mem_twoDigits (by omega), by decide, zero_not_mem_twoDigits (by omega)⟩
  have hshape : looksLikeDateTime (dateTimeText c) = true := by
    rw [dateTimeText, yearText_eq hge hle]
    rfl
  rw [bindString, cString_eq_self_iff.mpr hnul]
  simp only [resultValue, cString_eq_self_iff.mpr hnul, hshape, if_true]

/-! ## Local time -/

theorem Tm.toSeconds_ofCivil (c : Civil) (isDst : Bool) :
    (Tm.ofCivil c isDst).toSeconds = c.toSeconds := by
  simp [Tm.toSeconds, Tm.ofCivil]

/-- The clock face is what an instant shows, flag included. -/
theorem localtime_eq_iff {zone : Zone} {instant face : Int} {isDst : Bool} :
    localtime zone instant = .ofCivil (.ofSeconds face) isDst ↔
      zone.clock instant = face ∧ zone.isDst instant = isDst := by
  constructor
  · intro h
    have hseconds := congrArg Tm.toSeconds h
    rw [localtime, Tm.toSeconds_ofCivil, Tm.toSeconds_ofCivil, Civil.toSeconds_ofSeconds,
      Civil.toSeconds_ofSeconds] at hseconds
    exact ⟨hseconds, congrArg Tm.tmIsdst h⟩
  · rintro ⟨rfl, rfl⟩
    rfl

namespace Zone

/-- What a clock face can mean that is said to be in standard time: the instants in standard time
that show it; if there are none, the face without the offset of some standard time. -/
def StandardReading (zone : Zone) (face instant : Int) : Prop :=
  (zone.isDst instant = false ∧ zone.clock instant = face) ∨
    (∀ other, zone.isDst other = false → zone.clock other ≠ face) ∧
      ∃ other, zone.isDst other = false ∧ instant = face - zone.offset other

variable {zone : Zone} {mktime : Tm → Int} {face : Int}

theorem standardReading_mktime (hmktime : PosixMktime zone mktime)
    (hstandard : ∃ instant, zone.isDst instant = false) :
    zone.StandardReading face (mktime (.ofCivil (.ofSeconds face) false)) := by
  by_cases hshown : ∃ instant, localtime zone instant = .ofCivil (.ofSeconds face) false
  · obtain ⟨hclock, hdst⟩ := localtime_eq_iff.mp (hmktime.exact _ hshown)
    exact .inl ⟨hdst, hclock⟩
  · obtain ⟨other, hdst, hother⟩ := hmktime.presumed _ hshown hstandard
    rw [Tm.toSeconds_ofCivil, Civil.toSeconds_ofSeconds] at hother
    refine .inr ⟨fun instant hinstant hclock => hshown ⟨instant, ?_⟩, other, hdst, hother⟩
    exact localtime_eq_iff.mpr ⟨hclock, hinstant⟩

/-- There is such a function for every zone. -/
theorem exists_posixMktime (zone : Zone) : ∃ mktime, PosixMktime zone mktime := by
  classical
  have hchoice : ∀ tm : Tm, ∃ answer,
      ((∃ instant, localtime zone instant = tm) → localtime zone answer = tm) ∧
      ((¬ ∃ instant, localtime zone instant = tm) →
        (∃ instant, zone.isDst instant = tm.tmIsdst) →
        ∃ instant, zone.isDst instant = tm.tmIsdst ∧
          answer = tm.toSeconds - zone.offset instant) := by
    intro tm
    by_cases hshown : ∃ instant, localtime zone instant = tm
    · obtain ⟨instant, hinstant⟩ := hshown
      exact ⟨instant, fun _ => hinstant, fun hnot => absurd ⟨instant, hinstant⟩ hnot⟩
    · by_cases hflag : ∃ instant, zone.isDst instant = tm.tmIsdst
      · obtain ⟨instant, hinstant⟩ := hflag
        exact ⟨_, fun h => absurd h hshown, fun _ _ => ⟨instant, hinstant, rfl⟩⟩
      · exact ⟨0, fun h => absurd h hshown, fun _ h => absurd h hflag⟩
  choose mktime hexact hpresumed using hchoice
  exact ⟨mktime, hexact, hpresumed⟩

/-- Whatever a clock face can mean, some such function takes it so. -/
theorem exists_mktime_eq {answer : Int}
    (h : zone.StandardReading face answer ∨ ∀ instant, zone.isDst instant = true) :
    ∃ mktime, PosixMktime zone mktime ∧ mktime (.ofCivil (.ofSeconds face) false) = answer := by
  obtain ⟨mktime, hmktime⟩ := exists_posixMktime zone
  refine ⟨Function.update mktime (.ofCivil (.ofSeconds face) false) answer, ⟨?_, ?_⟩,
    Function.update_self ..⟩
  · intro tm hshown
    by_cases htm : tm = .ofCivil (.ofSeconds face) false
    · subst htm
      rw [Function.update_self]
      obtain ⟨instant, hinstant⟩ := hshown
      obtain ⟨hclock, hdst⟩ := localtime_eq_iff.mp hinstant
      rcases h with (⟨hanswer, hface⟩ | ⟨hnone, -⟩) | hall
      · exact localtime_eq_iff.mpr ⟨hface, hanswer⟩
      · exact absurd hclock (hnone instant hdst)
      · rw [hall instant] at hdst
        cases hdst
    · rw [Function.update_of_ne htm]
      exact hmktime.exact tm hshown
  · intro tm hshown hflag
    by_cases htm : tm = .ofCivil (.ofSeconds face) false
    · subst htm
      rw [Function.update_self, Tm.toSeconds_ofCivil, Civil.toSeconds_ofSeconds]
      rcases h with (⟨hanswer, hface⟩ | ⟨-, other, hother, hanswer⟩) | hall
      · exact absurd ⟨answer, localtime_eq_iff.mpr ⟨hface, hanswer⟩⟩ hshown
      · exact ⟨other, hother, hanswer⟩
      · obtain ⟨instant, hinstant⟩ := hflag
        rw [hall instant] at hinstant
        cases hinstant
    · rw [Function.update_of_ne htm]
      exact hmktime.presumed tm hshown hflag

end Zone

/-! ## Writing and reading -/

/-- What is written and what it is read as: the time point in whole seconds. -/
def ReadsBackDateTime (zone : Zone) (mktime : Tm → Int) (dt : Int) : Prop :=
  ∃ text, dateTimeToString zone dt = some text ∧
    resultValue (.text (bindString text)) = .dateTime text ∧
      stringToDateTime mktime text = dt / 1000000000 * 1000000000

/-- The local time that is written. -/
def writtenTime (zone : Zone) (dt : Int) : Civil :=
  .ofSeconds (zone.clock (Dto.timePointToSeconds dt))

theorem readsBackDateTime_iff_mktime {zone : Zone} {mktime : Tm → Int} {dt : Int}
    (hge : 1000 ≤ (writtenTime zone dt).year) (hle : (writtenTime zone dt).year ≤ 9999) :
    ReadsBackDateTime zone mktime dt ↔
      Dto.secondsToTimePoint (mktime (.ofCivil (writtenTime zone dt) false)) =
        dt / 1000000000 * 1000000000 := by
  have hrange : (writtenTime zone dt).InRange := Civil.inRange_ofSeconds _
  have hwritten : dateTimeToString zone dt = some (dateTimeText (writtenTime zone dt)) :=
    strftime_ofCivil hge hle _
  have hread : stringToDateTime mktime (dateTimeText (writtenTime zone dt)) =
      Dto.secondsToTimePoint (mktime (.ofCivil (writtenTime zone dt) false)) := by
    rw [stringToDateTime, strptime_dateTimeText hrange hge hle]
  constructor
  · rintro ⟨text, htext, -, hback⟩
    obtain rfl : text = dateTimeText (writtenTime zone dt) :=
      Option.some.inj (htext.symm.trans hwritten)
    rwa [hread] at hback
  · intro hback
    exact ⟨_, hwritten, resultValue_dateTimeText hrange hge hle, hread.trans hback⟩

/-- Of the factors of a thousand million, nine are two. -/
theorem dvd_sub_of_nanoseconds {seconds other : Int}
    (h : ((2 ^ 64 : Nat) : Int) ∣ other * 1000000000 - seconds * 1000000000) :
    ((2 ^ 55 : Nat) : Int) ∣ other - seconds := by
  have hpow : ((2 ^ 64 : Nat) : Int) = 512 * ((2 ^ 55 : Nat) : Int) := by decide
  have hmul : other * 1000000000 - seconds * 1000000000 = 512 * (1953125 * (other - seconds)) := by
    omega
  rw [hpow, hmul] at h
  have hdvd := Int.dvd_of_mul_dvd_mul_left (by decide) h
  exact Int.dvd_of_dvd_mul_right_of_gcd_one hdvd (by decide)

theorem eq_of_dvd_of_near {seconds other : Int} (h : ((2 ^ 55 : Nat) : Int) ∣ other - seconds)
    (hnear : -2 ^ 34 < seconds - other ∧ seconds - other < 2 ^ 34) : seconds = other := by
  omega

/-- Nanoseconds tell seconds apart that are not ages apart. -/
theorem secondsToTimePoint_eq_iff {seconds other : Int}
    (hnear : -2 ^ 34 < seconds - other ∧ seconds - other < 2 ^ 34) :
    Dto.secondsToTimePoint seconds = other * 1000000000 ↔
      seconds = other ∧ Dto.SecondsFit other := by
  constructor
  · intro h
    have hdvd : ((2 ^ 64 : Nat) : Int) ∣
        (seconds * 1000000000).bmod (2 ^ 64) - seconds * 1000000000 := Int.dvd_bmod_sub_self
    rw [show (seconds * 1000000000).bmod (2 ^ 64) = other * 1000000000 from h] at hdvd
    obtain rfl := eq_of_dvd_of_near (dvd_sub_of_nanoseconds hdvd) hnear
    refine ⟨rfl, ?_⟩
    have hlt : Dto.secondsToTimePoint seconds < 2 ^ 63 := Int.bmod_lt (by decide)
    have hge : -2 ^ 63 ≤ Dto.secondsToTimePoint seconds := Int.le_bmod (by decide)
    rw [h] at hlt hge
    unfold Dto.SecondsFit
    clear hdvd
    omega
  · rintro ⟨rfl, hfit⟩
    exact Dto.secondsToTimePoint_of_fit hfit

theorem timePointToSeconds_near (dt : Int) :
    Dto.timePointToSeconds dt - dt / 1000000000 = 0 ∨
      Dto.timePointToSeconds dt - dt / 1000000000 = 1 := by
  unfold Dto.timePointToSeconds
  rw [Int.tdiv_eq_ediv]
  split
  · omega
  · simp only [show Int.sign 1000000000 = 1 from rfl]
    omega

/-- Nothing but the time point itself, in whole seconds, can be meant by what is written, taken as
standard time. -/
structure Zone.OnlyReading (zone : Zone) (dt : Int) : Prop where
  fits : Dto.SecondsFit (dt / 1000000000)
  has_standard : ∃ instant, zone.isDst instant = false
  only : ∀ instant, zone.StandardReading (zone.clock (Dto.timePointToSeconds dt)) instant →
    instant = dt / 1000000000

theorem Zone.StandardReading.near {zone : Zone} {instant other : Int}
    (h : zone.StandardReading (zone.clock other) instant) :
    -2 ^ 33 < instant - other ∧ instant - other < 2 ^ 33 := by
  have hother := zone.offset_fits other
  rcases h with ⟨-, hclock⟩ | ⟨-, standard, -, rfl⟩
  · have hinstant := zone.offset_fits instant
    unfold Zone.clock at hclock
    omega
  · have hstandard := zone.offset_fits standard
    unfold Zone.clock
    omega

theorem onlyReading_of_readsBackDateTime {zone : Zone} {dt : Int}
    (hge : 1000 ≤ (writtenTime zone dt).year) (hle : (writtenTime zone dt).year ≤ 9999)
    (h : ∀ mktime, PosixMktime zone mktime → ReadsBackDateTime zone mktime dt) :
    zone.OnlyReading dt := by
  have hnear := timePointToSeconds_near dt
  have hreads : ∀ answer,
      -2 ^ 34 < answer - dt / 1000000000 ∧ answer - dt / 1000000000 < 2 ^ 34 →
      zone.StandardReading (zone.clock (Dto.timePointToSeconds dt)) answer ∨
        (∀ instant, zone.isDst instant = true) →
      answer = dt / 1000000000 ∧ Dto.SecondsFit (dt / 1000000000) := by
    intro answer hclose hanswer
    obtain ⟨mktime, hmktime, heq⟩ := Zone.exists_mktime_eq hanswer
    have hback := (readsBackDateTime_iff_mktime hge hle).mp (h mktime hmktime)
    rw [writtenTime, heq] at hback
    exact (secondsToTimePoint_eq_iff hclose).mp hback
  have hstandard : ∃ instant, zone.isDst instant = false := by
    by_contra hnone
    rw [not_exists] at hnone
    -- a zone without standard time leaves the answer open
    have hanswer := (hreads (dt / 1000000000 + 1) (by omega)
      (.inr fun instant => by simpa using hnone instant)).1
    omega
  have honly : ∀ instant, zone.StandardReading (zone.clock (Dto.timePointToSeconds dt)) instant →
      instant = dt / 1000000000 ∧ Dto.SecondsFit (dt / 1000000000) := by
    intro instant hinstant
    have hclose := hinstant.near
    exact hreads instant (by omega) (.inl hinstant)
  obtain ⟨mktime, hmktime⟩ := Zone.exists_posixMktime zone
  exact ⟨(honly _ (Zone.standardReading_mktime hmktime hstandard)).2, hstandard,
    fun instant hinstant => (honly instant hinstant).1⟩

/-- **A time point is read back exactly where it is the only standard time for what its clock
shows.** -/
theorem readsBackDateTime_iff (zone : Zone) {dt : Int}
    (hge : 1000 ≤ (writtenTime zone dt).year) (hle : (writtenTime zone dt).year ≤ 9999) :
    (∀ mktime, PosixMktime zone mktime → ReadsBackDateTime zone mktime dt) ↔
      zone.OnlyReading dt := by
  constructor
  · exact onlyReading_of_readsBackDateTime hge hle
  · intro h mktime hmktime
    rw [readsBackDateTime_iff_mktime hge hle, writtenTime,
      h.only _ (Zone.standardReading_mktime hmktime h.has_standard)]
    exact Dto.secondsToTimePoint_of_fit h.fits

/-- Central European time, with the summer of 2024. -/
def summerTime : Zone where
  offset instant := if 1711846800 ≤ instant ∧ instant < 1729990800 then 7200 else 3600
  isDst instant := decide (1711846800 ≤ instant ∧ instant < 1729990800)
  offset_fits instant := by
    split
    · decide
    · decide

theorem readsBackDateTime_iff_winter :
    (∀ mktime, PosixMktime summerTime mktime →
      ReadsBackDateTime summerTime mktime 1704067200000000000) ↔
        summerTime.OnlyReading 1704067200000000000 :=
  readsBackDateTime_iff summerTime (by decide) (by decide)

/-- In standard time everything is that is not repeated. -/
theorem Zone.onlyReading_of_standard {zone : Zone} {dt : Int}
    (hwhole : Dto.timePointToSeconds dt = dt / 1000000000)
    (hfits : Dto.SecondsFit (dt / 1000000000)) (hstandard : zone.isDst (dt / 1000000000) = false)
    (honce : ∀ instant, zone.isDst instant = false →
      zone.clock instant = zone.clock (dt / 1000000000) → instant = dt / 1000000000) :
    zone.OnlyReading dt := by
  refine ⟨hfits, ⟨_, hstandard⟩, ?_⟩
  rw [hwhole]
  rintro instant (⟨hinstant, hclock⟩ | ⟨hnone, -⟩)
  · exact honce instant hinstant hclock
  · exact absurd rfl (hnone _ hstandard)

/-- In daylight saving time nothing is read back. -/
theorem Zone.not_onlyReading_of_dst {zone : Zone} {dt : Int}
    (hwhole : Dto.timePointToSeconds dt = dt / 1000000000)
    (hdst : zone.isDst (dt / 1000000000) = true)
    (hoffset : ∀ instant, zone.isDst instant = false →
      zone.offset instant ≠ zone.offset (dt / 1000000000)) : ¬ zone.OnlyReading dt := by
  rintro ⟨-, ⟨standard, hstandard⟩, honly⟩
  rw [hwhole] at honly
  by_cases hshown : ∃ instant, zone.isDst instant = false ∧
      zone.clock instant = zone.clock (dt / 1000000000)
  · obtain ⟨instant, hinstant, hclock⟩ := hshown
    rw [honly instant (.inl ⟨hinstant, hclock⟩), hdst] at hinstant
    cases hinstant
  · have hread := honly (zone.clock (dt / 1000000000) - zone.offset standard)
      (.inr ⟨fun other hother hclock => hshown ⟨other, hother, hclock⟩, standard, hstandard, rfl⟩)
    refine hoffset standard hstandard ?_
    unfold Zone.clock at hread
    omega

/-- The first of July. -/
theorem not_readsBackDateTime : ¬ ∀ (zone : Zone) (mktime : Tm → Int) (dt : Int),
    PosixMktime zone mktime → 1000 ≤ (writtenTime zone dt).year →
    (writtenTime zone dt).year ≤ 9999 → ReadsBackDateTime zone mktime dt := by
  intro h
  have honly : summerTime.OnlyReading 1719792000000000000 := by
    refine onlyReading_of_readsBackDateTime (by decide) (by decide) fun mktime hmktime => ?_
    exact h summerTime mktime _ hmktime (by decide) (by decide)
  refine Zone.not_onlyReading_of_dst (by decide) (by decide) ?_ honly
  intro instant hinstant
  have hwinter : ¬ (1711846800 ≤ instant ∧ instant < 1729990800) := of_decide_eq_false hinstant
  dsimp only [summerTime]
  rw [if_neg hwinter]
  decide

end Farado
