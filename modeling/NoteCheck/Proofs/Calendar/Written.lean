import NoteCheck.Proofs.Calendar.IsoOctets
import NoteCheck.Proofs.Text.Characters
import NoteCheck.Proofs.Text.Padded

/-!
# Reading back what is written out

The texts of days and of moments are read by `IsoText`, by positions.  They consist of characters of
ASCII, so a position in the octets is one in the text, and what *stands* at a position there
(`Stands`) is what the reader meets.  With that the reader is followed through the text of a moment
from field to field, whatever the fraction and the offset (`read?_text`).
-/

namespace NoteCheck

namespace IsoText

open NoteCheck.Text

/-! ## What stands at a position -/

/-- Whether a segment stands at a position of a text. -/
def Stands (segment cs : List Char) (position : Nat) : Prop :=
  segment <+: cs.drop position

variable {cs segment more : List Char} {c : Char} {position : Nat}

lemma stands_of_drop (h : cs.drop position = segment) : Stands segment cs position :=
  ⟨[], by rw [List.append_nil, h]⟩

lemma Stands.left (h : Stands (segment ++ more) cs position) : Stands segment cs position :=
  (List.prefix_append segment more).trans h

lemma Stands.right (h : Stands (segment ++ more) cs position) :
    Stands more cs (position + segment.length) := by
  obtain ⟨rest, hrest⟩ := h
  refine ⟨rest, ?_⟩
  rw [← List.drop_drop, ← hrest, List.append_assoc, List.drop_left]

lemma Stands.tail (h : Stands (c :: segment) cs position) : Stands segment cs (position + 1) :=
  Stands.right (show Stands ([c] ++ segment) cs position from h)

lemma length_octets (hascii : IsAscii cs) : (octets cs).length = cs.length := by
  rw [octets, hascii.flatMap_utf8EncodeChar, List.length_map]

lemma at_octets (hascii : IsAscii cs) (h : Stands (c :: segment) cs position) :
    at_ (octets cs) position = c.toUInt8 := by
  obtain ⟨rest, hrest⟩ := h
  have hget : cs[position]? = some c := by
    rw [← Nat.add_zero position, ← List.getElem?_drop, ← hrest]
    rfl
  rw [at_, octets, hascii.flatMap_utf8EncodeChar, List.getD_eq_getElem?_getD, List.getElem?_map,
    hget]
  rfl

lemma at_octets_end (hascii : IsAscii cs) (h : cs.length ≤ position) :
    at_ (octets cs) position = 0 := by
  rw [at_, List.getD_eq_getElem?_getD, List.getElem?_eq_none (by rwa [length_octets hascii])]
  rfl

lemma isDigit_toUInt8 (h : c.isDigit = true) : isDigit c.toUInt8 = true := by
  obtain ⟨hlow, hhigh⟩ := bounds_of_isDigit h
  have hoctet : c.toUInt8.toNat = c.toNat := toNat_toUInt8_of_lt (by omega)
  rw [isDigit, Bool.and_eq_true, decide_eq_true_eq, decide_eq_true_eq, UInt8.le_iff_toNat_le,
    UInt8.le_iff_toNat_le, hoctet]
  exact ⟨hlow, hhigh⟩

/-! ## Numbers -/

lemma number?_add (b : List UInt8) (m n position value : Nat) :
    number? b (m + n) position value =
      (number? b m position value).bind (number? b n (position + m)) := by
  induction m generalizing position value with
  | zero =>
      rw [Nat.zero_add]
      rfl
  | succ m ih =>
      rw [Nat.succ_add, number?, number?]
      split
      · rw [ih, Nat.succ_add_eq_add_succ]
      · rfl

lemma number?_digit (hascii : IsAscii cs) {n value : Nat} (hn : n < 10)
    (h : Stands [n.digitChar] cs position) :
    number? (octets cs) 1 position value = some (value * 10 + n) := by
  have hdigit : n.digitChar.isDigit = true := by rw [Nat.isDigit_digitChar, decide_eq_true hn]
  have hvalue : n.digitChar.toUInt8.toNat - 0x30 = n := by
    rw [toNat_toUInt8_of_lt (by have := bounds_of_isDigit hdigit; omega)]
    exact Nat.toNat_digitChar_sub_48_of_lt_ten hn
  rw [number?]
  rw [at_octets hascii h, if_pos (isDigit_toUInt8 hdigit), number?, hvalue]

/-- A padded number is read as the number. -/
lemma number?_padded (hascii : IsAscii cs) (width : Nat) {n : Nat} (hn : n < 10 ^ (width + 1))
    (h : Stands (padded (width + 1) n) cs position) :
    number? (octets cs) (width + 1) position 0 = some n := by
  induction width generalizing n with
  | zero =>
      rw [Nat.zero_add, Nat.pow_one] at hn
      rw [padded_one hn] at h
      rw [number?_digit hascii hn h, Nat.zero_mul, Nat.zero_add]
  | succ width ih =>
      rw [padded_succ] at h
      have hten : n / 10 < 10 ^ (width + 1) := by
        rw [Nat.pow_succ] at hn
        omega
      have hlast := h.right
      rw [length_padded (Nat.succ_pos width) hten] at hlast
      rw [number?_add, ih hten h.left, Option.bind_some,
        number?_digit hascii (Nat.mod_lt n (by decide)) hlast, Nat.div_add_mod']

/-! ## Times of day -/

variable {b : List UInt8} {stop count value : Nat} {fields : List Nat}

lemma readFields?_colon {colons : Option Bool} (hvalue : number? b 2 position 0 = some value)
    (hcolon : at_ b (position + 2) = 0x3A) (hstop : position + 3 < stop)
    (hcolons : colons.getD true = true) :
    readFields? b stop (count + 1) colons position fields =
      readFields? b stop count (some true) (position + 3) (fields ++ [value]) := by
  have htrue : colons.getD ((0x3A : UInt8) == 0x3A) = true := by
    cases colons with
    | none => rfl
    | some colons => exact hcolons
  rw [readFields?, hvalue]
  dsimp only
  rw [hcolon, htrue, if_neg (by omega)]
  rfl

lemma readFields?_last {colons : Option Bool} (hvalue : number? b 2 position 0 = some value)
    (hstop : stop ≤ position + 3) :
    readFields? b stop (count + 1) colons position fields =
      some (.ofFields (fields ++ [value]) (at_ b (position + 2) != 0)) := by
  rw [readFields?, hvalue]
  dsimp only
  rw [if_pos hstop]

lemma skipDigits_of_not_isDigit {fuel : Nat} (h : isDigit (at_ b position) = false) :
    skipDigits b fuel position = position := by
  cases fuel with
  | zero => rfl
  | succ fuel => rw [skipDigits, h, if_neg Bool.false_ne_true]

lemma readFields?_fraction {colons : Option Bool} {micro : Nat}
    (hvalue : number? b 2 position 0 = some value) (hpoint : at_ b (position + 2) = 0x2E)
    (hmicro : number? b 6 (position + 3) 0 = some micro)
    (hend : isDigit (at_ b (position + 9)) = false) :
    readFields? b (position + 9) (count + 1) colons position fields =
      some (.ofFields (fields ++ [value]) (at_ b (position + 9) != 0)) := by
  have hsix : min 6 (position + 9 - (position + 3)) = 6 := by omega
  rw [readFields?, hvalue]
  dsimp only
  rw [hpoint, if_neg (by omega), if_neg (by simp), if_pos (by decide), readFraction?, hsix, hmicro]
  dsimp only
  rw [show position + 3 + 6 = position + 9 by omega, skipDigits_of_not_isDigit hend]

lemma fractionText_zero : Timestamp.fractionText 0 = [] := rfl

lemma fractionText_of_ne {micro : Nat} (h : micro ≠ 0) :
    Timestamp.fractionText micro = '.' :: padded 6 micro := by
  rw [Timestamp.fractionText, if_neg h]

/-- Seconds with a fraction of them, or none. -/
abbrev Seconds := Option (Nat × Nat)

/-- The text of seconds behind a colon. -/
def secondsText : Seconds → List Char
  | some (second, micro) => ':' :: (padded 2 second ++ Timestamp.fractionText micro)
  | none => []

/-- The text of hours and minutes, and of seconds if there are any. -/
def clockText (hour minute : Nat) (seconds : Seconds) : List Char :=
  padded 2 hour ++ ':' :: (padded 2 minute ++ secondsText seconds)

lemma length_padded_two {n : Nat} (h : n < 100) : (padded 2 n).length = 2 :=
  length_padded (by decide) h

lemma length_clockText {hour minute : Nat} (hhour : hour < 100) (hminute : minute < 100)
    (seconds : Seconds) :
    (clockText hour minute seconds).length = 5 + (secondsText seconds).length := by
  rw [clockText, List.length_append, List.length_cons, List.length_append,
    length_padded_two hhour, length_padded_two hminute]
  omega

/-- A time of day is read up to where it ends, if no digit follows it. -/
lemma readTime?_clockText (hascii : IsAscii cs) {hour minute : Nat} {seconds : Seconds}
    (hhour : hour < 100) (hminute : minute < 100)
    (hseconds : ∀ s ∈ seconds, s.1 < 100 ∧ s.2 < 1000000)
    (h : Stands (clockText hour minute seconds) cs position)
    (hstop : stop = position + (clockText hour minute seconds).length)
    (hend : isDigit (at_ (octets cs) stop) = false) :
    readTime? (octets cs) position stop =
      some ⟨hour, minute, (seconds.map Prod.fst).getD 0, at_ (octets cs) stop != 0⟩ := by
  rw [length_clockText hhour hminute] at hstop
  have hbehind := h.right
  rw [length_padded_two hhour] at hbehind
  have hmore := hbehind.tail.right
  rw [length_padded_two hminute] at hmore
  have hhour := number?_padded hascii 1 hhour h.left
  have hminute := number?_padded hascii 1 hminute hbehind.tail.left
  rw [readTime?, readFields?_colon hhour (at_octets hascii hbehind) (by omega) rfl]
  cases seconds with
  | none =>
      obtain rfl : stop = position + 5 := hstop
      rw [readFields?_last hminute (by omega)]
      rfl
  | some s =>
      obtain ⟨second, micro⟩ := s
      obtain ⟨hbound, hmicro⟩ := hseconds _ rfl
      have hfraction := hmore.tail.right
      have hcolon := at_octets hascii hmore
      rw [secondsText, List.length_cons, List.length_append, length_padded_two hbound] at hstop
      rw [length_padded_two hbound] at hfraction
      have hsecond := number?_padded hascii 1 hbound hmore.tail.left
      rw [readFields?_colon hminute hcolon (by omega) rfl]
      by_cases hzero : micro = 0
      · rw [hzero, fractionText_zero] at hstop
        obtain rfl : stop = position + 8 := hstop
        rw [readFields?_last hsecond (by omega)]
        rfl
      · rw [fractionText_of_ne hzero] at hstop hfraction
        rw [List.length_cons, length_padded (by decide) hmicro] at hstop
        have hmicro := number?_padded hascii 5 hmicro hfraction.tail
        obtain rfl : stop = position + 3 + 3 + 9 := by omega
        rw [readFields?_fraction hsecond (at_octets hascii hfraction) hmicro hend]
        rfl

/-! ## Moments -/

lemma mem_clockText {hour minute : Nat} {seconds : Seconds}
    (h : c ∈ clockText hour minute seconds) : c.isDigit = true ∨ c = ':' ∨ c = '.' := by
  rw [clockText] at h
  rcases List.mem_append.mp h with h | h
  · exact Or.inl (isDigit_of_mem_padded h)
  rcases List.mem_cons.mp h with h | h
  · exact Or.inr (Or.inl h)
  rcases List.mem_append.mp h with h | h
  · exact Or.inl (isDigit_of_mem_padded h)
  cases seconds with
  | none => cases h
  | some s =>
      rw [secondsText] at h
      rcases List.mem_cons.mp h with h | h
      · exact Or.inr (Or.inl h)
      rcases List.mem_append.mp h with h | h
      · exact Or.inl (isDigit_of_mem_padded h)
      rw [Timestamp.fractionText] at h
      split at h
      · cases h
      · rcases List.mem_cons.mp h with h | h
        · exact Or.inr (Or.inr h)
        · exact Or.inl (isDigit_of_mem_padded h)

/-- Whether an octet goes on with a time of day, and begins no zone. -/
def isClockOctet (o : UInt8) : Bool :=
  o != 0x2B && o != 0x2D && o != 0x5A

lemma isClockOctet_of_mem_clockText {hour minute : Nat} {seconds : Seconds}
    (h : c ∈ clockText hour minute seconds) : isClockOctet c.toUInt8 = true := by
  rcases mem_clockText h with hdigit | rfl | rfl
  · have hlow := isDigit_toUInt8 hdigit
    rw [isDigit, Bool.and_eq_true, decide_eq_true_eq, decide_eq_true_eq] at hlow
    rw [isClockOctet, Bool.and_eq_true, Bool.and_eq_true, bne_iff_ne, bne_iff_ne, bne_iff_ne]
    refine ⟨⟨?_, ?_⟩, ?_⟩ <;> rintro heq <;> rw [heq] at hlow
    · exact absurd hlow.1 (by decide)
    · exact absurd hlow.1 (by decide)
    · exact absurd hlow.2 (by decide)
  · decide
  · decide

/-- The text of a time of day. -/
def dayTimeText (t : Clock) : List Char :=
  clockText t.hour t.minute (some (t.second, t.micro))

/-- The zone begins where the time of day ends. -/
lemma zoneStart_of_drop (hascii : IsAscii cs) {t : Clock} {zone : List Char}
    (hdrop : cs.drop position = dayTimeText t ++ zone)
    (hzone : ∀ c ∈ zone.head?, isClockOctet c.toUInt8 = false) :
    zoneStart (octets cs) position = position + (dayTimeText t).length := by
  have hoctets : (octets cs).drop position =
      (dayTimeText t).map Char.toUInt8 ++ zone.map Char.toUInt8 := by
    rw [octets, hascii.flatMap_utf8EncodeChar, ← List.map_drop, hdrop, List.map_append]
  have hstop : (zone.map Char.toUInt8).takeWhile isClockOctet = [] := by
    cases zone with
    | nil => rfl
    | cons c zone =>
        rw [List.map_cons, List.takeWhile_cons, hzone c rfl, if_neg Bool.false_ne_true]
  have htake : ((octets cs).drop position).takeWhile isClockOctet =
      (dayTimeText t).map Char.toUInt8 := by
    rw [hoctets, List.takeWhile_append_of_pos, hstop, List.append_nil]
    intro o ho
    obtain ⟨c, hc, rfl⟩ := List.mem_map.mp ho
    exact isClockOctet_of_mem_clockText hc
  calc zoneStart (octets cs) position
      = position + (((octets cs).drop position).takeWhile isClockOctet).length := rfl
    _ = position + (dayTimeText t).length := by rw [htake, List.length_map]

/-- The seconds of an offset, if it is not of whole minutes. -/
def offsetSeconds (o : Offset) : Seconds :=
  if o.micros.natAbs % 60000000 = 0 then none
  else some (o.micros.natAbs / 1000000 % 60, o.micros.natAbs % 1000000)

/-- The sign of an offset. -/
def offsetSign (o : Offset) : Char :=
  if o.micros < 0 then '-' else '+'

lemma offsetText_eq (o : Offset) :
    Timestamp.offsetText o = offsetSign o ::
      clockText (o.micros.natAbs / 1000000 / 3600) (o.micros.natAbs / 1000000 / 60 % 60)
        (offsetSeconds o) := by
  have hrest : secondsText (offsetSeconds o) =
      if o.micros.natAbs % 60000000 = 0 then []
      else ':' :: padded 2 (o.micros.natAbs / 1000000 % 60) ++
        Timestamp.fractionText (o.micros.natAbs % 1000000) := by
    rw [offsetSeconds]
    split <;> rfl
  rw [Timestamp.offsetText, clockText, offsetSign, hrest]
  simp only [List.cons_append, List.append_assoc]

/-- The text of a zone, if there is one. -/
def zoneText (offset : Option Offset) : List Char :=
  match offset with
  | some o => Timestamp.offsetText o
  | none => []

lemma text_eq (separator : Char) (t : Timestamp) :
    t.text separator = t.date.text ++ separator ::
      (dayTimeText t.clock ++ zoneText t.offset) := by
  rw [Timestamp.text, dayTimeText, clockText, secondsText]
  simp only [List.cons_append, List.append_assoc]
  rfl

/-- The hours, the minutes and the seconds of an offset are a time of day. -/
lemma offset_bounds (o : Offset) :
    o.micros.natAbs / 1000000 / 3600 < 24 ∧ o.micros.natAbs / 1000000 / 60 % 60 < 60 ∧
      o.micros.natAbs / 1000000 / 3600 * 3600 + o.micros.natAbs / 1000000 / 60 % 60 * 60 +
        ((offsetSeconds o).map Prod.fst).getD 0 < 86400 := by
  have hday : o.micros.natAbs < 86400000000 := o.below_day
  have hseconds : ((offsetSeconds o).map Prod.fst).getD 0 ≤ o.micros.natAbs / 1000000 % 60 := by
    rw [offsetSeconds]
    split
    · exact Nat.zero_le _
    · exact Nat.le_refl _
  omega

lemma offsetSeconds_bounds (o : Offset) : ∀ s ∈ offsetSeconds o, s.1 < 100 ∧ s.2 < 1000000 := by
  intro s hs
  rw [offsetSeconds] at hs
  split at hs
  · cases hs
  · obtain rfl := Option.some.inj hs
    dsimp only
    omega

lemma isClockOctet_offsetSign (o : Offset) : isClockOctet (offsetSign o).toUInt8 = false := by
  rw [offsetSign]
  split <;> decide

lemma isDigit_offsetSign (o : Offset) : isDigit (offsetSign o).toUInt8 = false := by
  rw [offsetSign]
  split <;> decide

lemma isDigit_zero : isDigit 0 = false := by decide

/-- A time of day is read if no digit follows it. -/
lemma readTime?_dayTimeText (hascii : IsAscii cs) {t : Clock}
    (h : Stands (dayTimeText t) cs position)
    (hend : isDigit (at_ (octets cs) (position + (dayTimeText t).length)) = false) :
    readTime? (octets cs) position (position + (dayTimeText t).length) =
      some ⟨t.hour, t.minute, t.second,
        at_ (octets cs) (position + (dayTimeText t).length) != 0⟩ := by
  obtain ⟨hclock, hmicro⟩ := (Bool.and_eq_true _ _).mp t.in_day
  rw [decide_eq_true_eq] at hmicro
  rw [isClockTime, Bool.and_eq_true, Bool.and_eq_true, decide_eq_true_eq, decide_eq_true_eq,
    decide_eq_true_eq] at hclock
  obtain ⟨⟨hhour, hminute⟩, hsecond⟩ := hclock
  refine readTime?_clockText hascii (by omega) (by omega) ?_ h rfl hend
  intro s hs
  obtain rfl := Option.some.inj hs
  exact ⟨by dsimp only; omega, hmicro⟩

/-- A local time of day is read. -/
lemma hasTime_of_local (hascii : IsAscii cs) {t : Clock}
    (hdrop : cs.drop position = dayTimeText t)
    (hlength : cs.length = position + (dayTimeText t).length) :
    hasTime (octets cs) position = true := by
  have hzone : zoneStart (octets cs) position = position + (dayTimeText t).length :=
    zoneStart_of_drop hascii (by rw [hdrop, List.append_nil]) (by simp)
  have hend : at_ (octets cs) (position + (dayTimeText t).length) = 0 :=
    at_octets_end hascii (Nat.le_of_eq hlength)
  have hall : Stands (dayTimeText t) cs position := stands_of_drop hdrop
  have hread := readTime?_dayTimeText hascii hall (by rw [hend, isDigit_zero])
  obtain ⟨hclock, -⟩ := (Bool.and_eq_true _ _).mp t.in_day
  rw [hend] at hread
  rw [hasTime, hzone, hread]
  dsimp only
  rw [hclock, length_octets hascii, hlength, if_pos (Nat.le_refl _)]
  rfl

/-- A time of day with an offset is read. -/
lemma hasTime_of_offset (hascii : IsAscii cs) {t : Clock} {o : Offset}
    (hdrop : cs.drop position = dayTimeText t ++ Timestamp.offsetText o)
    (hlength : cs.length =
      position + (dayTimeText t).length + (Timestamp.offsetText o).length) :
    hasTime (octets cs) position = true := by
  obtain ⟨hhour, hminute, hday⟩ := offset_bounds o
  rw [offsetText_eq] at hdrop hlength
  rw [List.length_cons] at hlength
  have hzone : zoneStart (octets cs) position = position + (dayTimeText t).length :=
    zoneStart_of_drop hascii hdrop (by simpa using isClockOctet_offsetSign o)
  have hall : Stands (dayTimeText t ++ offsetSign o :: clockText
      (o.micros.natAbs / 1000000 / 3600) (o.micros.natAbs / 1000000 / 60 % 60)
        (offsetSeconds o)) cs position := stands_of_drop hdrop
  have hsign := at_octets hascii hall.right
  have hread := readTime?_dayTimeText hascii hall.left (by rw [hsign, isDigit_offsetSign])
  have hend : at_ (octets cs) (octets cs).length = 0 :=
    at_octets_end hascii (Nat.le_of_eq (length_octets hascii).symm)
  have hstop := hlength
  rw [← length_octets hascii, ← Nat.add_assoc, Nat.add_right_comm _ _ 1] at hstop
  have hoffset := readTime?_clockText hascii (by omega) (by omega) (offsetSeconds_bounds o)
    hall.right.tail hstop (by rw [hend, isDigit_zero])
  obtain ⟨hclock, -⟩ := (Bool.and_eq_true _ _).mp t.in_day
  have hletter : holds (octets cs) (position + (dayTimeText t).length) 'Z' = false := by
    rw [holds, hsign, offsetSign]
    split <;> decide
  rw [hasTime, hzone, hread]
  dsimp only
  rw [hclock, if_neg (by rw [length_octets hascii, hlength]; omega), hletter,
    if_neg Bool.false_ne_true, hoffset, hend]
  simpa using hday

/-! ## Days -/

lemma mem_date_text {d : Date} (h : c ∈ d.text) : c.isDigit = true ∨ c = '-' := by
  rw [Date.text] at h
  rcases List.mem_append.mp h with h | h
  · rcases List.mem_append.mp h with h | h
    · exact Or.inl (isDigit_of_mem_padded h)
    · rcases List.mem_cons.mp h with h | h
      · exact Or.inr h
      · exact Or.inl (isDigit_of_mem_padded h)
  · rcases List.mem_cons.mp h with h | h
    · exact Or.inr h
    · exact Or.inl (isDigit_of_mem_padded h)

/-- What the reader of a day finds at the beginning of a text. -/
structure BeginsWithDay (b : List UInt8) (d : Date) : Prop where
  year : number? b 4 0 0 = some d.year
  firstHyphen : holds b 4 '-' = true
  month : number? b 2 5 0 = some d.month
  secondHyphen : holds b 7 '-' = true
  day : number? b 2 8 0 = some d.day

lemma date_bounds (d : Date) : d.year < 10000 ∧ d.month < 100 ∧ d.day < 100 := by
  have hday := d.exists_day
  simp only [isCalendarDay, Bool.and_eq_true, decide_eq_true_eq] at hday
  have hmonth : daysInMonth d.year d.month ≤ 31 := by
    rw [daysInMonth]
    repeat' split
    all_goals omega
  omega

lemma length_date_text (d : Date) : d.text.length = 10 := by
  obtain ⟨hyear, hmonth, hday⟩ := date_bounds d
  simp only [Date.text, List.length_append, List.length_cons, length_padded_two hmonth,
    length_padded_two hday, length_padded (by decide) (show d.year < 10 ^ 4 from hyear)]

lemma beginsWithDay (hascii : IsAscii cs) {d : Date} (h : Stands d.text cs 0) :
    BeginsWithDay (octets cs) d := by
  obtain ⟨hyear, hmonth, hday⟩ := date_bounds d
  rw [Date.text, List.append_assoc] at h
  have hfour := h.right
  rw [length_padded (by decide) (show d.year < 10 ^ 4 from hyear)] at hfour
  have hseven := hfour.tail.right
  rw [length_padded_two hmonth] at hseven
  exact {
    year := number?_padded hascii 3 hyear h.left
    firstHyphen := by rw [holds, at_octets hascii hfour]; rfl
    month := number?_padded hascii 1 hmonth hfour.tail.left
    secondHyphen := by rw [holds, at_octets hascii hseven]; rfl
    day := number?_padded hascii 1 hday hseven.tail }

namespace BeginsWithDay

variable {d : Date}

lemma not_week (h : BeginsWithDay b d) : holds b 5 'W' = false := by
  have hdigit : isDigit (at_ b 5) = true := isDigit_of_number? h.month 0 (by decide)
  rw [holds, beq_eq_false_iff_ne]
  intro hletter
  rw [eq_of_holds (o := 0x57) (by rw [holds, hletter, beq_self_eq_true]) rfl] at hdigit
  exact absurd hdigit (by decide)

lemma dayLength? (h : BeginsWithDay b d) (hlength : b.length ≠ 7) :
    IsoText.dayLength? b = some 10 := by
  rw [IsoText.dayLength?]
  dsimp only
  rw [if_neg hlength, if_pos h.firstHyphen, if_neg (by rw [h.not_week]; exact Bool.false_ne_true)]

lemma hasDay (h : BeginsWithDay b d) : IsoText.hasDay b 10 = true := by
  rw [IsoText.hasDay, h.year]
  dsimp only
  simp only [h.firstHyphen, if_true, h.not_week, Bool.false_eq_true, if_false, h.month,
    h.secondHyphen, Bool.not_true, Bool.and_false, h.day]
  exact d.exists_day

end BeginsWithDay

lemma mem_zoneText {offset : Option Offset} (h : c ∈ zoneText offset) :
    c.isDigit = true ∨ c ∈ ['-', ':', '.', '+'] := by
  cases offset with
  | none => cases h
  | some o =>
      rw [zoneText, offsetText_eq] at h
      rcases List.mem_cons.mp h with rfl | h
      · right
        rw [offsetSign]
        split <;> simp
      · rcases mem_clockText h with hdigit | rfl | rfl
        · exact Or.inl hdigit
        · right
          simp
        · right
          simp

/-- The characters that a moment is written with. -/
lemma mem_text {t : Timestamp} {separator : Char} (h : c ∈ t.text separator) :
    c.isDigit = true ∨ c ∈ ['-', ':', '.', '+', separator] := by
  rw [text_eq] at h
  rcases List.mem_append.mp h with h | h
  · exact (mem_date_text h).imp_right fun hc => by simp [hc]
  rcases List.mem_cons.mp h with rfl | h
  · right
    simp
  rcases List.mem_append.mp h with h | h
  · refine (mem_clockText h).imp_right fun hc => ?_
    rcases hc with rfl | rfl <;> simp
  · refine (mem_zoneText h).imp_right fun hc => ?_
    rw [show ['-', ':', '.', '+', separator] = ['-', ':', '.', '+'] ++ [separator] from rfl]
    exact List.mem_append_left _ hc

lemma isAscii_text (t : Timestamp) : IsAscii (t.text 'T') := by
  intro c hc
  rcases mem_text hc with hdigit | hsign
  · have hbounds := bounds_of_isDigit hdigit
    omega
  · have hsigns : ['-', ':', '.', '+', 'T'].all (·.toNat < 128) = true := by decide
    exact of_decide_eq_true (List.all_eq_true.mp hsigns c hsign)

/-- **Reading back a moment.**  The text of a moment names a day and a time of day, whatever the
fraction of the second and the offset. -/
theorem read?_text (t : Timestamp) : read? (t.text 'T') = some .clock := by
  have hascii := isAscii_text t
  have hten := length_date_text t.date
  have hbegins : BeginsWithDay (octets (t.text 'T')) t.date := by
    refine beginsWithDay hascii ?_
    rw [text_eq]
    exact List.prefix_append _ _
  have hdrop : (t.text 'T').drop 10 = 'T' :: (dayTimeText t.clock ++ zoneText t.offset) := by
    rw [text_eq, ← hten, List.drop_left]
  have hrest : (t.text 'T').drop 11 = dayTimeText t.clock ++ zoneText t.offset := by
    rw [← List.drop_drop (i := 1) (j := 10), hdrop]
    rfl
  have hlength : (t.text 'T').length =
      11 + (dayTimeText t.clock).length + (zoneText t.offset).length := by
    rw [text_eq, List.length_append, List.length_cons, List.length_append, hten]
    omega
  have hletter : at_ (octets (t.text 'T')) 10 = 'T'.toUInt8 :=
    at_octets hascii (stands_of_drop hdrop)
  have hclock : 0 < (dayTimeText t.clock).length :=
    List.length_pos_of_mem (a := ':') (by simp [dayTimeText, clockText])
  have htime : hasTime (octets (t.text 'T')) 11 = true := by
    cases hoffset : t.offset with
    | none =>
        rw [hoffset] at hrest hlength
        exact hasTime_of_local hascii (by rw [hrest]; exact List.append_nil _) hlength
    | some o =>
        rw [hoffset] at hrest hlength
        exact hasTime_of_offset hascii hrest hlength
  rw [read?, if_neg (by omega)]
  dsimp only
  rw [hbegins.dayLength? (by rw [length_octets hascii]; omega)]
  dsimp only
  rw [hbegins.hasDay, if_neg (by decide), if_neg (by rw [length_octets hascii]; omega),
    if_neg (by rw [length_octets hascii]; omega), hletter, if_pos]
  exact htime

end IsoText

end NoteCheck
