import NoteCheck.Proofs.Calendar.Written

/-!
# The texts of days and of moments name them

All numbers in these texts have a fixed width, so they can be cut off one after the other.  What may
be missing, a fraction, an offset or the seconds of one, begins with a mark of its own, so a text
also tells what is missing.

* **`Date.text_inj`**, **`Timestamp.text_inj`**: a text is that of one day or one moment.
-/

namespace NoteCheck

open NoteCheck.Text IsoText

variable {cs ds : List Char} {n m : Nat}

/-! ## Days -/

namespace Date

variable {d e : Date}

lemma ext (hyear : d.year = e.year) (hmonth : d.month = e.month) (hday : d.day = e.day) :
    d = e := by
  cases d
  cases e
  simp_all

lemma text_append_inj (h : d.text ++ cs = e.text ++ ds) : d = e ∧ cs = ds := by
  obtain ⟨hdyear, hdmonth, hdday⟩ := date_bounds d
  obtain ⟨heyear, hemonth, heday⟩ := date_bounds e
  simp only [text, List.append_assoc, List.cons_append] at h
  obtain ⟨hyear, h⟩ := padded_append_inj (by decide) hdyear heyear h
  obtain ⟨hmonth, h⟩ := padded_append_inj (by decide) hdmonth hemonth (List.cons.inj h).2
  obtain ⟨hday, h⟩ := padded_append_inj (by decide) hdday heday (List.cons.inj h).2
  exact ⟨ext hyear hmonth hday, h⟩

theorem text_inj (h : d.text = e.text) : d = e :=
  (text_append_inj (show d.text ++ [] = e.text ++ [] by rw [h])).1

end Date

/-! ## Times of day -/

namespace IsoText

/-- Whether a text does not go on with the seconds of a time of day or a fraction of them. -/
def EndsClock (cs : List Char) : Prop :=
  ∀ c ∈ cs.head?, c ≠ ':' ∧ c ≠ '.'

lemma fractionText_append_inj (hn : n < 1000000) (hm : m < 1000000) (hcs : EndsClock cs)
    (hds : EndsClock ds) (h : Timestamp.fractionText n ++ cs = Timestamp.fractionText m ++ ds) :
    n = m ∧ cs = ds := by
  rcases eq_or_ne n 0 with rfl | hn' <;> rcases eq_or_ne m 0 with rfl | hm'
  · exact ⟨rfl, h⟩
  · rw [fractionText_of_ne hm', fractionText_zero, List.nil_append, List.cons_append] at h
    exact absurd rfl (hcs '.' (by rw [h]; rfl)).2
  · rw [fractionText_of_ne hn', fractionText_zero, List.nil_append, List.cons_append] at h
    exact absurd rfl (hds '.' (by rw [← h]; rfl)).2
  · rw [fractionText_of_ne hn', fractionText_of_ne hm'] at h
    exact padded_append_inj (by decide) hn hm (List.cons.inj h).2

lemma secondsText_append_inj {s t : Seconds} (hs : ∀ p ∈ s, p.1 < 100 ∧ p.2 < 1000000)
    (ht : ∀ p ∈ t, p.1 < 100 ∧ p.2 < 1000000) (hcs : EndsClock cs) (hds : EndsClock ds)
    (h : secondsText s ++ cs = secondsText t ++ ds) : s = t ∧ cs = ds := by
  match s, t with
  | none, none => exact ⟨rfl, h⟩
  | none, some _ =>
      rw [secondsText, secondsText, List.nil_append, List.cons_append] at h
      exact absurd rfl (hcs ':' (by rw [h]; rfl)).1
  | some _, none =>
      rw [secondsText, secondsText, List.nil_append, List.cons_append] at h
      exact absurd rfl (hds ':' (by rw [← h]; rfl)).1
  | some (second, micro), some (second', micro') =>
      obtain ⟨hsecond, hmicro⟩ : second < 100 ∧ micro < 1000000 := hs _ rfl
      obtain ⟨hsecond', hmicro'⟩ : second' < 100 ∧ micro' < 1000000 := ht _ rfl
      simp only [secondsText, List.cons_append, List.append_assoc] at h
      obtain ⟨hseconds, h⟩ := padded_append_inj (by decide) hsecond hsecond' (List.cons.inj h).2
      obtain ⟨hmicros, h⟩ := fractionText_append_inj hmicro hmicro' hcs hds h
      exact ⟨by rw [hseconds, hmicros], h⟩

lemma clockText_append_inj {hour minute hour' minute' : Nat} {s t : Seconds} (hhour : hour < 100)
    (hminute : minute < 100) (hhour' : hour' < 100) (hminute' : minute' < 100)
    (hs : ∀ p ∈ s, p.1 < 100 ∧ p.2 < 1000000) (ht : ∀ p ∈ t, p.1 < 100 ∧ p.2 < 1000000)
    (hcs : EndsClock cs) (hds : EndsClock ds)
    (h : clockText hour minute s ++ cs = clockText hour' minute' t ++ ds) :
    hour = hour' ∧ minute = minute' ∧ s = t ∧ cs = ds := by
  simp only [clockText, List.cons_append, List.append_assoc] at h
  obtain ⟨hhours, h⟩ := padded_append_inj (by decide) hhour hhour' h
  obtain ⟨hminutes, h⟩ := padded_append_inj (by decide) hminute hminute' (List.cons.inj h).2
  obtain ⟨hseconds, h⟩ := secondsText_append_inj hs ht hcs hds h
  exact ⟨hhours, hminutes, hseconds, h⟩

lemma clock_bounds (t : Clock) :
    t.hour < 100 ∧ t.minute < 100 ∧ t.second < 100 ∧ t.micro < 1000000 := by
  obtain ⟨hclock, hmicro⟩ := (Bool.and_eq_true _ _).mp t.in_day
  rw [decide_eq_true_eq] at hmicro
  rw [isClockTime, Bool.and_eq_true, Bool.and_eq_true, decide_eq_true_eq, decide_eq_true_eq,
    decide_eq_true_eq] at hclock
  omega

lemma dayTimeText_append_inj {s t : Clock} (hcs : EndsClock cs) (hds : EndsClock ds)
    (h : dayTimeText s ++ cs = dayTimeText t ++ ds) : s = t ∧ cs = ds := by
  obtain ⟨hhour, hminute, hsecond, hmicro⟩ := clock_bounds s
  obtain ⟨hhour', hminute', hsecond', hmicro'⟩ := clock_bounds t
  obtain ⟨hhours, hminutes, hseconds, h⟩ := clockText_append_inj hhour hminute hhour' hminute'
    (by simp [hsecond, hmicro]) (by simp [hsecond', hmicro']) hcs hds h
  refine ⟨?_, h⟩
  cases s
  cases t
  simp_all

/-! ## Zones -/

lemma offsetSign_eq_iff (o : Offset) : offsetSign o = '-' ↔ o.micros < 0 := by
  rw [offsetSign]
  split
  · next hneg => exact ⟨fun _ => hneg, fun _ => rfl⟩
  · next hneg => exact ⟨fun hsign => absurd hsign (by decide), fun h => absurd h hneg⟩

lemma offsetText_inj {o p : Offset} (h : Timestamp.offsetText o = Timestamp.offsetText p) :
    o = p := by
  obtain ⟨hohour, hominute, -⟩ := offset_bounds o
  obtain ⟨hphour, hpminute, -⟩ := offset_bounds p
  rw [offsetText_eq, offsetText_eq] at h
  obtain ⟨hsign, h⟩ := List.cons.inj h
  rw [← List.append_nil (clockText _ _ (offsetSeconds o)),
    ← List.append_nil (clockText _ _ (offsetSeconds p))] at h
  obtain ⟨hhours, hminutes, hseconds, -⟩ := clockText_append_inj (by omega) (by omega) (by omega)
    (by omega) (offsetSeconds_bounds o) (offsetSeconds_bounds p) (by simp [EndsClock])
    (by simp [EndsClock]) h
  have hmicros : o.micros.natAbs = p.micros.natAbs := by
    rw [offsetSeconds, offsetSeconds] at hseconds
    split at hseconds <;> split at hseconds
    · omega
    · cases hseconds
    · cases hseconds
    · obtain ⟨hsecond, hmicro⟩ := Prod.mk.inj (Option.some.inj hseconds)
      omega
  have hneg : o.micros < 0 ↔ p.micros < 0 := by
    rw [← offsetSign_eq_iff, hsign, offsetSign_eq_iff]
  obtain ⟨micros, _⟩ := o
  obtain ⟨micros', _⟩ := p
  obtain rfl : micros = micros' := by
    dsimp only at hmicros hneg
    omega
  rfl

lemma endsClock_zoneText (offset : Option Offset) : EndsClock (zoneText offset) := by
  cases offset with
  | none => simp [EndsClock, zoneText]
  | some o =>
      rw [zoneText, offsetText_eq, EndsClock]
      intro c hc
      obtain rfl := Option.some.inj hc
      rw [offsetSign]
      split <;> decide

lemma zoneText_inj {o p : Option Offset} (h : zoneText o = zoneText p) : o = p := by
  match o, p with
  | none, none => rfl
  | none, some p =>
      rw [zoneText, zoneText, offsetText_eq] at h
      cases h
  | some o, none =>
      rw [zoneText, zoneText, offsetText_eq] at h
      cases h
  | some o, some p => rw [offsetText_inj h]

end IsoText

/-! ## Moments -/

theorem Timestamp.text_inj {s t : Timestamp} {separator : Char}
    (h : s.text separator = t.text separator) : s = t := by
  rw [text_eq, text_eq] at h
  obtain ⟨hdate, h⟩ := Date.text_append_inj h
  obtain ⟨hclock, h⟩ := dayTimeText_append_inj (endsClock_zoneText s.offset)
    (endsClock_zoneText t.offset) (List.cons.inj h).2
  have hoffset := zoneText_inj h
  cases s
  cases t
  simp_all

end NoteCheck
