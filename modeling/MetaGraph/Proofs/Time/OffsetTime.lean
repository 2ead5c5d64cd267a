/-
Times that are written with their distance from universal time, read by a
format that ends with it and as a whole timestamp. Both readers take the same
texts then, and the same date and time of day from them; but the format's
moment is the time of day as it is written, and the distance that was read is
not taken off. So the two agree on the times written at no distance only.
-/
import MetaGraph.Component.Transformers
import MetaGraph.Proofs.Text.Utf8
import MetaGraph.Proofs.Time.Written

namespace MetaGraph.Time

variable {n : Nat} {rest : List Char}

/-! ## Whole timestamps -/

theorem pairAt_ok {cs : List Char} {i : Nat} (h : pairAt cs i = .ok n) :
    n < 100 ∧ cs.drop i = pair n ++ cs.drop (i + 2) := by
  unfold pairAt at h
  split at h
  · rename_i hd
    split at h
    · rename_i digits
      cases h
      obtain ⟨small, digits⟩ := pair_digitsValue digits
      rw [← List.drop_drop, hd, digits]
      exact ⟨small, rfl⟩
    · cases h
  · cases h

theorem expectAt_ok {cs wanted : List Char} {i : Nat} (h : expectAt cs i wanted = .ok ()) :
    ∃ c ∈ wanted, cs.drop i = c :: cs.drop (i + 1) := by
  unfold expectAt at h
  split at h
  · rename_i found
    rcases hc : cs[i]? with _ | c <;> rw [hc] at found
    · cases found
    · obtain ⟨hi, rfl⟩ := List.getElem?_eq_some_iff.1 hc
      exact ⟨cs[i], by simpa using found, List.drop_eq_getElem_cons hi⟩
  · cases h

theorem pairAt_of_drop {cs : List Char} {i : Nat} (h : n < 100) (hd : cs.drop i = pair n ++ rest) :
    pairAt cs i = .ok n := by
  obtain ⟨first, second, value⟩ := digits_pair h
  simp [pairAt, hd, pair, first, second, value]

theorem expectAt_of_drop {cs wanted : List Char} {i : Nat} {c : Char} (h : c ∈ wanted) (hd : cs.drop i = c :: rest) :
    expectAt cs i wanted = .ok () := by
  have found : cs[i]? = some c := by rw [← List.head?_drop, hd, List.head?_cons]
  simp [expectAt, found, h]

/-- What is read of a date stands in front of the rest. -/
theorem date_front {cs : List Char} {century year month day : Nat} (h₀ : pairAt cs 0 = .ok century)
    (h₂ : pairAt cs 2 = .ok year) (h₄ : expectAt cs 4 ['-'] = .ok ()) (h₅ : pairAt cs 5 = .ok month)
    (h₇ : expectAt cs 7 ['-'] = .ok ()) (h₈ : pairAt cs 8 = .ok day) : century < 100 ∧ year < 100 ∧
      cs = pair century ++ (pair year ++ '-' :: (pair month ++ '-' :: (pair day ++ cs.drop 10))) := by
  obtain ⟨century_lt, d₀⟩ := pairAt_ok h₀
  obtain ⟨year_lt, d₂⟩ := pairAt_ok h₂
  obtain ⟨_, m₄, d₄⟩ := expectAt_ok h₄
  obtain ⟨-, d₅⟩ := pairAt_ok h₅
  obtain ⟨_, m₇, d₇⟩ := expectAt_ok h₇
  obtain ⟨-, d₈⟩ := pairAt_ok h₈
  obtain rfl := List.mem_singleton.1 m₄
  obtain rfl := List.mem_singleton.1 m₇
  exact ⟨century_lt, year_lt, by rw [← d₈, ← d₇, ← d₅, ← d₄, ← d₂, ← d₀, List.drop_zero]⟩

/-- So does what is read of a time of day, behind a mark that sets it off. -/
theorem time_front {cs wanted : List Char} {hour minute second : Nat} (h₁₀ : expectAt cs 10 wanted = .ok ())
    (h₁₁ : pairAt cs 11 = .ok hour) (h₁₃ : expectAt cs 13 [':'] = .ok ()) (h₁₄ : pairAt cs 14 = .ok minute)
    (h₁₆ : expectAt cs 16 [':'] = .ok ()) (h₁₇ : pairAt cs 17 = .ok second) : ∃ sep ∈ wanted,
      cs.drop 10 = sep :: (pair hour ++ ':' :: (pair minute ++ ':' :: (pair second ++ cs.drop 19))) := by
  obtain ⟨sep, hsep, d₁₀⟩ := expectAt_ok h₁₀
  obtain ⟨-, d₁₁⟩ := pairAt_ok h₁₁
  obtain ⟨_, m₁₃, d₁₃⟩ := expectAt_ok h₁₃
  obtain ⟨-, d₁₄⟩ := pairAt_ok h₁₄
  obtain ⟨_, m₁₆, d₁₆⟩ := expectAt_ok h₁₆
  obtain ⟨-, d₁₇⟩ := pairAt_ok h₁₇
  obtain rfl := List.mem_singleton.1 m₁₃
  obtain rfl := List.mem_singleton.1 m₁₆
  exact ⟨sep, hsep, by rw [← d₁₇, ← d₁₆, ← d₁₄, ← d₁₃, ← d₁₁, ← d₁₀]⟩

theorem toNat_lt_of_mem_pair (h : n < 100) {c : Char} (hc : c ∈ pair n) : c.toNat < 128 := by
  have digit := Text.toNat_of_isDigit (isDigit_of_mem_pair h hc)
  omega

namespace WrittenTime

variable (w : WrittenTime)

theorem length_chars (sep : Char) : (w.chars sep).length = fixedLength := rfl

theorem toNat_lt_of_mem_chars {sep c : Char} (hs : sep.toNat < 128) (hc : c ∈ w.chars sep) : c.toNat < 128 := by
  obtain ⟨-, -, -, ⟨-, m⟩, -, d⟩ := Date.ofMonth_of_ofMonthDay? w.date_eq
  have := w.year_lt
  have := w.hour_lt
  have := w.minute_lt
  have := w.second_le
  simp only [chars, List.mem_append, List.mem_cons] at hc
  rcases hc with (((((hc | hc) | rfl | hc) | rfl | hc) | rfl | hc) | rfl | hc) | rfl | hc
  all_goals first | exact hs | decide | exact toNat_lt_of_mem_pair (by omega) hc

/-- The first bytes of a text, taken for characters, are a written time if and only if the text
starts with it. -/
theorem asChar_take_iff {sep : Char} (hs : sep.toNat < 128) (cs : List Char) :
    ((cs.flatMap String.utf8EncodeChar).take fixedLength).map Utf8.asChar = w.chars sep ↔
      cs = w.chars sep ++ cs.drop fixedLength := by
  rw [← w.length_chars sep]
  exact Utf8.asChar_take_encode (fun _ => w.toNat_lt_of_mem_chars hs) cs

end WrittenTime

/-- What is left to read behind the seconds of a whole timestamp. -/
def closing (date : Date) (hour minute second : Nat) (tail : List Char) : Except TimeFault Int := do
  if 23 < hour ∨ 59 < minute ∨ 60 < second then throw .outOfRange
  let (distance, tail) ← offset ⟨true, false, true⟩ tail
  if tail ≠ [] then throw .tooLong
  if distance < -maxOffset ∨ maxOffset < distance then throw .outOfRange
  pure (Fields.seconds date (hour * 3600 + minute * 60 + min second 59 : Nat) - distance)

theorem closing_ok {date : Date} {hour minute second : Nat} {tail : List Char} {instant : Int}
    (h : closing date hour minute second tail = .ok instant) :
    (hour < 24 ∧ minute < 60 ∧ second ≤ 60) ∧
      (tail = ['Z'] ∨ tail = ['z'] ∨ ∃ d : WrittenDistance, tail = d.chars) := by
  rw [closing] at h
  dsimp only at h
  split at h
  · cases h
  obtain ⟨⟨distance, rest⟩, ho, h⟩ := except_bind_ok.1 h
  split at h
  · cases h
  rename_i whole
  split at h
  · cases h
  obtain rfl : rest = [] := of_not_not whole
  refine ⟨by omega, ?_⟩
  rcases offset_ok ho (by omega) (by omega) with zulu | zulu | ⟨d, hd, -⟩
  · exact .inl zulu
  · exact .inr (.inl zulu)
  · exact .inr (.inr ⟨d, hd⟩)

theorem closing_chars (w : WrittenTime) (d : WrittenDistance) :
    closing w.date w.hour w.minute w.second d.chars = .ok (w.seconds - d.seconds) := by
  have := w.hour_lt
  have := w.minute_lt
  have := w.second_le
  have := d.seconds_le
  rw [closing, if_neg (by omega), d.offset_chars]
  simp only [bind, Except.bind, ne_eq, not_true_eq_false, if_false]
  rw [if_neg (by omega)]
  rfl

/-- Date and time of day with their distance from universal time. -/
structure OffsetTime where
  time : WrittenTime
  distance : WrittenDistance

namespace OffsetTime

def text (t : OffsetTime) : String := String.ofList (t.time.chars 'T' ++ t.distance.chars)

/-- The moment that is told. -/
def moment (t : OffsetTime) : Int := t.time.seconds - t.distance.seconds

theorem standard_text (t : OffsetTime) : standard t.text = .ok t.moment := by
  obtain ⟨w, d⟩ := t
  obtain ⟨-, -, -, ⟨-, m⟩, -, dd⟩ := Date.ofMonth_of_ofMonthDay? w.date_eq
  have := w.year_lt
  have := w.hour_lt
  have := w.minute_lt
  have := w.second_le
  have front : ((Utf8.encode (text ⟨w, d⟩)).take fixedLength).map (fun b => Char.ofNat b.toNat) = w.chars 'T' := by
    rw [Utf8.encode, text, String.toList_ofList]
    exact (w.asChar_take_iff (by decide) _).2 rfl
  have long : ¬ (Utf8.encode (text ⟨w, d⟩)).length < fixedLength := by
    have lengths := congrArg List.length front
    rw [List.length_map, List.length_take, w.length_chars] at lengths
    omega
  have tail : (text ⟨w, d⟩).toList.drop fixedLength = d.chars := by rw [text, String.toList_ofList]; rfl
  have year : ((w.year / 100 * 100 + w.year % 100 : Nat) : Int) = w.year := by omega
  rw [standard]
  simp only [front, tail, if_neg long, bind, Except.bind, pure, Except.pure]
  rw [pairAt_of_drop (n := w.year / 100) (by omega) rfl, pairAt_of_drop (n := w.year % 100) (by omega) rfl,
    expectAt_of_drop (i := 4) List.mem_cons_self rfl, pairAt_of_drop (n := w.month) (i := 5) (by omega) rfl,
    expectAt_of_drop (i := 7) List.mem_cons_self rfl, pairAt_of_drop (n := w.day) (i := 8) (by omega) rfl,
    expectAt_of_drop (i := 10) (c := 'T') (by decide) rfl, pairAt_of_drop (n := w.hour) (i := 11) (by omega) rfl,
    expectAt_of_drop (i := 13) List.mem_cons_self rfl, pairAt_of_drop (n := w.minute) (i := 14) (by omega) rfl,
    expectAt_of_drop (i := 16) List.mem_cons_self rfl, pairAt_of_drop (n := w.second) (i := 17) (by omega) rfl]
  simp only [year, w.date_eq]
  split
  · rename_i _ point
    exact absurd (List.cons.inj point).1 (ne_of_mem_of_not_mem d.sign_mem (by decide))
  · exact closing_chars w d

/-- How a text is written that is a whole timestamp. -/
theorem of_standard {text : String} {instant : Int} (h : standard text = .ok instant) :
    ∃ (w : WrittenTime) (sep : Char) (tail : List Char), text.toList = w.chars sep ++ tail ∧ sep ∈ ['t', 'T', ' '] ∧
      ((∃ cs, tail = '.' :: cs) ∨ tail = ['Z'] ∨ tail = ['z'] ∨ ∃ d : WrittenDistance, tail = d.chars) := by
  rw [standard] at h
  dsimp only at h
  split at h
  · cases h
  rename_i long
  obtain ⟨century, h0, h⟩ := except_bind_ok.1 h
  obtain ⟨rest, h2, h⟩ := except_bind_ok.1 h
  obtain ⟨_, h4, h⟩ := except_bind_ok.1 h
  obtain ⟨month, h5, h⟩ := except_bind_ok.1 h
  obtain ⟨_, h7, h⟩ := except_bind_ok.1 h
  obtain ⟨day, h8, h⟩ := except_bind_ok.1 h
  split at h
  case h_2 => cases h
  rename_i date hdate
  obtain ⟨_, ⟨⟩, h⟩ := except_bind_ok.1 h
  obtain ⟨_, h10, h⟩ := except_bind_ok.1 h
  obtain ⟨hour, h11, h⟩ := except_bind_ok.1 h
  obtain ⟨_, h13, h⟩ := except_bind_ok.1 h
  obtain ⟨minute, h14, h⟩ := except_bind_ok.1 h
  obtain ⟨_, h16, h⟩ := except_bind_ok.1 h
  obtain ⟨second, h17, h⟩ := except_bind_ok.1 h
  have closes : (hour < 24 ∧ minute < 60 ∧ second ≤ 60) ∧ ((∃ cs, text.toList.drop fixedLength = '.' :: cs) ∨
      text.toList.drop fixedLength = ['Z'] ∨ text.toList.drop fixedLength = ['z'] ∨
      ∃ d : WrittenDistance, text.toList.drop fixedLength = d.chars) := by
    split at h
    · rename_i cs point
      obtain ⟨_, -, h⟩ := except_bind_ok.1 h
      exact ⟨(closing_ok h).1, .inl ⟨cs, point⟩⟩
    · exact ⟨(closing_ok h).1, .inr (closing_ok h).2⟩
  clear h
  generalize hfront : ((Utf8.encode text).take fixedLength).map (fun b => Char.ofNat b.toNat) = front at *
  obtain ⟨century_lt, rest_lt, ofDate⟩ := date_front h0 h2 h4 h5 h7 h8
  obtain ⟨sep, hsep, ofTime⟩ := time_front h10 h11 h13 h14 h16 h17
  obtain ⟨⟨hh, hm, hs⟩, closes⟩ := closes
  let w : WrittenTime := ⟨century * 100 + rest, month, day, hour, minute, second, date, by omega, hdate, hh, hm, hs⟩
  have written : front = w.chars sep := by
    have ends : front.drop 19 = [] := by
      rw [← hfront]
      exact List.drop_eq_nil_of_le (by rw [List.length_map]; exact List.length_take_le _ _)
    have years : (century * 100 + rest) / 100 = century ∧ (century * 100 + rest) % 100 = rest := by omega
    rw [ofDate, ofTime, ends]
    simp only [WrittenTime.chars, w, years.1, years.2, List.append_assoc, List.cons_append, List.append_nil]
  have ascii : ['t', 'T', ' '].all (·.toNat < 128) = true := by decide
  have sep_lt : sep.toNat < 128 := of_decide_eq_true (List.all_eq_true.1 ascii sep hsep)
  exact ⟨w, sep, _, (w.asChar_take_iff sep_lt _).1 (hfront.trans written), hsep, closes⟩

end OffsetTime

/-! ## By a format with the distance -/

/-- The formats of a date and a time of day with their distance from universal time. -/
def offsetFormats : List String := ["%Y-%m-%dT%H:%M:%S%z", "%Y-%m-%dT%H:%M:%S%:z"]

theorem items?_offsetFormats : ∀ format ∈ offsetFormats,
    items? format = some (isoDate ++ mark 'T' :: longTime ++ [.offset false]) := by
  decide

theorem items?_default : items? defaultTimestampFormat = some (isoDate ++ mark 'T' :: longTime ++ [mark 'Z']) := by
  decide

namespace OffsetTime

theorem byFormat?_text {format : String} (hf : format ∈ offsetFormats) (t : OffsetTime) :
    byFormat? format t.text = some t.time.seconds := by
  have read : fields? [] t.text.toList (isoDate ++ mark 'T' :: longTime ++ [.offset false]) =
      some ((.offset, t.distance.seconds) :: t.time.fields, []) := by
    rw [text, String.toList_ofList, WrittenTime.fields?_chars, if_pos rfl,
      fields?_step (t.distance.readSimple?_chars rfl)]
    rfl
  rw [byFormat?, items?_offsetFormats format hf]
  simp only [Option.bind_eq_bind, Option.bind_some, read, WrittenTime.moment?_fields]

/-- The format of universal time wants a `Z`. -/
theorem byFormat?_default (t : OffsetTime) : byFormat? defaultTimestampFormat t.text = none := by
  have other : t.distance.sign ≠ 'Z' := ne_of_mem_of_not_mem t.distance.sign_mem (by decide)
  have read : fields? [] t.text.toList (isoDate ++ mark 'T' :: longTime ++ [mark 'Z']) = none := by
    rw [text, String.toList_ofList, WrittenTime.fields?_chars, if_pos rfl]
    exact fields?_stop (readSimple?_mark_of_ne other ..) nofun []
  rw [byFormat?, items?_default]
  simp only [Option.bind_eq_bind, Option.bind_some, read, Option.bind_none]

/-- What both readers take is written so. -/
theorem of_both {format text : String} {t instant : Int} (hf : format ∈ offsetFormats)
    (hl : byFormat? format text = some t) (hs : standard text = .ok instant) : ∃ t : OffsetTime, t.text = text := by
  obtain ⟨w, sep, tail, whole, -, closes⟩ := of_standard hs
  have read : fields? [] text.toList (isoDate ++ mark 'T' :: longTime ++ [.offset false]) ≠ none := by
    intro none
    rw [byFormat?, items?_offsetFormats format hf] at hl
    simp only [Option.bind_eq_bind, Option.bind_some, none, Option.bind_none] at hl
    cases hl
  rw [whole, WrittenTime.fields?_chars] at read
  split at read
  case isFalse => exact absurd rfl read
  rename_i hsep
  have unread {c : Char} {cs : List Char} (hc : c ∉ signs) (blank : Text.isBlank c = false) :
      fields? w.fields (c :: cs) [.offset false] = none :=
    fields?_stop (readSimple?_offset_of_notMem hc blank ..) nofun []
  rcases closes with ⟨cs, rfl⟩ | rfl | rfl | ⟨d, rfl⟩
  · exact absurd (unread (by decide) (by decide)) read
  · exact absurd (unread (by decide) (by decide)) read
  · exact absurd (unread (by decide) (by decide)) read
  · exact ⟨⟨w, d⟩, by rw [OffsetTime.text, ← hsep, ← whole, String.ofList_toList]⟩

end OffsetTime

end MetaGraph.Time

namespace MetaGraph.TimestampConfig

open Time

/-- A text that is taken by a format with a distance from universal time and as a whole timestamp
is a date and a time of day with their distance. Its seconds are those of the moment it tells
by the format of universal time; by the format with the distance they are those of the date
and the time of day as they are written, and the same only if there is no distance. -/
theorem offset_passed_over {format : String} (hf : format ∈ offsetFormats) (fieldName text : String) :
    ((∃ t, byFormat? format text = some t) ∧ (∃ instant, standard text = .ok instant) ↔
      ∃ t : OffsetTime, t.text = text) ∧
    ∀ t : OffsetTime, t.text = text →
      standard text = .ok t.moment ∧
      toEpoch { fieldName } text = .ok t.moment ∧
      toEpoch ⟨fieldName, format⟩ text = .ok t.time.seconds ∧
      (toEpoch ⟨fieldName, format⟩ text = toEpoch { fieldName } text ↔ t.distance.seconds = 0) := by
  refine ⟨⟨fun ⟨⟨_, hl⟩, _, hs⟩ => OffsetTime.of_both hf hl hs, ?_⟩, ?_⟩
  · rintro ⟨t, rfl⟩
    exact ⟨⟨_, t.byFormat?_text hf⟩, _, t.standard_text⟩
  · rintro t rfl
    have byFormat : toEpoch ⟨fieldName, format⟩ t.text = .ok t.time.seconds := by
      simp only [toEpoch, t.byFormat?_text hf]
    have fallback : toEpoch { fieldName } t.text = .ok t.moment := by
      simp only [toEpoch, t.byFormat?_default, t.standard_text]
    refine ⟨t.standard_text, fallback, byFormat, ?_⟩
    rw [byFormat, fallback, Except.ok.injEq, OffsetTime.moment]
    omega

/-- An evening in March, two hours east of universal time. -/
def springEvening : OffsetTime where
  time := {
    year := 2020, month := 3, day := 25, hour := 21, minute := 47, second := 11, date := ⟨2020, 85⟩
    year_lt := by decide, date_eq := by decide, hour_lt := by decide, minute_lt := by decide
    second_le := by decide }
  distance := {
    sign := '+', hours := 2, minutes := 0
    sign_mem := by decide, hours_lt := by decide, minutes_lt := by decide }

theorem offset_passed_over_springEvening :
    springEvening.text = "2020-03-25T21:47:11+02:00" ∧ springEvening.distance.seconds = 7200 ∧
    toEpoch ⟨"time", "%Y-%m-%dT%H:%M:%S%z"⟩ springEvening.text = .ok springEvening.time.seconds ∧
    toEpoch { fieldName := "time" } springEvening.text = .ok springEvening.moment := by
  obtain ⟨-, fallback, byFormat, -⟩ := (offset_passed_over (show "%Y-%m-%dT%H:%M:%S%z" ∈ offsetFormats by decide)
    "time" springEvening.text).2 springEvening rfl
  exact ⟨by decide, by decide, byFormat, fallback⟩

/-- It is not the moment that is told. -/
theorem offset_lost :
    standard "2020-03-25T21:47:11+02:00" = .ok 1585165631 ∧
    toEpoch { fieldName := "time" } "2020-03-25T21:47:11+02:00" = .ok 1585165631 ∧
    toEpoch ⟨"time", "%Y-%m-%dT%H:%M:%S%z"⟩ "2020-03-25T21:47:11+02:00" = .ok 1585172831 := by
  refine ⟨?_, ?_, ?_⟩ <;> exact except_eq_ok_of_toOption (by decide +kernel)

end MetaGraph.TimestampConfig
