/-
Date, time of day and distance from universal time, as they are written with
two digits for each number, and how they are read by the items of a format.
What is read of the distance is told among the fields; the moment that the
fields name is that of the date and the time of day, whatever the distance.
-/
import MetaGraph.Proofs.Except
import MetaGraph.Proofs.Text.Trim
import MetaGraph.Proofs.Time.Calendar
import MetaGraph.Time.Reader

namespace MetaGraph.Time

/-! ## Two digits -/

/-- A number below a hundred, in two digits. -/
def pair (n : Nat) : List Char := [Nat.digitChar (n / 10), Nat.digitChar (n % 10)]

theorem isDigit_digitChar {d : Nat} (h : d < 10) : (Nat.digitChar d).isDigit = true := by
  revert d
  decide

theorem digitChar_of_isDigit {c : Char} (h : c.isDigit = true) : ∃ d < 10, Nat.digitChar d = c := by
  have bounds := Text.toNat_of_isDigit h
  refine ⟨c.toNat - 48, by omega, Char.toNat_inj.1 ?_⟩
  rw [Nat.toNat_digitChar_of_lt_ten (by omega)]
  omega

/-- Two digits are those of the number that they write. -/
theorem pair_digitsValue {a b : Char} (h : (a.isDigit && b.isDigit) = true) :
    Decimal.digitsValue [a, b] < 100 ∧ pair (Decimal.digitsValue [a, b]) = [a, b] := by
  rw [Bool.and_eq_true] at h
  obtain ⟨d, hd, rfl⟩ := digitChar_of_isDigit h.1
  obtain ⟨e, he, rfl⟩ := digitChar_of_isDigit h.2
  have value : Decimal.digitsValue [d.digitChar, e.digitChar] = d * 10 + e := by
    simp [Decimal.digitsValue, Nat.toNat_digitChar_of_lt_ten, hd, he]
  rw [value, pair, show (d * 10 + e) / 10 = d by omega, show (d * 10 + e) % 10 = e by omega]
  exact ⟨by omega, rfl⟩

variable {n : Nat} {rest : List Char}

theorem isDigit_of_mem_pair (h : n < 100) {c : Char} (hc : c ∈ pair n) : c.isDigit = true := by
  simp only [pair, List.mem_cons, List.not_mem_nil, or_false] at hc
  rcases hc with rfl | rfl <;> exact isDigit_digitChar (by omega)

theorem digitsValue_pair (h : n < 100) : Decimal.digitsValue (pair n) = n := by
  simp only [pair, Decimal.digitsValue, List.foldl_cons, List.foldl_nil]
  rw [Nat.toNat_digitChar_of_lt_ten (by omega), Nat.toNat_digitChar_of_lt_ten (by omega)]
  simp only [show '0'.toNat = 48 from rfl]
  omega

theorem digits_pair (h : n < 100) : (Nat.digitChar (n / 10)).isDigit = true ∧ (Nat.digitChar (n % 10)).isDigit = true ∧
    Decimal.digitsValue [Nat.digitChar (n / 10), Nat.digitChar (n % 10)] = n :=
  ⟨isDigit_digitChar (by omega), isDigit_digitChar (by omega), digitsValue_pair h⟩

theorem twoDigits_pair (h : n < 100) (rest : List Char) : twoDigits (pair n ++ rest) = .ok (n, rest) := by
  obtain ⟨first, second, value⟩ := digits_pair h
  simp [pair, twoDigits, first, second, value]

theorem twoDigits_ok {cs : List Char} (h : twoDigits cs = .ok (n, rest)) : n < 100 ∧ cs = pair n ++ rest := by
  unfold twoDigits at h
  split at h
  · cases h
  · cases h
  · split at h
    · rename_i digits
      cases h
      obtain ⟨small, digits⟩ := pair_digitsValue digits
      exact ⟨small, by rw [digits]; rfl⟩
    · cases h

/-! ## Date and time of day as they are written -/

/-- A day and a time of day that are there, with the numbers that are written for them. -/
structure WrittenTime where
  year : Nat
  month : Nat
  day : Nat
  hour : Nat
  minute : Nat
  second : Nat
  date : Date
  year_lt : year < 10000
  date_eq : Date.ofMonthDay? year month day = some date
  hour_lt : hour < 24
  minute_lt : minute < 60
  second_le : second ≤ 60

namespace WrittenTime

/-- Seconds since the start of 1970, were it universal time. A leap second counts as the one
before it. -/
def seconds (w : WrittenTime) : Int :=
  Fields.seconds w.date (w.hour * 3600 + w.minute * 60 + min w.second 59 : Nat)

/-- The text, `sep` dividing date and time of day. -/
def chars (w : WrittenTime) (sep : Char) : List Char :=
  pair (w.year / 100) ++ pair (w.year % 100) ++ '-' :: pair w.month ++ '-' :: pair w.day ++
    sep :: pair w.hour ++ ':' :: pair w.minute ++ ':' :: pair w.second

/-- What the text tells. -/
def fields (w : WrittenTime) : Fields :=
  [(.second, w.second), (.minute, w.minute), (.hourOfHalf, (w.hour : Int) % 12), (.half, (w.hour : Int) / 12),
    (.day, w.day), (.month, w.month), (.year, w.year)]

end WrittenTime

/-! ## Reading by items -/

theorem takeWhile_pair (h : n < 100) (rest : List Char) :
    (pair n ++ rest).takeWhile Char.isDigit = pair n ++ rest.takeWhile Char.isDigit :=
  List.takeWhile_append_of_pos fun _ hc => isDigit_of_mem_pair h hc

theorem trimFront_pair (h : n < 100) (rest : List Char) : Text.trimFront (pair n ++ rest) = pair n ++ rest :=
  Text.trimFront_of_not_blank (Text.isBlank_of_isDigit (isDigit_of_mem_pair h List.mem_cons_self))

/-- Digits are no sign. -/
theorem signedNumber?_pair (h : n < 100) (width : Option Nat) (signed : Bool) (rest : List Char) :
    signedNumber? width signed (pair n ++ rest) =
      ((number 1 width (pair n ++ rest)).toOption).map fun (n, rest) => ((n : Int), rest) := by
  have digit := isDigit_of_mem_pair h List.mem_cons_self
  simp only [pair, List.cons_append, List.nil_append]
  unfold signedNumber?
  split
  · rename_i hc
    rw [(List.cons.inj hc).1] at digit
    cases digit
  · rename_i hc
    rw [(List.cons.inj hc).1] at digit
    cases digit
  · rfl

theorem number_pair (h : n < 100) (rest : List Char) : number 1 (some 2) (pair n ++ rest) = .ok (n, rest) := by
  have taken : ((pair n ++ rest).takeWhile Char.isDigit).take 2 = pair n := by rw [takeWhile_pair h]; rfl
  simp only [number, taken, digitsValue_pair h]
  rfl

theorem number_pairs {m : Nat} (hm : m < 100) (hn : n < 100) (rest : List Char) :
    number 1 (some 4) (pair m ++ pair n ++ rest) = .ok (m * 100 + n, rest) := by
  have taken : ((pair m ++ pair n ++ rest).takeWhile Char.isDigit).take 4 = pair m ++ pair n := by
    rw [List.append_assoc, takeWhile_pair hm, takeWhile_pair hn]
    rfl
  have value : Decimal.digitsValue (pair m ++ pair n) = m * 100 + n := by
    have front := digitsValue_pair hm
    have back := digitsValue_pair hn
    simp only [pair, Decimal.digitsValue, List.cons_append, List.nil_append, List.foldl_cons,
      List.foldl_nil] at front back ⊢
    omega
  simp only [number, taken, value]
  rfl

theorem readSimple?_pair (h : n < 100) (fs : Fields) (m : Meaning) (rest : List Char) :
    readSimple? fs (pair n ++ rest) (.number m (some 2) false) = (fs.setMeaning n m).map fun fs => (fs, rest) := by
  rw [readSimple?, trimFront_pair h, signedNumber?_pair h, number_pair h]
  rfl

theorem readSimple?_year {m : Nat} (hm : m < 100) (hn : n < 100) (fs : Fields) (rest : List Char) :
    readSimple? fs (pair m ++ pair n ++ rest) yearItem =
      (fs.set .year (m * 100 + n : Nat)).map fun fs => (fs, rest) := by
  rw [yearItem, readSimple?, List.append_assoc, trimFront_pair hm, signedNumber?_pair hm, ← List.append_assoc,
    number_pairs hm hn]
  rfl

theorem readSimple?_mark (fs : Fields) (c : Char) (rest : List Char) :
    readSimple? fs (c :: rest) (mark c) = some (fs, rest) := by
  simp [readSimple?, mark]

theorem readSimple?_mark_of_ne {c d : Char} (h : d ≠ c) (fs : Fields) (rest : List Char) :
    readSimple? fs (d :: rest) (mark c) = none := by
  simp [readSimple?, mark, h]

theorem fields?_step {fs fs' : Fields} {cs cs' : List Char} {item : Item}
    (h : readSimple? fs cs item = some (fs', cs')) (items : List Item) :
    fields? fs cs (item :: items) = fields? fs' cs' items := by
  have other : item ≠ .timestamp := by
    rintro rfl
    cases h
  rw [fields?, h]
  · rfl
  · exact other

theorem fields?_stop {fs : Fields} {cs : List Char} {item : Item} (h : readSimple? fs cs item = none)
    (other : item ≠ .timestamp) (items : List Item) : fields? fs cs (item :: items) = none := by
  rw [fields?, h]
  · rfl
  · exact other

theorem set_new {fs : Fields} {f : Field} {v : Int} (h : f.range.1 ≤ v ∧ v ≤ f.range.2) (new : fs.get? f = none) :
    fs.set f v = some ((f, v) :: fs) := by
  rw [Fields.set, if_pos h, new]

theorem readSimple?_two {fs : Fields} {f : Field} (h : n < 100) (range : f.range.1 ≤ n ∧ n ≤ f.range.2)
    (new : fs.get? f = none) (rest : List Char) :
    readSimple? fs (pair n ++ rest) (two f) = some ((f, (n : Int)) :: fs, rest) := by
  rw [two, readSimple?_pair h, Fields.setMeaning, set_new range new]
  rfl

theorem readSimple?_hour {fs : Fields} (h : n < 24) (newHalf : fs.get? .half = none)
    (newHour : fs.get? .hourOfHalf = none) (rest : List Char) :
    readSimple? fs (pair n ++ rest) hourItem =
      some ((.hourOfHalf, (n : Int) % 12) :: (.half, (n : Int) / 12) :: fs, rest) := by
  have half : fs.set .half ((n : Int) / 12) = some ((.half, (n : Int) / 12) :: fs) :=
    set_new (by simp only [Field.range]; omega) newHalf
  have hour : Fields.set ((.half, (n : Int) / 12) :: fs) .hourOfHalf ((n : Int) % 12) =
      some ((.hourOfHalf, (n : Int) % 12) :: (.half, (n : Int) / 12) :: fs) :=
    set_new (by simp only [Field.range]; omega) newHour
  rw [hourItem, readSimple?_pair (by omega), Fields.setMeaning, Fields.setHour, if_neg (by omega), half]
  exact congrArg (Option.map fun fs => (fs, rest)) hour

namespace WrittenTime

/-- By items for a date, a `T` and a time of day the text is read if `T` is what divides it. -/
theorem fields?_chars (w : WrittenTime) (sep : Char) (tail : List Char) (items : List Item) :
    fields? [] (w.chars sep ++ tail) (isoDate ++ mark 'T' :: longTime ++ items) =
      if sep = 'T' then fields? w.fields tail items else none := by
  obtain ⟨year, month, day, hour, minute, second, date, hy, hd, hh, hmin, hs⟩ := w
  obtain ⟨-, -, -, ⟨m1, m2⟩, d1, d2⟩ := Date.ofMonth_of_ofMonthDay? hd
  have year_eq : year / 100 * 100 + year % 100 = year := by omega
  have readYear (rest : List Char) : readSimple? [] (pair (year / 100) ++ pair (year % 100) ++ rest) yearItem =
      some ([(.year, (year : Int))], rest) := by
    rw [readSimple?_year (by omega) (by omega), year_eq, set_new (by simp only [Field.range]; omega) rfl]
    rfl
  simp only [chars, fields, isoDate, longTime, shortTime, List.cons_append, List.nil_append, List.append_assoc]
  rw [← List.append_assoc, fields?_step (readYear _), fields?_step (readSimple?_mark ..),
    fields?_step (readSimple?_two (by omega) (by simp only [Field.range]; omega) rfl _),
    fields?_step (readSimple?_mark ..),
    fields?_step (readSimple?_two (by omega) (by simp only [Field.range]; omega) rfl _)]
  by_cases hT : sep = 'T'
  · subst hT
    rw [if_pos rfl, fields?_step (readSimple?_mark ..), fields?_step (readSimple?_hour hh rfl rfl _),
      fields?_step (readSimple?_mark ..),
      fields?_step (readSimple?_two (by omega) (by simp only [Field.range]; omega) rfl _),
      fields?_step (readSimple?_mark ..),
      fields?_step (readSimple?_two (by omega) (by simp only [Field.range]; omega) rfl _)]
  · rw [if_neg hT, fields?_stop (readSimple?_mark_of_ne hT ..) nofun]

variable (w : WrittenTime) (distance : Int)

/-- The fields that are told with a distance from universal time. -/
theorem get?_fields (f : Field) : Fields.get? ((.offset, distance) :: w.fields) f =
    match f with
    | .year => some (w.year : Int)
    | .month => some (w.month : Int)
    | .day => some (w.day : Int)
    | .half => some ((w.hour : Int) / 12)
    | .hourOfHalf => some ((w.hour : Int) % 12)
    | .minute => some (w.minute : Int)
    | .second => some (w.second : Int)
    | .offset => some distance
    | _ => none := by
  cases f <;> rfl

theorem date_fields : Fields.date ((.offset, distance) :: w.fields) = .ok w.date := by
  obtain ⟨hy, hm, hd, -, -⟩ := Date.ofMonth_of_ofMonthDay? w.date_eq
  have named : Fields.namedDate? ((.offset, distance) :: w.fields) (some (w.year : Int)) none = some (some w.date) :=
    congrArg some w.date_eq
  have agrees : Fields.agreesOnDate ((.offset, distance) :: w.fields) w.date = true := by
    simp [Fields.agreesOnDate, Fields.agrees, Fields.agreesOnPart, get?_fields, hy, hm, hd]
  have year : Fields.yearOf (some (w.year : Int)) none none = .ok (some (w.year : Int)) := rfl
  have noYear : Fields.yearOf none none none = .ok none := rfl
  simp only [Fields.date, get?_fields, year, noYear, bind, Except.bind, named, agrees]
  rfl

theorem timeOfDay?_fields : Fields.timeOfDay? ((.offset, distance) :: w.fields) =
    some (((w.hour * 3600 + w.minute * 60 + min w.second 59 : Nat) : Int), (w.second : Int) == 60) := by
  have hour : (w.hour : Int) / 12 * 12 + (w.hour : Int) % 12 = w.hour := by omega
  have second : min (w.second : Int) 59 = (min w.second 59 : Nat) := by omega
  simp only [Fields.timeOfDay?, get?_fields, Option.bind_eq_bind, Option.bind_some, Option.isSome_none,
    Bool.false_eq_true, false_and, if_false, Option.getD_some, hour, second, Int.natCast_add, Int.natCast_mul,
    Int.cast_ofNat_Int]

/-- The moment that is told is the date and time of day, whatever the distance. -/
theorem moment?_fields : Fields.moment? ((.offset, distance) :: w.fields) = some w.seconds := by
  rw [Fields.moment?, date_fields, timeOfDay?_fields]
  simp only [Fields.toldMoment?, get?_fields]
  rfl

end WrittenTime

/-! ## The distance -/

/-- The characters that stand for a direction from universal time. -/
def signs : List Char := ['+', '-', '\u2212']

/-- A distance from universal time, as it is written. -/
structure WrittenDistance where
  sign : Char
  hours : Nat
  minutes : Nat
  sign_mem : sign ∈ signs
  hours_lt : hours < 24
  minutes_lt : minutes < 60

namespace WrittenDistance

def seconds (d : WrittenDistance) : Int :=
  if d.sign = '+' then (d.hours * 3600 + d.minutes * 60 : Int) else -(d.hours * 3600 + d.minutes * 60)

def chars (d : WrittenDistance) : List Char := d.sign :: pair d.hours ++ ':' :: pair d.minutes

end WrittenDistance

theorem mem_signs_iff {c : Char} : c ∈ signs ↔ c = '+' ∨ c = '-' ∨ c = '\u2212' := by
  simp [signs]

theorem isBlank_of_mem_signs {c : Char} (h : c ∈ signs) : Text.isBlank c = false := by
  rcases mem_signs_iff.1 h with rfl | rfl | rfl <;> decide

theorem not_zulu_of_mem_signs {c : Char} (h : c ∈ signs) : ¬ (c = 'Z' ∨ c = 'z') := by
  rcases mem_signs_iff.1 h with rfl | rfl | rfl <;> decide

theorem offsetMinutes_pair (h : n < 60) (rest : List Char) : offsetMinutes (pair n ++ rest) = .ok (n, rest) := by
  rw [offsetMinutes, twoDigits_pair (by omega)]
  exact if_pos h

theorem offsetMinutes_ok {cs : List Char} (h : offsetMinutes cs = .ok (n, rest)) : n < 60 ∧ cs = pair n ++ rest := by
  obtain ⟨⟨m, tail⟩, hd, h⟩ := except_bind_ok.1 h
  dsimp only at h
  split at h <;> cases h
  exact ⟨‹_›, (twoDigits_ok hd).2⟩

theorem dropWhile_colon (h : n < 100) (rest : List Char) :
    (':' :: pair n ++ rest).dropWhile (fun c => c == ':' || Text.isBlank c) = pair n ++ rest := by
  have digit := isDigit_of_mem_pair h List.mem_cons_self
  have blank := Text.isBlank_of_isDigit digit
  have colon : (n / 10).digitChar ≠ ':' := by
    intro hc
    rw [hc] at digit
    cases digit
  simp [pair, blank, colon]

namespace WrittenDistance

variable (d : WrittenDistance)

/-- A distance is read whether a colon has to divide it or may. -/
theorem offset_chars (zulu oneColon : Bool) : offset ⟨zulu, false, oneColon⟩ d.chars = .ok (d.seconds, []) := by
  have minutes := offsetMinutes_pair d.minutes_lt []
  have divided := dropWhile_colon (show d.minutes < 100 by have := d.minutes_lt; omega) []
  rw [List.append_nil] at minutes
  rw [List.append_nil, List.append_nil] at divided
  rw [chars, List.cons_append, offset]
  dsimp only
  rw [if_neg (fun h => not_zulu_of_mem_signs d.sign_mem h.2), if_pos (mem_signs_iff.1 d.sign_mem),
    twoDigits_pair (by have := d.hours_lt; omega)]
  cases oneColon <;>
    simp [bind, Except.bind, divided, minutes, pure, Except.pure, seconds]

theorem seconds_le : -maxOffset ≤ d.seconds ∧ d.seconds ≤ maxOffset := by
  have := d.hours_lt
  have := d.minutes_lt
  simp only [seconds, maxOffset]
  split <;> omega

theorem readSimple?_chars {fs : Fields} (new : fs.get? .offset = none) :
    readSimple? fs d.chars (.offset false) = some ((.offset, d.seconds) :: fs, []) := by
  have range : (Field.range .offset).1 ≤ d.seconds ∧ d.seconds ≤ (Field.range .offset).2 := by
    obtain ⟨low, high⟩ := d.seconds_le
    simp only [Field.range, maxOffset] at low high ⊢
    omega
  have trimmed : Text.trimFront d.chars = d.chars := Text.trimFront_of_not_blank (isBlank_of_mem_signs d.sign_mem)
  rw [readSimple?, trimmed, offset_chars]
  change told fs .offset d.seconds [] = _
  rw [told, set_new range new]
  rfl

end WrittenDistance

/-- Without its sign no distance is read, nor a `Z` for none. -/
theorem readSimple?_offset_of_notMem {c : Char} (h : c ∉ signs) (blank : Text.isBlank c = false) (fs : Fields)
    (cs : List Char) : readSimple? fs (c :: cs) (.offset false) = none := by
  have refused : offset ⟨false, false, false⟩ (c :: cs) = .error .invalid := by
    rw [offset]
    dsimp only
    rw [if_neg (by simp), if_neg (by rwa [← mem_signs_iff])]
  rw [readSimple?, Text.trimFront_of_not_blank blank, refused]
  rfl

/-- What is taken for a distance in a whole timestamp. -/
theorem offset_ok {cs : List Char} {seconds : Int} (h : offset ⟨true, false, true⟩ cs = .ok (seconds, []))
    (low : -maxOffset ≤ seconds) (high : seconds ≤ maxOffset) :
    cs = ['Z'] ∨ cs = ['z'] ∨ ∃ d : WrittenDistance, cs = d.chars ∧ seconds = d.seconds := by
  cases cs with
  | nil => cases h
  | cons c cs =>
    rw [offset] at h
    dsimp only at h
    split at h
    · rename_i zulu
      cases h
      rcases zulu.2 with rfl | rfl
      · exact .inl rfl
      · exact .inr (.inl rfl)
    · split at h
      · rename_i sign
        obtain ⟨⟨hours, tail⟩, hh, after⟩ := except_bind_ok.1 h
        obtain ⟨-, rfl⟩ := twoDigits_ok hh
        dsimp only at after
        rw [if_pos rfl] at after
        split at after
        · obtain ⟨_, ⟨⟩, after⟩ := except_bind_ok.1 after
          rw [if_neg (by simp)] at after
          obtain ⟨⟨minutes, rest⟩, hm, last⟩ := except_bind_ok.1 after
          obtain ⟨minutes_lt, rfl⟩ := offsetMinutes_ok hm
          cases last
          have hours_lt : hours < 24 := by
            simp only [maxOffset] at low high
            by_cases plus : c = '+'
            · rw [if_pos plus] at high
              omega
            · rw [if_neg plus] at low
              omega
          rw [List.append_nil]
          exact .inr (.inr ⟨⟨c, hours, minutes, mem_signs_iff.2 sign, hours_lt, minutes_lt⟩, rfl, rfl⟩)
        · cases after
        · cases after
      · cases h

end MetaGraph.Time
