import Runbook.Shell.Arithmetic

set_option autoImplicit false

/-! # The calendar

Moments are counted in millionths of a second from the beginning of the year 1970, and shown in the
zone that the system is in, which is that of Greenwich. A *date* is a moment as people write it. The
text that asks for a moment is a sequence of items in any order: a day, a time of day, a zone, the
name of a day of the week, and distances from what the others say. What no item says is taken from
the present moment.
-/

namespace Runbook.Shell

/-- How many units of time a second has. -/
def perSecond : Int := 1000000

/-- How many seconds a day has. -/
def secondsPerDay : Int := 86400

/-- A day and a time of day. -/
structure Date where
  year : Int
  month : Nat
  day : Nat
  hour : Nat := 0
  minute : Nat := 0
  second : Nat := 0
  /-- Millionths of a second. -/
  micro : Nat := 0
  deriving DecidableEq, Repr

namespace Date

/-! ## Counting days -/

/-- The number of a day, counted from the beginning of the year 1970. Years begin with March here,
so that the day that some of them have more is their last one. A month has so many days as it needs
to hold the day. -/
def dayNumber (year : Int) (month : Nat) (day : Int) : Int :=
  let y := if month ≤ 2 then year - 1 else year
  let era := y.fdiv 400
  let inEra := y - era * 400
  let inYear := (153 * (((month + 9) % 12 : Nat) : Int) + 2) / 5 + day - 1
  era * 146097 + inEra * 365 + inEra / 4 - inEra / 100 + inYear - 719468

/-- The year, the month and the day of a day's number. -/
def ofDayNumber (n : Int) : Int × Nat × Nat :=
  let n := n + 719468
  let era := n.fdiv 146097
  let inEra := n - era * 146097
  let y := (inEra - inEra / 1460 + inEra / 36524 - inEra / 146096) / 365
  let inYear := inEra - (365 * y + y / 4 - y / 100)
  let m := (5 * inYear + 2) / 153
  let day := (inYear - (153 * m + 2) / 5 + 1).toNat
  let month := (if m < 10 then m + 3 else m - 9).toNat
  (y + era * 400 + (if month ≤ 2 then 1 else 0), month, day)

/-- The day of the week of a day's number, Sunday being the first one. -/
def weekday (n : Int) : Nat := ((n + 4).fmod 7).toNat

/-- The moment of a date. -/
def moment (d : Date) : Int :=
  ((dayNumber d.year d.month d.day * secondsPerDay +
    (d.hour * 3600 + d.minute * 60 + d.second : Nat)) * perSecond) + d.micro

/-- The date of a moment. -/
def ofMoment (t : Int) : Date :=
  let seconds := t.fdiv perSecond
  let n := seconds.fdiv secondsPerDay
  let rest := (seconds - n * secondsPerDay).toNat
  let (year, month, day) := ofDayNumber n
  { year, month, day
    hour := rest / 3600
    minute := rest / 60 % 60
    second := rest % 60
    micro := (t - seconds * perSecond).toNat }

/-- The number of the day. -/
def number (d : Date) : Int := dayNumber d.year d.month d.day

/-- How many days of the year lie before the day. -/
def inYear (d : Date) : Nat := (d.number - dayNumber d.year 1 1).toNat

/-! ## Names -/

/-- The names of the months. -/
def monthNames : List String := ["January", "February", "March", "April", "May", "June", "July",
  "August", "September", "October", "November", "December"]

/-- The names of the days of the week. -/
def dayNames : List String := ["Sunday", "Monday", "Tuesday", "Wednesday", "Thursday", "Friday",
  "Saturday"]

/-- The name of a number in a list, which begins with `first`. -/
def nameIn (names : List String) (first n : Nat) : Text := ((names[n - first]?).getD "").toList

/-! ## Writing -/

/-- The week of the year in which weeks begin on Monday and the first one has at least four days,
with its year. -/
def week (d : Date) : Int × Nat :=
  let n := d.number
  -- The week belongs to the year in which its Thursday lies.
  let thursday := n - ((weekday n + 6) % 7 : Nat) + 3
  let (year, _, _) := ofDayNumber thursday
  (year, (thursday - dayNumber year 1 1).toNat / 7 + 1)

/-- What a letter behind a percent sign stands for: a text, or a number with its width and the
character that fills it. -/
inductive Field where
  | text (t : Text)
  | number (n : Int) (width : Nat) (filler : Char)

/-- The field of a letter. -/
def field? (d : Date) (c : Char) : Option Field :=
  let two := fun (n : Nat) => some (Field.number n 2 '0')
  let spaced := fun (n : Nat) => some (Field.number n 2 ' ')
  let hour := if d.hour % 12 == 0 then 12 else d.hour % 12
  let half := if d.hour < 12 then "AM" else "PM"
  let w := weekday d.number
  match c with
  | 'Y' => some (.number d.year 1 '0')
  | 'C' => some (.number (d.year / 100) 2 '0')
  | 'y' => some (.number (d.year % 100) 2 '0')
  | 'm' => two d.month
  | 'd' => two d.day
  | 'e' => spaced d.day
  | 'j' => some (.number (d.inYear + 1 : Nat) 3 '0')
  | 'H' => two d.hour
  | 'k' => spaced d.hour
  | 'I' => two hour
  | 'l' => spaced hour
  | 'M' => two d.minute
  | 'S' => two d.second
  | 'N' => some (.number (d.micro * 1000 : Nat) 9 '0')
  | 's' => some (.number (d.moment.fdiv perSecond) 1 '0')
  | 'p' => some (.text half.toList)
  | 'P' => some (.text (half.toList.map Char.toLower))
  | 'a' => some (.text ((nameIn dayNames 0 w).take 3))
  | 'A' => some (.text (nameIn dayNames 0 w))
  | 'b' => some (.text ((nameIn monthNames 1 d.month).take 3))
  | 'h' => some (.text ((nameIn monthNames 1 d.month).take 3))
  | 'B' => some (.text (nameIn monthNames 1 d.month))
  | 'u' => some (.number (if w == 0 then 7 else w : Nat) 1 '0')
  | 'w' => some (.number w 1 '0')
  | 'U' => two ((d.inYear + 7 - w) / 7)
  | 'W' => two ((d.inYear + 7 - (w + 6) % 7) / 7)
  | 'V' => two d.week.2
  | 'G' => some (.number d.week.1 1 '0')
  | 'g' => some (.number (d.week.1 % 100) 2 '0')
  | 'q' => some (.number ((d.month + 2) / 3 : Nat) 1 '0')
  | 'z' => some (.text "+0000".toList)
  | 'Z' => some (.text "UTC".toList)
  | 'n' => some (.text ['\n'])
  | 't' => some (.text ['\t'])
  | '%' => some (.text ['%'])
  | _ => none

/-- The format that a letter is short for. -/
def longForm? (c : Char) : Option String :=
  match c with
  | 'D' => some "%m/%d/%y"
  | 'x' => some "%m/%d/%y"
  | 'F' => some "%Y-%m-%d"
  | 'T' => some "%H:%M:%S"
  | 'X' => some "%H:%M:%S"
  | 'R' => some "%H:%M"
  | 'r' => some "%I:%M:%S %p"
  | 'c' => some "%a %b %e %H:%M:%S %Y"
  | _ => none

/-- The text of a field with what stands between the percent sign and its letter: signs, and a
width. -/
def Field.shown (f : Field) (signs : Text) (width : Nat) : Text :=
  let pad := fun (n : Nat) (c : Char) (t : Text) => List.replicate (n - t.length) c ++ t
  let shaped := fun (t : Text) =>
    if signs.contains '^' then t.map Char.toUpper
    else if signs.contains '#' then
      if t.any Char.isLower && !t.any Char.isUpper || t.all Char.isUpper then
        t.map fun c => if c.isUpper then c.toLower else c.toUpper
      else t.map Char.toUpper
    else t
  match f with
  | .text t => pad width (if signs.contains '0' then '0' else ' ') (shaped t)
  | .number n least filler =>
      let filler := if signs.contains '_' then ' ' else if signs.contains '0' then '0' else filler
      let digits := Text.ofNat n.natAbs
      let least := if signs.contains '-' then 1 else max least width
      if n < 0 then
        if filler == '0' then '-' :: pad (least - 1) '0' digits else pad least ' ' ('-' :: digits)
      else pad least filler digits

/-- The date as a format says. -/
def formatted (d : Date) : Nat → Text → Text
  | 0, _ => []
  | _, [] => []
  | fuel + 1, '%' :: rest =>
      let signs := rest.takeWhile "-_0^#+".toList.contains
      let digits := (rest.drop signs.length).takeWhile Char.isDigit
      let width := inBase 10 digits
      let after := rest.drop (signs.length + digits.length)
      let colons := after.takeWhile (· == ':')
      match after.drop colons.length with
      | [] => '%' :: rest
      | c :: more =>
          let whole := '%' :: rest.take (signs.length + digits.length + colons.length + 1)
          if !colons.isEmpty then
            let zone := match c, colons.length with
              | 'z', 1 => "+00:00".toList
              | 'z', 2 => "+00:00:00".toList
              | 'z', 3 => "+00".toList
              | _, _ => whole
            zone ++ d.formatted fuel more
          else if c == 'N' && !digits.isEmpty then
            -- A width cuts the fraction of a second.
            let t := (Field.number (d.micro * 1000 : Nat) 9 '0').shown [] 0
            t.take width ++ List.replicate (width - 9) '0' ++ d.formatted fuel more
          else
            match longForm? c, d.field? c with
            | some long, _ =>
                (Field.text (d.formatted fuel long.toList)).shown signs width ++
                  d.formatted fuel more
            | none, some f => f.shown signs width ++ d.formatted fuel more
            | none, none => whole ++ d.formatted fuel more
  | fuel + 1, c :: rest => c :: d.formatted fuel rest

end Date

/-! ## Reading -/

namespace Date

/-- A token of a text that asks for a moment. -/
inductive Token where
  /-- A number, how many digits it has, its sign if it has one, and the millionths behind a point
  if there is one. -/
  | number (n : Nat) (digits : Nat) (sign : Option Char) (fraction : Option Nat)
  | word (t : Text)
  | sign (c : Char)
  deriving DecidableEq, Repr

/-- The millionths that the digits behind a point stand for. -/
def millionths (digits : Text) : Nat :=
  inBase 10 ((digits ++ List.replicate 6 '0').take 6)

/-- The tokens of a text. What stands between round brackets does not count. -/
def tokens : Nat → Text → List Token
  | 0, _ => []
  | _, [] => []
  | fuel + 1, c :: rest =>
      let number := fun (sign : Option Char) (t : Text) =>
        let digits := t.takeWhile Char.isDigit
        let after := t.drop digits.length
        let n := inBase 10 digits
        match after with
        | p :: d :: _ =>
            let places := (after.drop 1).takeWhile Char.isDigit
            if (p == '.' || p == ',') && d.isDigit then
              .number n digits.length sign (some (millionths places)) ::
                tokens fuel (after.drop (1 + places.length))
            else .number n digits.length sign none :: tokens fuel after
        | _ => .number n digits.length sign none :: tokens fuel after
      if c == ' ' || c == '\t' || c == '\n' then tokens fuel rest
      else if c == '(' then tokens fuel ((rest.dropWhile (· != ')')).drop 1)
      else if c.isDigit then number none (c :: rest)
      else if c == '+' || c == '-' then
        -- A sign may stand apart from its number; one that has none does not count.
        let after := rest.dropWhile fun d => d == ' ' || d == '\t' || d == '\n'
        if after.head?.any Char.isDigit then number (some c) after else tokens fuel after
      else if c.isAlpha then
        let name := (c :: rest).takeWhile fun d => d.isAlpha || d == '.'
        .word ((name.filter (· != '.')).map Char.toLower) ::
          tokens fuel ((c :: rest).drop name.length)
      else .sign c :: tokens fuel rest

/-- What the items of a text ask for. -/
structure Request where
  date : Option (Int × Nat × Nat) := none
  /-- Whether the date has a year of its own. -/
  hasYear : Bool := false
  /-- The hour, the minute, the second and its millionths. -/
  time : Option (Nat × Nat × Nat × Nat) := none
  /-- The distance of the zone in minutes. -/
  zone : Option Int := none
  /-- Which day of the week, and which of those behind the day. -/
  weekday : Option (Int × Nat) := none
  years : Int := 0
  months : Int := 0
  days : Int := 0
  micros : Int := 0
  /-- Whether a distance was given. -/
  isDistant : Bool := false
  moment : Option Int := none

/-- The place of a name in a list that a word stands for. Names can be cut to three letters. -/
def placeIn? (names : List String) (others : List (String × Nat)) (w : Text) : Option Nat :=
  let lower := names.map fun n => n.toList.map Char.toLower
  match lower.findIdx? fun n => n == w || (w.length == 3 && w.isPrefixOf n) with
  | some i => some i
  | none => (others.find? (·.1.toList == w)).map (·.2)

/-- The month that a word names. -/
def month? (w : Text) : Option Nat := (placeIn? monthNames [("sept", 8)] w).map (· + 1)

/-- The day of the week that a word names. -/
def weekday? (w : Text) : Option Nat :=
  placeIn? dayNames [("tues", 2), ("wednes", 3), ("thur", 4), ("thurs", 4)] w

/-- The distance of a zone in minutes. -/
def zone? (w : Text) : Option Int :=
  ([("z", 0), ("utc", 0), ("ut", 0), ("gmt", 0), ("wet", 0), ("west", 60), ("cet", 60),
    ("met", 60), ("bst", 60), ("cest", 120), ("mest", 120), ("eet", 120), ("eest", 180),
    ("msk", 180), ("est", -300), ("edt", -240), ("cst", -360), ("cdt", -300), ("mst", -420),
    ("mdt", -360), ("pst", -480), ("pdt", -420), ("jst", 540)].find? (·.1.toList == w)).map (·.2)

/-- The number that a word counts with. -/
def ordinal? (w : Text) : Option Int :=
  ([("last", -1), ("this", 0), ("next", 1), ("first", 1), ("third", 3), ("fourth", 4),
    ("fifth", 5), ("sixth", 6), ("seventh", 7), ("eighth", 8), ("ninth", 9), ("tenth", 10),
    ("eleventh", 11), ("twelfth", 12)].find? (·.1.toList == w)).map (·.2)

/-- The request with a distance of `n` units added, if a word names a unit. -/
def Request.far? (r : Request) (n : Int) (unit : Text) : Option Request :=
  let singular := if unit.getLast? == some 's' && 3 < unit.length then unit.dropLast else unit
  let r := { r with isDistant := true }
  match String.ofList singular with
  | "year" => some { r with years := r.years + n }
  | "month" => some { r with months := r.months + n }
  | "fortnight" => some { r with days := r.days + 14 * n }
  | "week" => some { r with days := r.days + 7 * n }
  | "day" => some { r with days := r.days + n }
  | "hour" => some { r with micros := r.micros + 3600 * n * perSecond }
  | "minute" => some { r with micros := r.micros + 60 * n * perSecond }
  | "min" => some { r with micros := r.micros + 60 * n * perSecond }
  | "second" => some { r with micros := r.micros + n * perSecond }
  | "sec" => some { r with micros := r.micros + n * perSecond }
  | _ => none

/-- A year as it is meant if it is written with few digits. -/
def fullYear (n digits : Nat) : Int :=
  if digits ≤ 2 then if n < 69 then (2000 + n : Nat) else (1900 + n : Nat) else n

/-- The request with a time of day; there must not be another one. -/
def Request.at? (r : Request) (hour minute second micro : Nat) : Option Request :=
  if r.time.isSome || 24 ≤ hour || 60 ≤ minute || 60 < second then none
  else some { r with time := some (hour, minute, second, micro) }

/-- The request with a day; there must not be another one. -/
def Request.on? (r : Request) (year : Int) (month day : Nat) (hasYear : Bool) : Option Request :=
  if r.date.isSome || month == 0 || 12 < month || day == 0 then none
  else if (ofDayNumber (dayNumber year month day)).2 != (month, day) then none
  else some { r with date := some (year, month, day), hasYear }

/-- The hour of a clock with twelve hours. -/
def hourOf? (hour : Nat) (half : Text) : Option Nat :=
  if hour == 0 || 12 < hour then none
  else if half == "am".toList then some (hour % 12)
  else if half == "pm".toList then some (hour % 12 + 12)
  else none

/-- The distance in minutes that a number with a sign gives for a zone. -/
def offset (sign : Char) (n digits minutes : Nat) : Int :=
  let total := if digits ≤ 2 then n * 60 + minutes else n / 100 * 60 + n % 100
  if sign == '-' then -total else total

/-- Reads the zone behind a time. -/
def Request.zoned (r : Request) : List Token → Request × List Token
  | .number n k (some s) none :: .sign ':' :: .number m _ none none :: rest =>
      ({ r with zone := some (offset s n k m) }, rest)
  | .number n k (some s) none :: .word u :: rest =>
      -- A number with a sign in front of a unit is a distance.
      if (r.far? 0 u).isSome then (r, .number n k (some s) none :: .word u :: rest)
      else ({ r with zone := some (offset s n k 0) }, .word u :: rest)
  | .number n k (some s) none :: rest => ({ r with zone := some (offset s n k 0) }, rest)
  | rest => (r, rest)

/-- Reads a time of day behind its hour. -/
def Request.clock? (r : Request) (hour minute second micro : Nat) (rest : List Token) :
    Option (Request × List Token) :=
  match rest with
  | .word w :: more =>
      match hourOf? hour w with
      | some h => (r.at? h minute second micro).map (·.zoned more)
      | none => (r.at? hour minute second micro).map (·, rest)
  | rest => (r.at? hour minute second micro).map (·.zoned rest)

/-- Reads a request of tokens; `now` is the year that is meant if none is written. -/
def request? (now : Int) : Nat → Request → List Token → Option Request
  | 0, _, _ => none
  | _, r, [] => some r
  | fuel + 1, r, ts =>
      let go := fun (r : Option Request) (rest : List Token) => r.bind (request? now fuel · rest)
      let far := fun (n : Int) (u : Text) (rest : List Token) =>
        match rest with
        | .word w :: more =>
            if w == "ago".toList then go (r.far? (-n) u) more else go (r.far? n u) rest
        | _ => go (r.far? n u) rest
      let signed := fun (s : Option Char) (n : Nat) => if s == some '-' then -(n : Int) else n
      match ts with
      | .sign '@' :: .number n _ s f :: rest =>
          let micros := signed s n * perSecond + (if s == some '-' then -((f.getD 0 : Nat) : Int)
            else f.getD 0)
          go (some { r with moment := some micros }) rest
      | .number y k none none :: .number m _ (some '-') none :: .number d _ (some '-') none ::
          rest =>
          let rest := match rest with
            | .word ['t'] :: more => more
            | rest => rest
          go (r.on? (fullYear y k) m d true) rest
      | .number h _ none none :: .sign ':' :: .number m _ none none :: .sign ':' ::
          .number s _ none f :: rest =>
          (r.clock? h m s (f.getD 0) rest).bind fun (r, rest) => request? now fuel r rest
      | .number h _ none none :: .sign ':' :: .number m _ none none :: rest =>
          (r.clock? h m 0 0 rest).bind fun (r, rest) => request? now fuel r rest
      | .number a k none none :: .sign '/' :: .number b _ none none :: .sign '/' ::
          .number c l none none :: rest =>
          if 4 ≤ k then go (r.on? a b c true) rest else go (r.on? (fullYear c l) a b true) rest
      | .number a _ none none :: .sign '/' :: .number b _ none none :: rest =>
          go (r.on? now a b false) rest
      | .number n k s none :: .word w :: rest =>
          match month? w, s with
          | some m, none =>
              match rest with
              | .number y l (some '-') none :: more => go (r.on? (fullYear y l) m n true) more
              | .number y l none none :: .sign ':' :: more =>
                  go (r.on? now m n false) (.number y l none none :: .sign ':' :: more)
              | .number y l none none :: more => go (r.on? (fullYear y l) m n true) more
              | more => go (r.on? now m n false) more
          | _, _ =>
              if (r.far? 0 w).isSome then far (signed s n) w rest
              else
                match hourOf? n w, weekday? w with
                | some h, _ => go (r.at? h 0 0 0) rest
                | none, some d => go (some { r with weekday := some (n, d) }) rest
                | none, none => plain fuel r n k s (.word w :: rest)
      | .number n k s none :: rest => plain fuel r n k s rest
      | .word w :: rest =>
          match month? w, rest with
          | some m, .number d _ none none :: .sign ',' :: .number y l none none :: more =>
              go (r.on? (fullYear y l) m d true) more
          | some m, .number d _ none none :: more => go (r.on? now m d false) more
          | _, _ =>
              match ordinal? w, rest with
              | some n, .word u :: more =>
                  match weekday? u with
                  | some d => go (some { r with weekday := some (n, d) }) more
                  | none => far n u more
              | _, _ =>
                  match weekday? w, zone? w with
                  | some d, _ =>
                      let rest := match rest with
                        | .sign ',' :: more => more
                        | rest => rest
                      go (some { r with weekday := some (0, d) }) rest
                  | none, some z =>
                      if r.zone.isSome then none
                      else
                        let (r, rest) := ({ r with zone := none }).zoned rest
                        go (some { r with zone := some (z + r.zone.getD 0) }) rest
                  | none, none =>
                      match String.ofList w with
                      | "now" => go (some { r with isDistant := true }) rest
                      | "today" => go (some { r with isDistant := true }) rest
                      | "tomorrow" =>
                          go (some { r with isDistant := true, days := r.days + 1 }) rest
                      | "yesterday" =>
                          go (some { r with isDistant := true, days := r.days - 1 }) rest
                      | _ => if (r.far? 0 w).isSome then far 1 w rest else none
      | _ => none
where
  /-- Goes on behind a number by itself: a year behind a day, a day without signs, or a time. -/
  plain (fuel : Nat) (r : Request) (n k : Nat) (s : Option Char) (rest : List Token) :
      Option Request :=
    if s.isSome then none
    else
      match r.date with
      | some (_, m, d) =>
          if !r.hasYear && !r.isDistant && (r.time.isSome || 2 < k) then
            (({ r with date := none }).on? n m d true).bind (request? now fuel · rest)
          else if k ≤ 4 then
            (r.at? (if k ≤ 2 then n else n / 100) (if k ≤ 2 then 0 else n % 100) 0 0).bind
              (request? now fuel · rest)
          else none
      | none =>
          if 4 < k then
            (r.on? (fullYear (n / 10000) (k - 4)) (n / 100 % 100) (n % 100) true).bind
              (request? now fuel · rest)
          else
            (r.at? (if k ≤ 2 then n else n / 100) (if k ≤ 2 then 0 else n % 100) 0 0).bind
              (request? now fuel · rest)

/-- The moment that a request asks for. -/
def Request.answer (r : Request) (now : Int) : Int :=
  match r.moment with
  | some t => t + r.micros + r.days * secondsPerDay * perSecond
  | none =>
      let present := ofMoment now
      let keepsTime := r.isDistant && r.date.isNone && r.weekday.isNone
      let (hour, minute, second, micro) := r.time.getD
        (if keepsTime then (present.hour, present.minute, present.second, present.micro)
        else (0, 0, 0, 0))
      let (year, month, day) := r.date.getD (present.year, present.month, present.day)
      let months := (year + r.years) * 12 + (month - 1 : Nat) + r.months
      let n := dayNumber (months.fdiv 12) ((months.fmod 12).toNat + 1) (day + r.days)
      let n := match r.weekday, r.date with
        | some (ordinal, d), none =>
            let today := Date.weekday n
            let ahead : Nat := (d + 7 - today) % 7
            let more := if 0 < ordinal && today != d then ordinal - 1 else ordinal
            n + ahead + 7 * more
        | _, _ => n
      let seconds := n * secondsPerDay + (hour * 3600 + minute * 60 + second : Nat) -
        (r.zone.getD 0) * 60
      seconds * perSecond + micro + r.micros

/-- The moment that a text asks for when it is `now`. -/
def moment? (now : Int) (t : Text) : Option Int :=
  let ts := tokens (t.length + 1) t
  (request? (ofMoment now).year (2 * ts.length + 2) {} ts).map (·.answer now)

/-- The moment of digits as a stamp has them: the month, the day, the hour and the minute, with the
year in front or nothing, and the seconds behind a point or nothing. -/
def stamp? (now : Int) (t : Text) : Option Int :=
  let (body, seconds) := Text.cutAt '.' t
  let second := match seconds with
    | some s => if s.length == 2 && s.all Char.isDigit then some (inBase 10 s) else none
    | none => some 0
  let full := body.length - 8
  let year := inBase 10 (body.take full)
  let rest := body.drop full
  let pair := fun (i : Nat) => inBase 10 ((rest.drop i).take 2)
  if !body.all Char.isDigit || !([8, 10, 12].contains body.length) then none
  else
    second.bind fun second =>
      let y : Int := if full == 0 then (ofMoment now).year
        else if full == 2 then fullYear year 2 else year
      ((({} : Request).on? y (pair 0) (pair 2) true).bind
        (·.at? (pair 4) (pair 6) second 0)).map (·.answer now)

end Date

end Runbook.Shell
