import InteropBridge.Toml.Value

/-!
# Moments of a document

Dates and times of day, read from a whole word.  A date must exist in its year;
seconds go up to 60 for leap seconds.
-/

namespace InteropBridge.Toml.Moment

/-- The value of exactly two digits at the front of a word, and the rest. -/
def twoDigits? : List Char → Option (Nat × List Char)
  | tens :: ones :: rest =>
      if tens.isDigit && ones.isDigit then
        some ((tens.toNat - 48) * 10 + (ones.toNat - 48), rest)
      else none
  | _ => none

/-- The number of days of a month. -/
def daysIn (year month : Nat) : Nat :=
  if month = 2 then
    if year % 4 = 0 && (year % 100 ≠ 0 || year % 400 = 0) then 29 else 28
  else if month = 4 || month = 6 || month = 9 || month = 11 then 30
  else 31

/-- The rest of a word after a date. -/
def afterDate? (word : List Char) : Option (List Char) := do
  let (century, word) ← twoDigits? word
  let (yearOfCentury, word) ← twoDigits? word
  match word with
  | '-' :: word => do
      let (month, word) ← twoDigits? word
      match word with
      | '-' :: word => do
          let (day, word) ← twoDigits? word
          let year := century * 100 + yearOfCentury
          if 1 ≤ month && month ≤ 12 && 1 ≤ day && day ≤ daysIn year month then some word
          else none
      | _ => none
  | _ => none

/-- The rest of a word after a time of day. -/
def afterTime? (word : List Char) : Option (List Char) := do
  let (hour, word) ← twoDigits? word
  match word with
  | ':' :: word => do
      let (minute, word) ← twoDigits? word
      match word with
      | ':' :: word => do
          let (second, word) ← twoDigits? word
          if 24 ≤ hour || 60 ≤ minute || 61 ≤ second then none
          else match word with
          | '.' :: places =>
              if (places.head?.any Char.isDigit) then some (places.dropWhile Char.isDigit) else none
          | word => some word
      | _ => none
  | _ => none

/-- Whether a word is empty or the offset of a time zone. -/
def isOffset (word : List Char) : Bool :=
  match word with
  | [] => true
  | ['Z'] | ['z'] => true
  | sign :: word =>
      (sign == '+' || sign == '-') &&
        match twoDigits? word with
        | some (hour, ':' :: word) =>
            match twoDigits? word with
            | some (minute, []) => hour < 24 && minute < 60
            | _ => false
        | _ => false

/-- Whether a word is a time of day, perhaps with an offset. -/
def isTimeWithOffset (word : List Char) : Bool :=
  (afterTime? word).any isOffset

/-- Whether a word is a date, a time of day, or a date and a time joined by a
letter. -/
def isMoment (word : List Char) : Bool :=
  match afterDate? word with
  | some [] => true
  | some (mark :: time) => (mark == 'T' || mark == 't') && isTimeWithOffset time
  | none => afterTime? word == some []

/-- Whether a word is a date alone, after which a time may follow a blank. -/
def isDate (word : List Char) : Bool :=
  afterDate? word == some []

end InteropBridge.Toml.Moment
