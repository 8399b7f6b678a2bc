import RequestFile.Text.Digits

/-!
This module contains dates and times of the day, with or without an offset from universal time, and
their texts.
-/

namespace RequestFile

structure Date where
  year : Nat
  month : Nat
  day : Nat
  deriving DecidableEq, Repr

structure TimeOfDay where
  hour : Nat
  minute : Nat
  second : Nat
  microsecond : Nat
  deriving DecidableEq, Repr

structure DateTime where
  date : Date
  time : TimeOfDay
  offset : Option Int
  deriving DecidableEq, Repr

namespace Date

def isLeapYear (year : Nat) : Bool :=
  year % 4 == 0 && (year % 100 != 0 || year % 400 == 0)

def daysInMonth (year month : Nat) : Nat :=
  match month with
  | 1 | 3 | 5 | 7 | 8 | 10 | 12 => 31
  | 4 | 6 | 9 | 11 => 30
  | 2 => if isLeapYear year then 29 else 28
  | _ => 0

def isValid (d : Date) : Bool :=
  1 ≤ d.year && d.year ≤ 9999 && 1 ≤ d.day && d.day ≤ daysInMonth d.year d.month

def text (d : Date) : String :=
  String.ofList (Text.decimal 4 d.year ++ '-' :: Text.decimal 2 d.month
    ++ '-' :: Text.decimal 2 d.day)

end Date

namespace TimeOfDay

def text (t : TimeOfDay) : String :=
  let clock := Text.decimal 2 t.hour ++ ':' :: Text.decimal 2 t.minute
    ++ ':' :: Text.decimal 2 t.second
  let fraction := if t.microsecond = 0 then [] else '.' :: Text.decimal 6 t.microsecond
  String.ofList (clock ++ fraction)

end TimeOfDay

namespace DateTime

def offsetText (minutes : Int) : String :=
  String.ofList ((if minutes < 0 then '-' else '+') :: Text.decimal 2 (minutes.natAbs / 60)
    ++ ':' :: Text.decimal 2 (minutes.natAbs % 60))

def textWith (separator : String) (t : DateTime) : String :=
  t.date.text ++ separator ++ t.time.text ++ (t.offset.map offsetText).getD ""

def text (t : DateTime) : String :=
  t.textWith "T"

def interchangeText (t : DateTime) : String :=
  if t.offset = some 0 then
    { t with offset := none }.text ++ "Z"
  else
    t.text

end DateTime

end RequestFile
