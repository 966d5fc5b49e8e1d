import CodeMetrics.Json.Reader

/-!
# TOML dates and times

A day is `1979-05-27`, a time of day `07:32:00` with an optional fraction of a second, and the two are joined by a `T`
or a space, perhaps with `Z` or an offset such as `-05:30` behind them. Fractions are cut after six digits. What
follows a day without being a complete time does not belong to it.
-/

namespace CodeMetrics.Toml

/-- Exactly so many digits at the head of the text, as a number from `least` to `greatest`. -/
def field? (width least greatest : Nat) (cs : List Char) : Option (Nat × List Char) :=
  let ds := cs.take width
  let n := Json.digitsNat ds
  if ds.length = width && ds.all Json.isDigit && decide (least ≤ n) && decide (n ≤ greatest) then
    some (n, cs.drop width)
  else none

/-- What follows a character that has to stand at the head of the text. -/
def after? (c : Char) (cs : List Char) : Option (List Char) :=
  match cs with
  | d :: rest => if d = c then some rest else none
  | [] => none

/-- Millionths from the digits behind a point, if there are any. -/
def fraction (cs : List Char) : Nat × List Char :=
  match cs with
  | '.' :: rest =>
    let ds := rest.takeWhile Json.isDigit
    if ds.isEmpty then (0, cs)
    else
      let kept := ds.take 6
      (Json.digitsNat (kept ++ List.replicate (6 - kept.length) '0'), rest.drop ds.length)
  | _ => (0, cs)

/-- A time of day at the head of the text. -/
def clock? (cs : List Char) : Option (Clock × List Char) := do
  let (hour, cs) ← field? 2 0 23 cs
  let cs ← after? ':' cs
  let (minute, cs) ← field? 2 0 59 cs
  let cs ← after? ':' cs
  let (second, cs) ← field? 2 0 59 cs
  let (micro, cs) := fraction cs
  return (⟨hour, minute, second, micro⟩, cs)

/-- A day at the head of the text. Its month has it or not: that is not looked at here. -/
def day? (cs : List Char) : Option (Day × List Char) := do
  let (year, cs) ← field? 4 0 9999 cs
  let cs ← after? '-' cs
  let (month, cs) ← field? 2 1 12 cs
  let cs ← after? '-' cs
  let (day, cs) ← field? 2 1 31 cs
  return (⟨year, month, day⟩, cs)

/-- The hours and minutes of an offset, as minutes. -/
def offsetMinutes? (cs : List Char) : Option (Int × List Char) := do
  let (hour, cs) ← field? 2 0 23 cs
  let cs ← after? ':' cs
  let (minute, cs) ← field? 2 0 59 cs
  return (60 * hour + minute, cs)

/-- The offset behind a time, if there is one. -/
def offset (cs : List Char) : Option Int × List Char :=
  match cs with
  | '+' :: rest =>
    match offsetMinutes? rest with
    | some (n, rest) => (some n, rest)
    | none => (none, cs)
  | '-' :: rest =>
    match offsetMinutes? rest with
    | some (n, rest) => (some (-n), rest)
    | none => (none, cs)
  | c :: rest => if c = 'Z' ∨ c = 'z' then (some 0, rest) else (none, cs)
  | [] => (none, cs)

/-- The time that follows a day, with its offset. -/
def clockAfterDay? (cs : List Char) : Option (Clock × Option Int × List Char) :=
  match cs with
  | c :: rest =>
    if c = 'T' ∨ c = 't' ∨ c = ' ' then do
      let (clock, rest) ← clock? rest
      let (zone, rest) := offset rest
      return (clock, zone, rest)
    else none
  | [] => none

/-- A moment at the head of the text. -/
def moment? (cs : List Char) : Option (Moment × List Char) :=
  match day? cs with
  | some (d, rest) =>
    match clockAfterDay? rest with
    | some (c, zone, rest) => some (.both d c zone, rest)
    | none => some (.day d, rest)
  | none => (clock? cs).map fun (c, rest) => (.clock c, rest)

end CodeMetrics.Toml
