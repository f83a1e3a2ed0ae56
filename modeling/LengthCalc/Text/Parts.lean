namespace LengthCalc

/-!
# Lists of parts

Reading parts that are separated by commas, up to a closing sign.  What may
stand between a part and a sign is skipped by a given function.
-/

/--
A nonempty list of parts with commas between them, up to a closing sign.  The
fuel bounds the number of parts.
-/
def readParts?
    {α : Type}
    (skip : List Char → List Char)
    (readPart? : List Char → Option (α × List Char))
    (closing : Char) :
    (fuel : Nat) → List Char → Option (List α × List Char)
  | 0, _ => none
  | fuel + 1, characters =>
      match readPart? (skip characters) with
      | none => none
      | some (part, rest) =>
          match skip rest with
          | [] => none
          | sign :: later =>
              if sign = ',' then
                (readParts? skip readPart? closing fuel later).map
                  fun (parts, remaining) => (part :: parts, remaining)
              else if sign = closing then
                some ([part], later)
              else
                none

/-- A list of parts, which may be empty, up to a closing sign. -/
def readList?
    {α : Type}
    (skip : List Char → List Char)
    (readPart? : List Char → Option (α × List Char))
    (closing : Char)
    (fuel : Nat)
    (characters : List Char) :
    Option (List α × List Char) :=
  match skip characters with
  | [] => none
  | sign :: later =>
      if sign = closing then
        some ([], later)
      else
        readParts? skip readPart? closing fuel (sign :: later)

/--
A list of parts, which may be empty and may have a comma at its end, up to a
closing sign.
-/
def readClosedParts?
    {α : Type}
    (skip : List Char → List Char)
    (readPart? : List Char → Option (α × List Char))
    (closing : Char) :
    (fuel : Nat) → List Char → Option (List α × List Char)
  | 0, _ => none
  | fuel + 1, characters =>
      match skip characters with
      | [] => none
      | first :: others =>
          if first = closing then
            some ([], others)
          else
            match readPart? (first :: others) with
            | none => none
            | some (part, rest) =>
                match skip rest with
                | [] => none
                | sign :: later =>
                    if sign = ',' then
                      (readClosedParts? skip readPart? closing fuel later).map
                        fun (parts, remaining) => (part :: parts, remaining)
                    else if sign = closing then
                      some ([part], later)
                    else
                      none

end LengthCalc
